import Interpolation.Text.Search

/-!
# Placeholder dialects

A dialect fixes how a placeholder is written: the delimiters around its name, the separator between
the name and a default value, and whether a placeholder without a value is left in the text or is a
failure.  A delimiter is never empty and has characters only, and a separator is never empty; the
type says so.

Nesting inside a placeholder is counted with the *short opening*.  It is the single opening
bracket where the closing delimiter is one closing bracket and the opening delimiter ends in the
bracket that belongs to it, and the whole opening delimiter otherwise.
-/

set_option autoImplicit false

namespace Interpolation

/-- How placeholders are written, and whether one without a value may stay. -/
structure Dialect where
  /-- The text that starts a placeholder. -/
  opening : Text
  /-- The text that ends a placeholder. -/
  closing : Text
  /-- The text between a name and its default value, where defaults are allowed. -/
  separator : Option Text
  /-- Whether a placeholder without a value is left as it is. -/
  lenient : Bool
  opening_ne_nil : opening ≠ []
  closing_ne_nil : closing ≠ []
  opening_isUnicode : opening.isUnicode
  closing_isUnicode : closing.isUnicode
  separator_ne_nil : separator ≠ some []
deriving DecidableEq

namespace Dialect

/-- The bracket that opens what a closing delimiter of one bracket closes. -/
def openingBracket? : Text → Option CodePoint
  | [.char '}'] => some (.char '{')
  | [.char ']'] => some (.char '[')
  | [.char ')'] => some (.char '(')
  | _ => none

/-- The short opening of two delimiters. -/
def shortOpeningOf (opening closing : Text) : Text :=
  match openingBracket? closing with
  | some bracket => if opening.getLast? = some bracket then [bracket] else opening
  | none => opening

/-- The text that counts as one more level of nesting inside a placeholder. -/
def shortOpening (d : Dialect) : Text :=
  shortOpeningOf d.opening d.closing

theorem opening_length_pos (d : Dialect) : 0 < d.opening.length :=
  List.length_pos_iff.mpr d.opening_ne_nil

theorem closing_length_pos (d : Dialect) : 0 < d.closing.length :=
  List.length_pos_iff.mpr d.closing_ne_nil

theorem shortOpening_ne_nil (d : Dialect) : d.shortOpening ≠ [] := by
  unfold shortOpening shortOpeningOf
  split
  · split
    · simp
    · exact d.opening_ne_nil
  · exact d.opening_ne_nil

theorem shortOpening_length_pos (d : Dialect) : 0 < d.shortOpening.length :=
  List.length_pos_iff.mpr d.shortOpening_ne_nil

end Dialect

end Interpolation
