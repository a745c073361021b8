/-!
# Code points

A text is a sequence of code points.  A code point is a character, or half of a surrogate pair,
which no sequence of characters has: such a half comes into a text from outside, where JSON text
names it by its number, or where it stands for a byte that is part of no character.

What is known to have characters only is of the type `Characters`: what files hold, what stands for
a number, and what is shown on a page.
-/

set_option autoImplicit false

namespace Interpolation

/-- Half of a surrogate pair, by its number. -/
abbrev Half := { code : Nat // 0xD800 ≤ code ∧ code < 0xE000 }

/-- What a text is made of. -/
inductive CodePoint
  | char (c : Char)
  /-- Half of a surrogate pair, standing alone. -/
  | half (h : Half)
deriving DecidableEq

/-- A sequence of characters. -/
abbrev Characters := List Char

/-- A text is a sequence of code points. -/
abbrev Text := List CodePoint

/-- Sequences of characters are compared character by character, so those that compare as equal
are. -/
instance : LawfulBEq Characters :=
  inferInstance

/-- Texts are compared code point by code point, so those that compare as equal are. -/
instance : LawfulBEq Text :=
  inferInstance

namespace CodePoint

/-- The number of a code point. -/
def toNat : CodePoint → Nat
  | char c => c.toNat
  | half h => h.val

/-- The code point of a number. -/
def ofNat (n : Nat) : CodePoint :=
  if h : 0xD800 ≤ n ∧ n < 0xE000 then half ⟨n, h⟩ else char (Char.ofNat n)

/-- Whether a code point is a character of a class. -/
def isIn (p : Char → Bool) : CodePoint → Bool
  | char c => p c
  | half _ => false

/-- A code point with its character replaced by another one. -/
def mapChar (f : Char → Char) : CodePoint → CodePoint
  | char c => char (f c)
  | half h => half h

end CodePoint

namespace Text

/-- The text of characters. -/
def ofCharacters (characters : Characters) : Text :=
  characters.map .char

/-- A text is of no more than one sequence of characters. -/
theorem ofCharacters_inj {a b : Characters} : ofCharacters a = ofCharacters b ↔ a = b :=
  List.map_inj_right fun _ _ => CodePoint.char.inj

/-- The characters of a text, if it has nothing else. -/
def characters? : Text → Option Characters
  | [] => some []
  | .char c :: rest => (characters? rest).map (c :: ·)
  | .half _ :: _ => none

/-- Whether a text has characters only, as Unicode text has. -/
def isUnicode (text : Text) : Bool :=
  text.characters?.isSome

end Text

end Interpolation

/-- The text of a string. -/
def String.text (s : String) : Interpolation.Text :=
  .ofCharacters s.toList
