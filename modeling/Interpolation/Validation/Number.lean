import Interpolation.Validation
import Interpolation.Text.Digits
import Interpolation.Text.Blank

/-!
# Numbers in texts

How a whole number and a float are read from what a text writes.

A whole number may have blanks around it, a plus sign, zeros before its first other digit, single
underscores between its digits, and a fraction of zeros; all of this is taken away first.  Among the
zeros before the first other digit any underscores may stand, and behind them a minus sign.  What is
left has to be the number as it is usually written.

A float may have blanks around it.  If the text is no float as it stands, it is read again without
its underscores, provided that each of them stands alone and inside the text.
-/

set_option autoImplicit false

namespace Interpolation

namespace Field

/-! ## Underscores -/

/-- Whether every underscore of a text stands alone, and none at its start or its end. -/
def separatesWell (t : Characters) : Bool :=
  t.head? ≠ some '_' && t.getLast? ≠ some '_' && (Text.indexOf? ['_', '_'] t).isNone

/-- A text without its underscores. -/
def withoutUnderscores (t : Characters) : Characters :=
  t.filter (· ≠ '_')

/-! ## Whole numbers -/

/-- Whether a character is a digit other than zero. -/
def isNonzeroDigit (c : Char) : Bool :=
  '1' ≤ c && c ≤ '9'

/-- A text without the point and the zeros at its end, if it ends so. -/
def withoutZeroFraction (t : Characters) : Characters :=
  match Text.cutAt? ['.'] t with
  | some (whole, fraction) =>
    if fraction ≠ [] ∧ fraction.all (· = '0') then whole else t
  | none => t

/-- A text from its first digit other than zero on, or from a minus sign before that, where it has
only zeros and underscores before; `last` is the character before the text. -/
def fromFirstDigit? (last : Char) : Characters → Option Characters
  | [] => some [last]
  | c :: rest =>
    if isNonzeroDigit c ∨ c = '-' then some (c :: rest)
    else if c = '0' ∨ c = '_' then fromFirstDigit? c rest
    else none

/-- A text without the zeros before its first other digit. -/
def withoutLeadingZeros? : Characters → Option Characters
  | [] => none
  | c :: rest =>
    if isNonzeroDigit c then some (c :: rest)
    else if c = '0' then fromFirstDigit? c rest
    else none

/-- The sign at the start of a text, which is a minus if this is true, and the text after it; two
signs are none. -/
def takeSign? : Characters → Option (Bool × Characters)
  | '+' :: '-' :: _ => none
  | '+' :: rest => some (false, rest)
  | '-' :: rest => some (true, rest)
  | t => some (false, t)

/-- A whole number as it is usually written, from a text that writes it in another way. -/
def plainNumeral? (t : Characters) : Option Characters := do
  let (negative, unsigned) ← takeSign? t.trim
  let digits ← withoutLeadingZeros? (withoutZeroFraction unsigned)
  let digits := if separatesWell digits then withoutUnderscores digits else digits
  return if negative then '-' :: digits else digits

/-- The digits of a number as it is usually written, and whether it has a minus sign. -/
def digitsOf? (t : Characters) : Option (Bool × Characters) :=
  let (negative, digits) : Bool × Characters :=
    match t with
    | '-' :: rest => (true, rest)
    | _ => (false, t)
  match digits with
  | [] => none
  | c :: rest =>
    if digits.all Char.isDigit ∧ (isNonzeroDigit c ∨ rest = []) then some (negative, digits)
    else none

/-- The number of characters, sign included, of the whole number that a text begins with. -/
def numeralLength (t : Characters) : Nat :=
  let unsigned : Characters := if t.head? = some '-' then t.drop 1 else t
  if unsigned.head?.any isNonzeroDigit then
    t.length - unsigned.length + (unsigned.takeWhile Char.isDigit).length
  else 0

/-- Reads the whole number that characters write.  A number that is too long at the start of them
is too large, whatever follows it. -/
def intOf (t : Characters) : Except Issue Int :=
  if Characters.digitLimit < numeralLength t then .error .intTooLarge
  else
    match plainNumeral? t with
    | none => .error .intParsing
    | some numeral =>
      match digitsOf? numeral with
      | none => .error .intParsing
      | some (negative, digits) =>
        if Characters.digitLimit < numeral.length then .error .intTooLarge
        else
          let magnitude : Int := Characters.wholeNumber digits
          .ok (if negative then -magnitude else magnitude)

/-! ## Floats -/

/-- The sign at the start of a text, which is a minus if this is true, and the text after it. -/
def takeSign : Characters → Bool × Characters
  | '-' :: rest => (true, rest)
  | '+' :: rest => (false, rest)
  | t => (false, t)

/-- The exponent that a text writes from its first character on; no exponent is zero. -/
def exponentOfText? : Characters → Option Int
  | [] => some 0
  | e :: rest =>
    if e = 'e' ∨ e = 'E' then
      let (negative, digits) := takeSign rest
      if digits ≠ [] ∧ digits.all Char.isDigit then
        let magnitude : Int := Characters.wholeNumber digits
        some (if negative then -magnitude else magnitude)
      else none
    else none

/-- The float that a text without underscores writes. -/
def plainFloat? (t : Characters) : Option Binary64 :=
  let (negative, unsigned) := takeSign t
  let word : Characters := unsigned.map Char.toLower
  if word = "inf".toList ∨ word = "infinity".toList then some (.infinite negative)
  else if word = "nan".toList then some .nan
  else
    let whole : Characters := unsigned.takeWhile Char.isDigit
    let rest := unsigned.drop whole.length
    let fraction : Characters :=
      if rest.head? = some '.' then (rest.drop 1).takeWhile Char.isDigit else []
    let rest := if rest.head? = some '.' then rest.drop (fraction.length + 1) else rest
    if whole = [] ∧ fraction = [] then none
    else
      (exponentOfText? rest).map fun exponent =>
        Binary64.ofDecimal negative (Characters.wholeNumber (whole ++ fraction))
          (exponent - fraction.length)

/-- Reads the float that characters write. -/
def floatOf (t : Characters) : Except Issue Binary64 :=
  match plainFloat? t.trim with
  | some x => .ok x
  | none =>
    if '_' ∈ t ∧ separatesWell t then
      match plainFloat? (withoutUnderscores t).trim with
      | some x => .ok x
      | none => .error .floatParsing
    else .error .floatParsing

/-! ## Texts -/

/-- Reads what the characters of a text write. -/
def readCharacters {α : Type} (read : Characters → Except Issue α) (t : Text) : Except Issue α :=
  match t.characters? with
  | some characters => read characters
  | none => .error .notUnicode

/-- Reads the whole number that a text writes. -/
def intOfText (t : Text) : Except Issue Int :=
  readCharacters intOf t

/-- Reads the float that a text writes. -/
def floatOfText (t : Text) : Except Issue Binary64 :=
  readCharacters floatOf t

end Field

end Interpolation
