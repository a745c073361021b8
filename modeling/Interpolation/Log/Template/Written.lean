import Interpolation.Decimal.Rounded
import Interpolation.Log.Template.Placement
import Interpolation.Log.Template.Subject
import Interpolation.Text.Blank

/-!
# Written arguments

How an argument is written at its place.  A text is cut to its precision and filled up.  A whole
number is written in a base, or as the character of that number; in a form for fractions it is
written as a float.  A float is written with a number of places, or with a number of significant
digits and an exponent, or in whichever of these two ways is shorter.  Other values are written only
where nothing is said about their place.
-/

set_option autoImplicit false

namespace Interpolation

namespace Log

namespace Placement

/-! ## Texts -/

/-- A text at its place. -/
def writeText (p : Placement) (text : Text) : Except TemplateProblem Text :=
  if p.form ≠ some (.char 's') then .error (.unknownForm (p.form.getD (.char 's')) "str")
  else if p.sign = some ' ' then .error .spaceOfText
  else if p.sign.isSome then .error .signOfText
  else if p.unsignedZero then .error .zeroOfText
  else if p.marked then .error .markOfText
  else if p.side = .behindSign then .error .behindSignOfText
  else .ok (p.fit [] (text.take (p.precision.getD text.length)))

/-! ## Whole numbers -/

/-- The sign of a number. -/
def signOf (p : Placement) (negative : Bool) : Characters :=
  if negative then "-".toList
  else
    match p.sign with
    | some '+' => "+".toList
    | some ' ' => " ".toList
    | _ => []

/-- The bases of the forms of whole numbers. -/
def base? : Char → Option Nat
  | 'd' | 'n' => some 10
  | 'b' => some 2
  | 'o' => some 8
  | 'x' | 'X' => some 16
  | _ => none

/-- A whole number at its place, in a base. -/
def writeInBase (p : Placement) (form : Char) (base : Nat) (n : Int) : Text :=
  let letters (text : Characters) := if form = 'X' then text.map Char.toUpper else text
  let mark := if p.marked ∧ base ≠ 10 then ['0', form] else []
  p.fitNumber (p.signOf (n < 0)) mark (letters (Nat.toDigits base n.natAbs)) []

/-- The character of a number at its place. -/
def writeCharacter (p : Placement) (n : Int) : Except TemplateProblem Text :=
  if p.sign.isSome then .error .signOfCharacter
  else if p.marked then .error .markOfCharacter
  else if n < -Int.pow 2 63 ∨ Int.pow 2 63 ≤ n then .error .tooLargeForCharacter
  else if n < 0 ∨ 0x110000 ≤ n then .error .noCharacter
  else .ok (p.fit [] [.ofNat n.toNat])

/-! ## Floats -/

/-- The text behind the digits before a point. -/
def behindPoint (p : Placement) (fraction : Characters) : Characters :=
  if fraction = [] ∧ !p.marked then [] else '.' :: fraction

/-- No number has more digits behind its point, or more significant digits, than this many; all
others are zeros. -/
def mostDigits : Nat := 1100

/-- The digits before and behind the point of a number with so many places. -/
def inPlaces (significand : Nat) (exponent : Int) (places : Nat) : Characters × Characters :=
  let exact := min places mostDigits
  let digits := Characters.ofNat (Binary64.inPlaces significand exponent exact)
  let digits := List.replicate (exact + 1 - digits.length) '0' ++ digits
  (digits.take (digits.length - exact),
    digits.drop (digits.length - exact) ++ List.replicate (places - exact) '0')

/-- The digits of a number, and the exponent of the first one. -/
def inDigits (significand : Nat) (exponent : Int) (count : Nat) : Characters × Int :=
  if significand = 0 then (List.replicate count '0', 0)
  else
    let exact := min count mostDigits
    let numeral := Binary64.significant significand exponent exact
    (Characters.ofNat numeral.digits ++ List.replicate (count - exact) '0',
      numeral.exponent + exact - 1)

/-- The text of an exponent. -/
def exponentText (exponent : Int) : Characters :=
  let digits := Characters.ofNat exponent.natAbs
  'e' :: (if exponent < 0 then '-' else '+') :: List.replicate (2 - digits.length) '0' ++ digits

/-- A text without the zeros at its end. -/
def withoutZeros (text : Characters) : Characters :=
  text.dropEndWhile (· = '0')

/-- The digits of a magnitude with an exponent, and all that is behind the first one. -/
def scientific (p : Placement) (significand : Nat) (exponent : Int) (places : Nat)
    (trim : Bool) : Characters × Characters :=
  let (digits, first) := inDigits significand exponent (places + 1)
  let fraction := digits.drop 1
  (digits.take 1,
    p.behindPoint (if trim then withoutZeros fraction else fraction) ++ exponentText first)

/-- The digits of a magnitude in the shorter way.  A number whose form is not given keeps a digit
behind its point, and has an exponent where all of its digits would stand before the point. -/
def general (p : Placement) (significand : Nat) (exponent : Int) (precision : Nat)
    (plain : Bool) : Characters × Characters :=
  let count := max 1 precision
  let first := (inDigits significand exponent count).2
  let bound : Int := if plain then (count : Int) - 1 else count
  if -4 ≤ first ∧ first < bound then
    let (whole, fraction) := inPlaces significand exponent ((count : Int) - 1 - first).toNat
    let fraction := if p.marked then fraction else withoutZeros fraction
    (whole, if plain ∧ fraction = [] then ".0".toList else p.behindPoint fraction)
  else p.scientific significand exponent (count - 1) (!p.marked)

/-- The digits of a magnitude before its point, and all that is behind them. -/
def magnitude (p : Placement) (form : Option CodePoint) (significand : Nat) (exponent : Int) :
    Characters × Characters :=
  match form, p.precision with
  | none, none =>
    let text := messageLayout.write (.finite false significand exponent)
    let digits : Characters := text.takeWhile Char.isDigit
    let rest := text.drop digits.length
    (digits, if p.marked ∧ '.' ∉ rest then '.' :: rest else rest)
  | none, some precision => p.general significand exponent precision true
  | some form, precision =>
    let precision := precision.getD 6
    if form ∈ "eE".text then p.scientific significand exponent precision false
    else if form ∈ "gGn".text then p.general significand exponent precision false
    else
      let (whole, fraction) := inPlaces significand exponent precision
      (whole, p.behindPoint fraction)

/-- The forms of floats. -/
def floatForms : List CodePoint :=
  "eEfFgGn%".text

/-- The text of a float at its place. -/
def floatText (p : Placement) (x : Binary64) : Text :=
  let hundredths := p.form = some (.char '%')
  let x := if hundredths then x.hundredfold else x
  let capital := p.form ∈ [some (.char 'E'), some (.char 'F'), some (.char 'G')]
  let letters (text : Characters) := if capital then text.map Char.toUpper else text
  let behind : Characters := if hundredths then "%".toList else []
  match x with
  | .nan => p.fitNumber (p.signOf false) [] [] (letters "nan".toList ++ behind)
  | .infinite negative =>
    p.fitNumber (p.signOf negative) [] [] (letters "inf".toList ++ behind)
  | .finite negative significand exponent =>
    let (digits, rest) := p.magnitude p.form significand exponent
    let isZero := (digits ++ rest.takeWhile (· ≠ 'e')).all fun c => c = '0' ∨ c = '.'
    p.fitNumber (p.signOf (negative ∧ !(p.unsignedZero ∧ isZero))) [] digits
      (letters rest ++ behind)

/-- The greatest precision of a float. -/
def greatestPrecision : Nat := Nat.pow 2 31 - 1

/-- A float at its place. -/
def writeFloat (p : Placement) (x : Binary64) : Except TemplateProblem Text :=
  if greatestPrecision < p.precision.getD 0 then .error .precisionTooGreat else .ok (p.floatText x)

/-- A whole number at its place. -/
def writeInt (p : Placement) (kind : String) (n : Int) : Except TemplateProblem Text :=
  let form := p.form.getD (.char 'd')
  if form ∈ floatForms ∧ form ≠ .char 'n' then
    match Binary64.ofDecimal (n < 0) n.natAbs 0 with
    | .infinite _ => .error .tooLargeForFloat
    | x => p.writeFloat x
  else
    match form with
    | .char letter =>
      if letter = 'c' ∨ (base? letter).isSome then
        if p.precision.isSome then .error .precisionOfInt
        else if p.unsignedZero then .error .zeroOfInt
        else
          match base? letter with
          | some base => .ok (p.writeInBase letter base n)
          | none => p.writeCharacter n
      else .error (.unknownForm form kind)
    | .half _ => .error (.unknownForm form kind)

end Placement

/-! ## Any subject -/

/-- A subject at a place about which something may be said. -/
def written (placement : Text) (subject : Subject) : Except TemplateProblem Text :=
  if placement = [] then .ok subject.plain
  else
    let kind := subject.kindName
    match subject with
    | .value (.text text) => do
      let p ← Placement.read kind .left (some (.char 's')) placement
      p.write (·.writeText text)
    | .value (.int n) => do
      let p ← Placement.read kind .right (some (.char 'd')) placement
      p.write (·.writeInt kind n)
    | .value (.bool b) => do
      let p ← Placement.read kind .right (some (.char 'd')) placement
      p.write (·.writeInt kind (if b then 1 else 0))
    | .value (.float x) => do
      let p ← Placement.read kind .right none placement
      match p.form with
      | some form =>
        if form ∈ Placement.floatForms then p.write (·.writeFloat x)
        else throw (.unknownForm form kind)
      | none => p.write (·.writeFloat x)
    | _ => .error (.notPlaced kind)

end Log

end Interpolation
