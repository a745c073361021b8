import Interpolation.Text.Digits
import Interpolation.Decimal.Binary64

/-!
# Shortest decimal numerals

The numeral of a binary floating-point number has the fewest digits that read back as that number,
and of the numerals with so few digits it is the one nearest to the number.

For one digit, two digits, and so on, the two neighbours of the number on the grid of decimals with
that many digits are tried; the first grid with a neighbour that reads back is the one wanted.  The
decimals that read back as a number are those between the midpoints to its own neighbours, the
midpoints included where the significand is even.
-/

set_option autoImplicit false

namespace Interpolation

namespace Binary64

/-! ## The digits -/

/-- A positive decimal: whole digits times a power of ten. -/
structure Numeral where
  /-- The digits as one whole number. -/
  digits : Nat
  /-- The power of ten. -/
  exponent : Int
deriving DecidableEq, Inhabited

/-- Whether a quotient is below a power of ten. -/
def belowPowerOfTen (n d : Nat) (exponent : Int) : Bool :=
  n * Nat.pow 10 (-exponent).toNat < d * Nat.pow 10 exponent.toNat

/-- The least power of ten above a number `significand * 2 ^ exponent`. -/
def decimalPoint (significand : Nat) (exponent : Int) : Int :=
  let n := significand * Nat.pow 2 exponent.toNat
  let d := Nat.pow 2 (-exponent).toNat
  let guess := Int.fdiv (((significand.log2 : Int) + exponent) * 30103) 100000
  if belowPowerOfTen n d guess then guess
  else if belowPowerOfTen n d (guess + 1) then guess + 1
  else guess + 2

/-- The decimal with a given number of digits that reads back as `significand * 2 ^ exponent`,
the nearest one if there are several. -/
def numeralOfLength? (significand : Nat) (exponent point : Int) (length : Nat) :
    Option Numeral :=
  -- Everything is counted in quarters of the last binary place, over one denominator.
  let place := point - length
  let scale := fun quarters : Nat =>
    quarters * Nat.pow 2 (exponent - 2).toNat * Nat.pow 10 (-place).toNat
  let unit := Nat.pow 2 (2 - exponent).toNat * Nat.pow 10 place.toNat
  let below := if significand = Nat.pow 2 52 ∧ exponent ≠ leastExponent then 1 else 2
  let low := scale (4 * significand - below)
  let value := scale (4 * significand)
  let high := scale (4 * significand + 2)
  let readsBack := fun candidate : Nat =>
    if significand % 2 = 0 then low ≤ candidate * unit ∧ candidate * unit ≤ high
    else low < candidate * unit ∧ candidate * unit < high
  let under := value / unit
  let above := under + 1
  let nearer := if 2 * value < (under + above) * unit then under
    else if (under + above) * unit < 2 * value then above
    else under + under % 2
  let digits? :=
    if readsBack under then (if readsBack above then some nearer else some under)
    else if readsBack above then some above else none
  digits?.map fun digits => ⟨digits, place⟩

/-- The shortest decimal that reads back as the positive number `significand * 2 ^ exponent`. -/
def shortest (significand : Nat) (exponent : Int) : Numeral :=
  let point := decimalPoint significand exponent
  ((List.range 17).findSome? fun i =>
    numeralOfLength? significand exponent point (i + 1)).getD ⟨significand, exponent⟩

/-! ## The layout -/

/-- How a number is laid out as text. -/
structure Layout where
  /-- The least exponent of the first digit that is written without an exponent. -/
  leastPositional : Int
  /-- The least exponent of the first digit, from there on, that is written with an exponent. -/
  leastScientific : Int
  /-- The least number of digits of a written exponent. -/
  exponentWidth : Nat
  /-- The text of a number that is not a number. -/
  nan : Characters
  /-- The text of the positive infinity. -/
  infinity : Characters

/-- A text of so many zeros. -/
def zeros (n : Nat) : Characters :=
  List.replicate n '0'

/-- The digits of a numeral without the zeros at its end. -/
def significantDigits (digits : Nat) : Characters :=
  ((Characters.ofNat digits).reverse.dropWhile (· = '0')).reverse

/-- The text of a positive numeral in a layout. -/
def Layout.numeral (layout : Layout) (numeral : Numeral) : Characters :=
  let digits := significantDigits numeral.digits
  let point : Int := (Characters.ofNat numeral.digits).length + numeral.exponent
  let first := point - 1
  if layout.leastPositional ≤ first ∧ first < layout.leastScientific then
    if point ≤ 0 then "0.".toList ++ zeros (-point).toNat ++ digits
    else if digits.length ≤ point then
      digits ++ zeros (point.toNat - digits.length) ++ ".0".toList
    else digits.take point.toNat ++ '.' :: digits.drop point.toNat
  else
    let exponent := Characters.ofNat first.natAbs
    digits.take 1 ++ (if digits.length = 1 then [] else '.' :: digits.drop 1) ++
      'e' :: (if first < 0 then '-' else '+') ::
      (zeros (layout.exponentWidth - exponent.length) ++ exponent)

/-- The text of a number in a layout. -/
def Layout.write (layout : Layout) : Binary64 → Characters
  | .nan => layout.nan
  | .infinite negative => if negative then '-' :: layout.infinity else layout.infinity
  | .finite negative significand exponent =>
    let magnitude :=
      if significand = 0 then "0.0".toList else layout.numeral (shortest significand exponent)
    if negative then '-' :: magnitude else magnitude

end Binary64

end Interpolation
