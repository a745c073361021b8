import Interpolation.Decimal.Shortest

/-!
# Rounded decimals

The digits of a binary floating-point number with a given number of places behind the point, or with
a given number of significant digits.  Rounding is exact, and a half goes to the even neighbour.
-/

set_option autoImplicit false

namespace Interpolation

namespace Binary64

/-- The number `significand * 2 ^ exponent` as a quotient of whole numbers. -/
def quotient (significand : Nat) (exponent : Int) : Nat × Nat :=
  (significand * Nat.pow 2 exponent.toNat, Nat.pow 2 (-exponent).toNat)

/-- The number `significand * 2 ^ exponent` in units of the last of so many places behind the point.
-/
def inPlaces (significand : Nat) (exponent : Int) (places : Nat) : Nat :=
  let (n, d) := quotient significand exponent
  roundQuotient (n * Nat.pow 10 places) d

/-- The positive number `significand * 2 ^ exponent` with so many significant digits. -/
def significant (significand : Nat) (exponent : Int) (count : Nat) : Numeral :=
  let (n, d) := quotient significand exponent
  let place := decimalPoint significand exponent - count
  let digits := roundQuotient (n * Nat.pow 10 (-place).toNat) (d * Nat.pow 10 place.toNat)
  if digits = Nat.pow 10 count then ⟨Nat.pow 10 (count - 1), place + 1⟩ else ⟨digits, place⟩

/-- A number times a hundred. -/
def hundredfold : Binary64 → Binary64
  | .finite negative significand exponent =>
    if significand = 0 then .finite negative significand exponent
    else
      let (n, d) := quotient significand exponent
      ofQuotient negative (100 * n) d
  | x => x

end Binary64

end Interpolation
