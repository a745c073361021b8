/-!
# Binary floating-point numbers

The 64-bit binary numbers as exact values: a finite one is a whole significand times a power of
two.  The significand is below `2 ^ 53`, the exponent is at least `-1074`, and the exponent is the
least one that this allows; so equal numbers of one sign are written in one way.

`ofDecimal` reads a decimal numeral: the nearest binary number, of two equally near ones the one
with the even significand, and an infinity beyond the largest.  All arithmetic is exact, on whole
numbers.
-/

set_option autoImplicit false

namespace Interpolation

/-- A 64-bit binary floating-point number. -/
inductive Binary64
  | nan
  | infinite (negative : Bool)
  | finite (negative : Bool) (significand : Nat) (exponent : Int)
deriving DecidableEq, Inhabited

namespace Binary64

/-! ## The format -/

/-- Significands are below this bound. -/
def significandBound : Nat := Nat.pow 2 53

/-- The least exponent of a finite number. -/
def leastExponent : Int := -1074

/-- The greatest exponent of a finite number. -/
def greatestExponent : Int := 971

/-- The zero of a sign. -/
def zero (negative : Bool) : Binary64 := .finite negative 0 leastExponent

/-! ## Reading a numeral -/

/-- The whole number nearest to a quotient; a half goes to the even neighbour. -/
def roundQuotient (n d : Nat) : Nat :=
  let q := n / d
  let r := n % d
  if 2 * r < d then q else if d < 2 * r then q + 1 else q + q % 2

/-- The quotient of two whole numbers divided by a power of two, again as two whole numbers. -/
def scaleDown (n d : Nat) (exponent : Int) : Nat × Nat :=
  (n * Nat.pow 2 (-exponent).toNat, d * Nat.pow 2 exponent.toNat)

/-- The number nearest to a positive quotient. -/
def ofQuotient (negative : Bool) (n d : Nat) : Binary64 :=
  let guess : Int := (n.log2 : Int) - d.log2 - 52
  let (n', d') := scaleDown n d guess
  let exponent := max leastExponent (if n' / d' < Nat.pow 2 52 then guess - 1 else guess)
  let (n', d') := scaleDown n d exponent
  let significand := roundQuotient n' d'
  let (significand, exponent) :=
    if significand = significandBound then (Nat.pow 2 52, exponent + 1) else (significand, exponent)
  if greatestExponent < exponent then .infinite negative
  else .finite negative significand exponent

/-- The number nearest to `digits` times a power of ten. -/
def ofDecimal (negative : Bool) (digits : Nat) (exponent : Int) : Binary64 :=
  if digits = 0 then zero negative
  else if 400 < exponent then .infinite negative
  else if exponent < -400 - (digits.log2 : Int) then zero negative
  else ofQuotient negative (digits * Nat.pow 10 exponent.toNat)
    (Nat.pow 10 (-exponent).toNat)

/-! ## Whole numbers among them -/

/-- The whole number that a number is, if it is one. -/
def toInt? : Binary64 → Option Int
  | .finite negative significand exponent =>
    let unit := Nat.pow 2 (-exponent).toNat
    if significand % unit = 0 then
      let magnitude : Int := (significand / unit * Nat.pow 2 exponent.toNat : Nat)
      some (if negative then -magnitude else magnitude)
    else none
  | _ => none

/-- The greatest whole number that is not above a number; none for an infinity. -/
def floor? : Binary64 → Option Int
  | .finite negative significand exponent =>
    let magnitude : Int := (significand * Nat.pow 2 exponent.toNat : Nat)
    some (Int.fdiv (if negative then -magnitude else magnitude) (Nat.pow 2 (-exponent).toNat))
  | _ => none

/-- Whether a number is at least a whole number. -/
def isAtLeast (n : Int) : Binary64 → Bool
  | .nan => false
  | .infinite negative => !negative
  | x => x.floor?.any (n ≤ ·)

/-- Whether a number is at most a whole number: then the number is the whole number or is below it.
-/
def isAtMost (n : Int) : Binary64 → Bool
  | .nan => false
  | .infinite negative => negative
  | x => x.toInt? = some n || x.floor?.any (· < n)

end Binary64

end Interpolation
