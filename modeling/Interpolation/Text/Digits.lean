import Interpolation.Text.CodePoint

/-!
# Decimal digits

The decimal digits of a whole number, the whole number that digits write, and how many digits a
number may have that is read.
-/

set_option autoImplicit false

namespace Interpolation

namespace Characters

/-- The decimal digits of a natural number. -/
def ofNat (n : Nat) : Characters :=
  Nat.toDigits 10 n

/-- The decimal text of a whole number. -/
def ofInt (n : Int) : Characters :=
  if n < 0 then '-' :: ofNat n.natAbs else ofNat n.natAbs

/-- The whole number that decimal digits write. -/
def wholeNumber (digits : Characters) : Nat :=
  digits.foldl (fun n c => n * 10 + (c.toNat - '0'.toNat)) 0

/-- The greatest number of digits of a whole number that is read. -/
def digitLimit : Nat := 4300

/-- The message for a whole number of too many digits. -/
def digitLimitMessage (digits : Nat) : String :=
  s!"Exceeds the limit ({digitLimit} digits) for integer string conversion: value has " ++
    s!"{digits} digits; use sys.set_int_max_str_digits() to increase the limit"

/-- The hexadecimal digits of a number, in lower case, padded with zeros to a width. -/
def hexadecimal (width n : Nat) : Characters :=
  let digits := Nat.toDigits 16 n
  List.replicate (width - digits.length) '0' ++ digits

end Characters

namespace Text

/-- The decimal text of a whole number. -/
def ofInt (n : Int) : Text :=
  .ofCharacters (.ofInt n)

end Text

end Interpolation
