import Interpolation.Text.CodePoint

/-!
# Ranges of characters

A class of characters is given by ranges of their numbers, in increasing order.  Where only every
other character of a range belongs to the class, the range has a step.
-/

set_option autoImplicit false

namespace Interpolation

namespace Characters

/-- Whether a number lies in one of several ranges, each given by its first and its last number. -/
def inRanges (ranges : List (Nat × Nat)) (n : Nat) : Bool :=
  ranges.any fun (first, last) => first ≤ n && n ≤ last

/-- Numbers at equal distances, and the number that the first of them stands for; the others stand
for numbers at the same distance from it. -/
structure Shift where
  first : Nat
  last : Nat
  step : Nat
  target : Nat
deriving DecidableEq

/-- The number that a number stands for. -/
def Shift.image? (s : Shift) (n : Nat) : Option Nat :=
  if s.first ≤ n ∧ n ≤ s.last ∧ (n - s.first) % s.step = 0 then some (s.target + (n - s.first))
  else none

end Characters

end Interpolation
