import Interpolation.Text.Quoted

/-!
# Encodings

What a program writes or hands to the system goes out as bytes, and an encoding may not have bytes
for every code point.  UTF-8 has them for every character, and for no half of a surrogate pair.

A fault names the code points that could not be written: the first one, and those that follow it
without a gap.
-/

set_option autoImplicit false

namespace Interpolation

/-- How code points are written as bytes, as far as it decides which of them can be. -/
structure Encoding where
  name : String
  /-- Whether there are bytes for a code point. -/
  writes : CodePoint → Bool
  /-- What is said of code points without bytes. -/
  complaint : String

namespace Encoding

/-- UTF-8, which has bytes for every character. -/
def utf8 : Encoding where
  name := "utf-8"
  writes := CodePoint.isIn fun _ => true
  complaint := "surrogates not allowed"

/-- Code points of a text that could not be written. -/
structure Fault where
  /-- The place of the first of them. -/
  position : Nat
  first : CodePoint
  /-- How many there are. -/
  count : Nat
deriving DecidableEq

/-- The first code point that stops the writing of a text, with those that join it; the text stands
behind so many others. -/
def faultFrom? (stops joins : CodePoint → Bool) (position : Nat) : Text → Option Fault
  | [] => none
  | c :: rest =>
    if stops c then some ⟨position, c, (rest.takeWhile joins).length + 1⟩
    else faultFrom? stops joins (position + 1) rest

/-- Why a text cannot be written. -/
def fault? (e : Encoding) (text : Text) : Option Fault :=
  faultFrom? (!e.writes ·) (!e.writes ·) 0 text

/-- The wording of a fault. -/
def message (e : Encoding) (f : Fault) : String :=
  let place :=
    if f.count = 1 then
      s!"character '{String.ofList (numericEscape f.first.toNat)}' in position {f.position}"
    else s!"characters in position {f.position}-{f.position + f.count - 1}"
  s!"'{e.name}' codec can't encode {place}: {e.complaint}"

/-! ## What can be written -/

theorem faultFrom?_eq_none_iff {stops joins : CodePoint → Bool} {position : Nat} {text : Text} :
    faultFrom? stops joins position text = none ↔ ∀ c ∈ text, stops c = false := by
  induction text generalizing position with
  | nil => simp [faultFrom?]
  | cons c rest ih =>
    rw [faultFrom?]
    cases hc : stops c with
    | true => simp [hc]
    | false => simp [hc, ih]

/-- A text can be written where there are bytes for all that it is made of. -/
theorem fault?_eq_none_iff {e : Encoding} {text : Text} :
    e.fault? text = none ↔ ∀ c ∈ text, e.writes c = true := by
  simp [fault?, faultFrom?_eq_none_iff]

end Encoding

end Interpolation
