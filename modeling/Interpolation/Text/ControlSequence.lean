import Interpolation.Text.CodePoint

/-!
# Control sequences

A control sequence tells a terminal what to do, and shows nothing.  It begins with the escape
character and an opening bracket, goes on with parameters and then with intermediate characters, and
ends with one final character.  The three kinds of characters are ranges of ASCII.

`withoutSequences` leaves control sequences out of a text, in one pass: what becomes a sequence only
when another one has been left out stays.
-/

set_option autoImplicit false

namespace Interpolation

namespace Text

/-- Whether a character is a parameter of a control sequence. -/
def isParameter (c : CodePoint) : Bool :=
  0x30 ≤ c.toNat && c.toNat ≤ 0x3F

/-- Whether a character stands between the parameters and the end of a control sequence. -/
def isIntermediate (c : CodePoint) : Bool :=
  0x20 ≤ c.toNat && c.toNat ≤ 0x2F

/-- Whether a character ends a control sequence. -/
def isFinal (c : CodePoint) : Bool :=
  0x40 ≤ c.toNat && c.toNat ≤ 0x7E

/-- The text behind the control sequence that a text begins with, if it begins with one. -/
def behindSequence? : Text → Option Text
  | .char '\x1b' :: .char '[' :: rest =>
    match (rest.dropWhile isParameter).dropWhile isIntermediate with
    | c :: after => if isFinal c then some after else none
    | [] => none
  | _ => none

/-- What stands behind a control sequence is shorter than the text from the sequence on. -/
theorem length_of_behindSequence? {text after : Text} (h : behindSequence? text = some after) :
    after.length < text.length := by
  unfold behindSequence? at h
  split at h
  · rename_i rest
    have parameters := (List.dropWhile_suffix (l := rest) isParameter).length_le
    have le := (List.dropWhile_suffix (l := rest.dropWhile isParameter) isIntermediate).length_le
    split at h
    · rename_i c after' hc
      rw [hc] at le
      split at h
      · cases h
        simp only [List.length_cons] at *
        omega
      · simp at h
    · simp at h
  · simp at h

/-- A text without its control sequences. -/
def withoutSequences (text : Text) : Text :=
  match _found : behindSequence? text with
  | some after => withoutSequences after
  | none =>
    match text with
    | [] => []
    | c :: rest => c :: withoutSequences rest
termination_by text.length
decreasing_by
  · exact length_of_behindSequence? _found
  · simp

end Text

end Interpolation
