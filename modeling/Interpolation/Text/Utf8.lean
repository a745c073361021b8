import Interpolation.Text.Quoted

/-!
# Strict UTF-8

Bytes are read as characters: an ASCII byte alone, or a lead byte and its continuation bytes.  The
lead byte fixes how many bytes follow and the range of the first of them, so that no character has
two encodings and none is a surrogate or beyond the last code point.

A fault names the bytes that cannot be read: the lead byte and the continuation bytes that were read
before the byte that does not fit, or before the end.
-/

set_option autoImplicit false

namespace Interpolation

namespace Utf8

/-! ## Faults -/

/-- Why a sequence of bytes is no character. -/
inductive Reason
  | invalidStart
  | invalidContinuation
  | unexpectedEnd
deriving DecidableEq

/-- Bytes that cannot be read as a character. -/
structure Fault where
  reason : Reason
  /-- The place of the first of these bytes. -/
  position : Nat
  /-- The first of these bytes. -/
  first : UInt8
  /-- How many bytes cannot be read. -/
  count : Nat
deriving DecidableEq

/-- The wording of a reason. -/
def Reason.message : Reason → String
  | invalidStart => "invalid start byte"
  | invalidContinuation => "invalid continuation byte"
  | unexpectedEnd => "unexpected end of data"

/-- The wording of a fault. -/
def Fault.message (f : Fault) : String :=
  let place :=
    if f.count = 1 then
      s!"byte 0x{String.ofList (Characters.hexadecimal 2 f.first.toNat)} in position {f.position}"
    else s!"bytes in position {f.position}-{f.position + f.count - 1}"
  s!"'utf-8' codec can't decode {place}: {f.reason.message}"

/-! ## Reading -/

/-- What a lead byte announces. -/
structure Lead where
  /-- The bits of the character that the lead byte holds. -/
  bits : Nat
  /-- The number of continuation bytes. -/
  following : Nat
  /-- The least first continuation byte. -/
  low : Nat
  /-- The greatest first continuation byte. -/
  high : Nat

/-- What a byte announces, if it is a lead byte of several bytes. -/
def lead? (byte : Nat) : Option Lead :=
  if byte < 0xC2 then none
  else if byte < 0xE0 then some ⟨byte - 0xC0, 1, 0x80, 0xBF⟩
  else if byte < 0xF0 then
    some ⟨byte - 0xE0, 2, if byte = 0xE0 then 0xA0 else 0x80, if byte = 0xED then 0x9F else 0xBF⟩
  else if byte < 0xF5 then
    some ⟨byte - 0xF0, 3, if byte = 0xF0 then 0x90 else 0x80, if byte = 0xF4 then 0x8F else 0xBF⟩
  else none

/-- Reads so many continuation bytes, of which the first is in a range: the code point and the bytes
after them, or how many could be read and why the next one could not. -/
def continuation (count low high code : Nat) (bytes : List UInt8) :
    Except (Nat × Reason) (Nat × List UInt8) :=
  match count, bytes with
  | 0, rest => .ok (code, rest)
  | _ + 1, [] => .error (0, .unexpectedEnd)
  | n + 1, byte :: rest =>
    if low ≤ byte.toNat ∧ byte.toNat ≤ high then
      match continuation n 0x80 0xBF (code * 64 + (byte.toNat - 0x80)) rest with
      | .ok read => .ok read
      | .error (k, reason) => .error (k + 1, reason)
    else .error (0, .invalidContinuation)

/-- The bytes after a character are fewer than the bytes from it on. -/
theorem length_of_continuation {count low high code : Nat} {bytes : List UInt8}
    {read : Nat × List UInt8} (h : continuation count low high code bytes = .ok read) :
    read.2.length ≤ bytes.length := by
  induction count generalizing low high code bytes with
  | zero =>
    simp only [continuation, Except.ok.injEq] at h
    simp [← h]
  | succ n ih =>
    cases bytes with
    | nil => simp [continuation] at h
    | cons byte rest =>
      simp only [continuation] at h
      split at h
      · split at h
        · rename_i read' hr
          simp only [Except.ok.injEq] at h
          subst h
          have := ih hr
          simp only [List.length_cons]
          omega
        · simp at h
      · simp at h

/-- Reads bytes from a position on, with the characters before it given in reverse. -/
def decodeFrom (position : Nat) (before : Characters) (bytes : List UInt8) :
    Except Fault Characters :=
  match bytes with
  | [] => .ok before.reverse
  | byte :: rest =>
    if byte.toNat < 0x80 then
      decodeFrom (position + 1) (Char.ofNat byte.toNat :: before) rest
    else
      match lead? byte.toNat with
      | none => .error ⟨.invalidStart, position, byte, 1⟩
      | some lead =>
        match h : continuation lead.following lead.low lead.high lead.bits rest with
        | .error (read, reason) => .error ⟨reason, position, byte, read + 1⟩
        | .ok (code, rest') =>
          decodeFrom (position + 1 + lead.following) (Char.ofNat code :: before) rest'
termination_by bytes.length
decreasing_by
  · simp
  · have := length_of_continuation h
    simp only [List.length_cons]
    simp only at this
    omega

/-- Reads bytes as a text. -/
def decode (bytes : List UInt8) : Except Fault Characters :=
  decodeFrom 0 [] bytes

end Utf8

end Interpolation
