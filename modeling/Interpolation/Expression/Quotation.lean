import Interpolation.Expression.Token

/-!
# Quotations in expressions

What stands in a quotation is text, or bytes if it is marked so.  A backslash begins an escape
sequence, unless the quotation is marked as raw.  The place of an escape sequence in a text is told
as if every character beyond ASCII were written by ten characters.
-/

set_option autoImplicit false

namespace Interpolation

namespace Expression

/-- A quotation: its marks, and what stands between its quotes. -/
structure Quotation where
  isBytes : Bool
  isRaw : Bool
  /-- Whether expressions stand in it. -/
  isFormatted : Bool
  inner : Characters
deriving DecidableEq

/-- The quotation that a token writes. -/
def Quotation.ofToken (text : Characters) : Quotation :=
  let mark := (text.takeWhile fun c => c ≠ '"' ∧ c ≠ '\'').map Char.toLower
  let quoted := text.drop mark.length
  let quotes :=
    if 6 ≤ quoted.length ∧ quoted[1]? = quoted[0]? ∧ quoted[2]? = quoted[0]? then 3 else 1
  { isBytes := 'b' ∈ mark
    isRaw := 'r' ∈ mark
    isFormatted := 'f' ∈ mark
    inner := (quoted.drop quotes).take (quoted.length - 2 * quotes) }

/-! ## Escape sequences of texts -/

/-- A text in which every character beyond ASCII is written by ten characters, and a backslash
before one by six. -/
def spelled : Characters → Characters
  | [] => []
  | '\\' :: c :: rest =>
    if c.toNat < 0x80 then '\\' :: c :: spelled rest
    else "\\u005c".toList ++ "\\U".toList ++ Characters.hexadecimal 8 c.toNat ++ spelled rest
  | c :: rest =>
    if c.toNat < 0x80 then c :: spelled rest
    else "\\U".toList ++ Characters.hexadecimal 8 c.toNat ++ spelled rest

/-- The number that hexadecimal digits write. -/
def hexadecimalNumber (digits : Characters) : Nat :=
  digits.foldl
    (fun n c =>
      16 * n +
        (if c.isDigit then c.toNat - '0'.toNat else c.toLower.toNat - 'a'.toNat + 10)) 0

/-- An escape sequence of hexadecimal digits, behind its letter: how many of them there are, and
what is wrong with them. -/
def digitsBehind (wanted : Nat) (reason : String) (rest : Characters) : Nat × Option String :=
  let digits := (rest.take wanted).takeWhile isHexadecimalDigit
  (digits.length,
    if digits.length < wanted then some reason
    else if 0x10FFFF < hexadecimalNumber digits then some "illegal Unicode character"
    else none)

/-- An escape sequence of a name, behind its letter: its length, and what is wrong with it. -/
def nameBehind : Characters → Nat × Option String
  | '\x7b' :: rest =>
    let name := rest.takeWhile (· ≠ '\x7d')
    if name.length = rest.length ∨ name = [] then
      (name.length + 1, some "malformed \\N character escape")
    else if name.all fun c => c.isAlphanum ∨ c = ' ' ∨ c = '-' then (name.length + 2, none)
    else (name.length + 2, some "unknown Unicode character name")
  | _ => (0, some "malformed \\N character escape")

/-- The length of the escape sequence that a letter begins, and what is wrong with it. -/
def escapeBehind (letter : Char) (rest : Characters) : Nat × Option String :=
  if letter = 'x' then digitsBehind 2 "truncated \\xXX escape" rest
  else if letter = 'u' then digitsBehind 4 "truncated \\uXXXX escape" rest
  else if letter = 'U' then digitsBehind 8 "truncated \\UXXXXXXXX escape" rest
  else if letter = 'N' then nameBehind rest
  else (0, none)

/-- The problem with the first wrong escape sequence of a spelled text that begins at a position. -/
def escapeProblem? (position : Nat) : Characters → Option Problem
  | [] => none
  | '\\' :: letter :: rest =>
    match escapeBehind letter rest with
    | (length, some reason) => some (.escape position (position + 1 + length) reason)
    | (_, none) => escapeProblem? (position + 2) rest
  | _ :: rest => escapeProblem? (position + 1) rest

/-- The problem with the first wrong escape sequence of bytes that begin at a position. -/
def byteProblem? (position : Nat) : Characters → Option Problem
  | [] => none
  | '\\' :: 'x' :: rest =>
    if (rest.take 2).length = 2 ∧ (rest.take 2).all isHexadecimalDigit then
      byteProblem? (position + 2) rest
    else some (.byteEscape position)
  | '\\' :: _ :: rest => byteProblem? (position + 2) rest
  | _ :: rest => byteProblem? (position + 1) rest

/-! ## Quotations -/

/-- The problem with what stands in a quotation. -/
def Quotation.problem? (q : Quotation) : Option Problem :=
  if q.isFormatted then none
  else if q.isBytes then
    if q.inner.any fun c => 0x80 ≤ c.toNat then some .byteBeyondAscii
    else if q.isRaw then none
    else byteProblem? 0 q.inner
  else if q.isRaw then none
  else escapeProblem? 0 (spelled q.inner)

/-- The first problem with quotations one behind the other, which are to be all of bytes or none. -/
def quotationsProblem? (isBytes : Option Bool) : List Quotation → Option Problem
  | [] => none
  | q :: rest =>
    q.problem? <|>
      if isBytes = some (!q.isBytes) then some .mixedQuotations
      else quotationsProblem? (some q.isBytes) rest

end Expression

end Interpolation
