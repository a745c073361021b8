import Interpolation.Text.Digits

/-!
# Faults in JSON text

A fault says what was expected where the text could not be read, and its place: the index of the
character, its line and its column.  Lines end with a line feed; lines and columns are counted from
one.
-/

set_option autoImplicit false

namespace Interpolation

namespace Json

/-- What holds other values. -/
inductive Container
  | list
  | object
deriving DecidableEq

/-- What is wrong at a place of a text. -/
inductive Problem
  | byteOrderMark
  | noValue
  | noName
  | noColon
  | noComma
  | unterminatedText
  | controlCharacter
  | badEscape
  | badUnicodeEscape
  | extraData
  /-- A whole number has so many digits. -/
  | tooManyDigits (digits : Nat)
  /-- A list or an object stands in too many others. -/
  | tooDeep (container : Container)
deriving DecidableEq

/-- The name of a kind of container in messages. -/
def Container.name : Container → String
  | list => "array"
  | object => "object"

/-- The wording of a problem. -/
def Problem.message : Problem → String
  | byteOrderMark => "Unexpected UTF-8 BOM (decode using utf-8-sig)"
  | noValue => "Expecting value"
  | noName => "Expecting property name enclosed in double quotes"
  | noColon => "Expecting ':' delimiter"
  | noComma => "Expecting ',' delimiter"
  | unterminatedText => "Unterminated string starting at"
  | controlCharacter => "Invalid control character at"
  | badEscape => "Invalid \\escape"
  | badUnicodeEscape => "Invalid \\uXXXX escape"
  | extraData => "Extra data"
  | tooManyDigits digits => Characters.digitLimitMessage digits
  | tooDeep container =>
    s!"maximum recursion depth exceeded while decoding a JSON {container.name} " ++
      "from a unicode string"

/-- A problem and the index of the character where it is. -/
structure Fault where
  problem : Problem
  position : Nat
  /-- The line of that character, counted from one. -/
  line : Nat
  /-- The column of that character, counted from one. -/
  column : Nat
deriving DecidableEq

/-- The fault of a problem at an index of a text. -/
def Fault.at (text : Characters) (problem : Problem) (position : Nat) : Fault :=
  let before := text.take position
  { problem, position
    line := before.count '\n' + 1
    column := (before.reverse.takeWhile (· ≠ '\n')).length + 1 }

/-- The wording of a fault; what goes beyond a limit has no place. -/
def Fault.message (f : Fault) : String :=
  match f.problem with
  | .tooManyDigits _ | .tooDeep _ => f.problem.message
  | _ => s!"{f.problem.message}: line {f.line} column {f.column} (char {f.position})"

end Json

end Interpolation
