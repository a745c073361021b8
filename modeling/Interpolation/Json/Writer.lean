import Interpolation.Value.Printed

/-!
# Writing JSON text

A value is written on one line, with a blank after every comma and colon.  The text is ASCII:
every other code point is written as an escape of its UTF-16 code, or of its two codes.
A value of some other kind is written as the text that messages write for it.
-/

set_option autoImplicit false

namespace Interpolation

namespace Json

/-- JSON text writes a float positionally from `1e-4` up to below `1e16`. -/
def floatLayout : Binary64.Layout where
  leastPositional := -4
  leastScientific := 16
  exponentWidth := 2
  nan := "NaN".toList
  infinity := "Infinity".toList

/-- The escape of a UTF-16 code. -/
def codeEscape (code : Nat) : Characters :=
  "\\u".toList ++ Characters.hexadecimal 4 code

/-- What is written for one code point between quotes. -/
def writeCode (code : Nat) : Characters :=
  if code = '"'.toNat then "\\\"".toList
  else if code = '\\'.toNat then "\\\\".toList
  else if code = '\n'.toNat then "\\n".toList
  else if code = '\r'.toNat then "\\r".toList
  else if code = '\t'.toNat then "\\t".toList
  else if code = 0x08 then "\\b".toList
  else if code = 0x0C then "\\f".toList
  else if 0x20 ≤ code ∧ code < 0x7F then [Char.ofNat code]
  else if code < 0x10000 then codeEscape code
  else
    let offset := code - 0x10000
    codeEscape (0xD800 + offset / 0x400) ++ codeEscape (0xDC00 + offset % 0x400)

/-- A text between quotes. -/
def writeText (text : Text) : Characters :=
  '"' :: (text.flatMap fun c => writeCode c.toNat) ++ ['"']

mutual

/-- The JSON text of a value. -/
def write : Value → Characters
  | .null => "null".toList
  | .bool b => if b then "true".toList else "false".toList
  | .int n => Characters.ofInt n
  | .float x => floatLayout.write x
  | .text t => writeText t
  | .list items => '[' :: writeItems items ++ [']']
  | .object members => '\x7b' :: writeMembers members ++ ['\x7d']
  | .foreign f => writeText f.written

/-- The items of a list, with commas between them. -/
def writeItems : List Value → Characters
  | [] => []
  | [item] => write item
  | item :: rest => write item ++ ", ".toList ++ writeItems rest

/-- The members of an object, with commas between them. -/
def writeMembers : List (Text × Value) → Characters
  | [] => []
  | [(name, value)] => writeText name ++ ": ".toList ++ write value
  | (name, value) :: rest =>
    writeText name ++ ": ".toList ++ write value ++ ", ".toList ++ writeMembers rest

end

end Json

end Interpolation
