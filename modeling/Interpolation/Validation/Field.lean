import Interpolation.Text.Utf8
import Interpolation.Validation.Number

/-!
# Reading fields

How a dynamic value is read as a field of a certain type.  A text is read from a text; a truth
value and a whole number are also read from what is written for one in a text, from each other, and
from floats without a fraction.  A value of another kind says itself what it is read as; bytes are
read as the text that they encode.
-/

set_option autoImplicit false

namespace Interpolation

namespace Field

/-! ## Texts -/

/-- Reads a text. -/
def text : Value → Except Issue Text
  | .text t => .ok t
  | .foreign f => f.text
  | _ => .error .textType

/-- A text that is not empty and has characters only. -/
structure CountedText where
  text : Text
  ne_nil : text ≠ []
  isUnicode : text.isUnicode

/-- Reads a text that is not empty.  Its characters are counted, so it has to have nothing else. -/
def countedText (value : Value) : Except Issue CountedText :=
  match text value with
  | .error issue => .error issue
  | .ok t =>
    if unicode : t.isUnicode then
      if ne : t = [] then .error .textTooShort else .ok ⟨t, ne, unicode⟩
    else .error .notUnicode

/-- Reads a text, or nothing. -/
def optionalText : Value → Except Issue (Option Text)
  | .null => .ok none
  | value => (text value).map some

/-! ## Truth values -/

/-- The words for true, in lower case. -/
def trueWords : List Characters :=
  ["true", "t", "yes", "y", "on", "1"].map String.toList

/-- The words for false, in lower case. -/
def falseWords : List Characters :=
  ["false", "f", "no", "n", "off", "0"].map String.toList

/-- The truth value of a whole number. -/
def boolOfInt (n : Int) : Except Issue Bool :=
  if n = 0 then .ok false else if n = 1 then .ok true else .error .boolParsing

/-- Whether a whole number has a signed 64-bit form. -/
def isInt64 (n : Int) : Bool :=
  -Int.pow 2 63 ≤ n && n < Int.pow 2 63

/-- Whether a whole number is nearer to zero than the least number of a signed 64-bit form; of a
float no more is asked than this, and no less. -/
def isBelowInt64Bound (n : Int) : Bool :=
  n.natAbs < Nat.pow 2 63

/-- Reads the truth value that characters write. -/
def boolOf (characters : Characters) : Except Issue Bool :=
  let word := characters.map Char.toLower
  if word ∈ trueWords then .ok true
  else if word ∈ falseWords then .ok false
  else .error .boolParsing

/-- Reads a truth value. -/
def bool : Value → Except Issue Bool
  | .bool b => .ok b
  | .int n => if isInt64 n then boolOfInt n else .error .boolType
  | .float x =>
    match x.toInt? with
    | some n => if isBelowInt64Bound n then boolOfInt n else .error .boolType
    | none => .error .boolType
  | .text t => readCharacters boolOf t
  | .foreign f => f.bool
  | _ => .error .boolType

/-! ## Numbers -/

/-- Reads a whole number. -/
def int : Value → Except Issue Int
  | .int n => .ok n
  | .bool b => .ok (if b then 1 else 0)
  | .float x =>
    match x with
    | .finite .. =>
      match x.toInt? with
      | some n => if isBelowInt64Bound n then .ok n else .error .intTooLarge
      | none => .error .intFromFloat
    | _ => .error .notFinite
  | .text t => intOfText t
  | .foreign f => f.int
  | _ => .error .intType

/-! ## Records -/

/-- Reads the field of a name from the values that are given. -/
def required {α : Type} (members : List (Text × Value)) (name : String)
    (read : Value → Except Issue α) : Except Finding α :=
  match Value.member? members name.text with
  | none => .error ⟨name.text, .missing, .object members⟩
  | some value => (read value).mapError fun issue => ⟨name.text, issue, value⟩

/-- Reads the field of a name from the values that are given, or else takes a default. -/
def withDefault {α : Type} (members : List (Text × Value)) (name : String) (default : α)
    (read : Value → Except Issue α) : Except Finding α :=
  match Value.member? members name.text with
  | none => .ok default
  | some value => (read value).mapError fun issue => ⟨name.text, issue, value⟩

/-- The finding of a field, if it could not be read. -/
def finding? {α : Type} : Except Finding α → Option Finding
  | .ok _ => none
  | .error finding => some finding

end Field

/-! ## Bytes -/

namespace Foreign

/-- What is written for one byte between quotes. -/
def quotedByte (quote : Char) (byte : UInt8) : Characters :=
  if byte < 0x80 then quotedChar quote (Char.ofNat byte.toNat) else numericEscape byte.toNat

/-- Bytes as messages write them. -/
def quotedBytes (bytes : List UInt8) : Characters :=
  let quote := Text.quoteFor (bytes.map fun byte => .char (Char.ofNat byte.toNat))
  'b' :: quote :: bytes.flatMap (quotedByte quote) ++ [quote]

/-- Reads what the characters that bytes encode write; bytes that encode none are an issue. -/
def readBytes {α : Type} (read : Characters → Except Issue α) (issue : Issue)
    (bytes : List UInt8) : Except Issue α :=
  match Utf8.decode bytes with
  | .ok characters => read characters
  | .error _ => .error issue

/-- Bytes as a value. -/
def ofBytes (bytes : List UInt8) : Foreign where
  kind := "bytes"
  written := .ofCharacters (quotedBytes bytes)
  isTruthy := !bytes.isEmpty
  isName := true
  text := readBytes (fun characters => .ok (.ofCharacters characters)) .notUnicode bytes
  bool := readBytes Field.boolOf .boolParsing bytes
  int := readBytes Field.intOf .intParsing bytes

end Foreign

end Interpolation
