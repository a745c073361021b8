import Interpolation.Expression.Problem

/-!
# Numbers in expressions

How far a number reaches at the start of a text.  A number has digits with single underscores
between them, and in the decimal form a fraction, an exponent and the mark of an imaginary number.
No letter may follow, unless it begins one of the words that can stand behind a number.
-/

set_option autoImplicit false

namespace Interpolation

namespace Expression

/-- Whether a character may go on a name; of those beyond ASCII this is seen later. -/
def continuesName (c : Char) : Bool :=
  c.isAlphanum || c = '_' || 0x80 ≤ c.toNat

/-- Whether a character may begin a name. -/
def beginsName (c : Char) : Bool :=
  continuesName c && !c.isDigit

/-- The words that may stand right behind a number. -/
def wordsBehindNumbers : List String :=
  ["and", "else", "for", "not", "or"]

/-- Whether a word that may stand right behind a number is at the start of a text. -/
def allowsWord (text : Characters) : Bool :=
  ["if", "in", "is"].any (fun word => word.toList.isPrefixOf text) ||
    wordsBehindNumbers.any fun word =>
      word.toList.isPrefixOf text && !(text.drop word.length).head?.any continuesName

/-- A length, if a number of this form may end before a text. -/
def endingBefore (form : NumberForm) (text : Characters) (length : Nat) : Except Problem Nat :=
  let isWord := text.head?.any fun c => continuesName c && c.toNat < 0x80
  if isWord && !allowsWord text then .error (.number form) else .ok length

/-- The length of decimal digits with single underscores between them. -/
def digitRun : Characters → Except Problem Nat
  | [] => .ok 0
  | '_' :: rest =>
    if rest.head?.any Char.isDigit then (digitRun rest).map (· + 1) else .error (.number .decimal)
  | c :: rest => if c.isDigit then (digitRun rest).map (· + 1) else .ok 0

/-- The length of the digits of another form, behind its mark; `isNew` says that a digit has to
come, before which an underscore may stand. -/
def markedRun (form : NumberForm) (isDigit : Char → Bool) (isNew : Bool) :
    Characters → Except Problem Nat
  | '_' :: c :: rest =>
    if isDigit c then (markedRun form isDigit false rest).map (· + 2)
    else if c.isDigit then .error (.digit c form)
    else .error (.number form)
  | c :: rest =>
    if isDigit c then (markedRun form isDigit false rest).map (· + 1)
    else if c.isDigit then .error (.digit c form)
    else if isNew ∨ c = '_' then .error (.number form)
    else endingBefore form (c :: rest) 0
  | [] => if isNew then .error (.number form) else .ok 0

/-- The length of a fraction with the point before it; nothing if there is no point. -/
def fractionRun : Characters → Except Problem Nat
  | '.' :: rest =>
    if rest.head?.any Char.isDigit then (digitRun rest).map (· + 1) else .ok 1
  | _ => .ok 0

/-- The length of an exponent; nothing if there is none. -/
def exponentRun : Characters → Except Problem Nat
  | e :: rest =>
    if e = 'e' ∨ e = 'E' then
      match rest with
      | [] => endingBefore .decimal [e] 0
      | c :: more =>
        if c = '+' ∨ c = '-' then
          if more.head?.any Char.isDigit then (digitRun more).map (· + 2)
          else .error (.number .decimal)
        else if c.isDigit then (digitRun rest).map (· + 1)
        else endingBefore .decimal (e :: rest) 0
    else .ok 0
  | [] => .ok 0

/-- The length of a decimal number. -/
def decimalRun (text : Characters) : Except Problem Nat := do
  let whole ← digitRun text
  let digits := text.take whole
  let behind := text.drop whole
  if digits.head? = some '0' ∧ digits.any (fun c => c ≠ '0' ∧ c ≠ '_') ∧
      !behind.head?.any (· ∈ ['.', 'e', 'E', 'j', 'J']) then
    throw .leadingZeros
  let fraction ← fractionRun behind
  let behind := behind.drop fraction
  let exponent ← exponentRun behind
  let behind := behind.drop exponent
  let length := whole + fraction + exponent
  match behind with
  | 'j' :: rest | 'J' :: rest => endingBefore .imaginary rest (length + 1)
  | _ => endingBefore .decimal behind length

/-- Whether a character is one of the first digits. -/
def isDigitBelow (limit : Nat) (c : Char) : Bool :=
  '0' ≤ c && c.toNat < '0'.toNat + limit

/-- Whether a character is a hexadecimal digit. -/
def isHexadecimalDigit (c : Char) : Bool :=
  c.isDigit || ('a' ≤ c && c ≤ 'f') || ('A' ≤ c && c ≤ 'F')

/-- The length of the number at the start of a text that begins with a digit or with a point and a
digit. -/
def numberRun : Characters → Except Problem Nat
  | '0' :: mark :: rest =>
    if mark = 'x' ∨ mark = 'X' then
      (markedRun .hexadecimal isHexadecimalDigit true rest).map (· + 2)
    else if mark = 'o' ∨ mark = 'O' then (markedRun .octal (isDigitBelow 8) true rest).map (· + 2)
    else if mark = 'b' ∨ mark = 'B' then (markedRun .binary (isDigitBelow 2) true rest).map (· + 2)
    else decimalRun ('0' :: mark :: rest)
  | text => decimalRun text

/-- The problem with a number that is written as it should be: too many digits. -/
def numberProblem? (written : Characters) : Option Problem :=
  let digits := written.filter (· ≠ '_')
  if digits.all Char.isDigit ∧ Characters.digitLimit < digits.length then
    some (.tooManyDigits digits.length)
  else none

end Expression

end Interpolation
