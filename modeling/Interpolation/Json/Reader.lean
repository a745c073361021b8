import Interpolation.Text.Digits
import Interpolation.Value
import Interpolation.Json.Fault

/-!
# Reading JSON text

Every reader takes the text from its place on and gives what it has read together with the text that
is left; the text left is shorter, so reading ends.  A reader that fails gives the text from the
place of the fault on, whose length tells the index.

Beside the numbers of the format, `NaN`, `Infinity` and `-Infinity` are values.  A whole number is
exact, a number with a fraction or an exponent is the nearest binary floating-point number.  Of
several members with one name the last value counts, at the place of the first.  Half of a
surrogate pair that is named alone is kept in the text that it stands in.

There are two limits.  A whole number may have only so many digits; `longest` is their number.
Lists and objects may stand in each other only so deep; `room` counts the levels that are left.
-/

set_option autoImplicit false

namespace Interpolation

namespace Json

/-- A problem, and the text from its place on. -/
abbrev Stop := Problem × Characters

/-- What a reader gives: a result and the text left, which is shorter than the text before. -/
abbrev Read (α : Type) (before : Characters) :=
  Except Stop (α × { after : Characters // after.length < before.length })

/-! ## Blanks and digits -/

/-- The blanks between the parts of a JSON text. -/
def isBlank (c : Char) : Bool :=
  c = ' ' || c = '\t' || c = '\n' || c = '\r'

/-- The text without the blanks at its start. -/
def skipBlanks (text : Characters) : Characters :=
  text.dropWhile isBlank

theorem length_skipBlanks_le (text : Characters) : (skipBlanks text).length ≤ text.length :=
  (List.dropWhile_suffix isBlank).length_le

/-- The value of a hexadecimal digit. -/
def hexDigit? (c : Char) : Option Nat :=
  if '0' ≤ c ∧ c ≤ '9' then some (c.toNat - '0'.toNat)
  else if 'a' ≤ c ∧ c ≤ 'f' then some (c.toNat - 'a'.toNat + 10)
  else if 'A' ≤ c ∧ c ≤ 'F' then some (c.toNat - 'A'.toNat + 10)
  else none

/-- The number that four hexadecimal digits write. -/
def fourHexDigits? (a b c d : Char) : Option Nat := do
  let a ← hexDigit? a
  let b ← hexDigit? b
  let c ← hexDigit? c
  let d ← hexDigit? d
  return ((a * 16 + b) * 16 + c) * 16 + d

/-! ## Texts -/

/-- The character of an escape with one letter. -/
def escapeOf? : Char → Option Char
  | '"' => some '"'
  | '\\' => some '\\'
  | '/' => some '/'
  | 'b' => some '\x08'
  | 'f' => some '\x0C'
  | 'n' => some '\n'
  | 'r' => some '\r'
  | 't' => some '\t'
  | _ => none

/-- Whether a code is the first half of a pair of surrogates. -/
def isHighSurrogate (code : Nat) : Prop :=
  0xD800 ≤ code ∧ code < 0xDC00

/-- Whether a code is the second half of a pair of surrogates. -/
def isLowSurrogate (code : Nat) : Prop :=
  0xDC00 ≤ code ∧ code < 0xE000

instance (code : Nat) : Decidable (isHighSurrogate code) := by
  unfold isHighSurrogate
  infer_instance

instance (code : Nat) : Decidable (isLowSurrogate code) := by
  unfold isLowSurrogate
  infer_instance

/-- The code point of two surrogates that follow each other. -/
def joinSurrogates (high low : Nat) : Nat :=
  0x10000 + (high - 0xD800) * 0x400 + (low - 0xDC00)

/-- Reads the four digits of a numbered escape, which may not be the end of the text. -/
def readCode? : Characters → Option (Nat × Characters)
  | a :: b :: c :: d :: next :: rest => (fourHexDigits? a b c d).map (·, next :: rest)
  | _ => none

theorem length_of_readCode? {text : Characters} {read : Nat × Characters}
    (h : readCode? text = some read) : read.2.length < text.length := by
  unfold readCode? at h
  split at h
  · obtain ⟨code, -, rfl⟩ := Option.map_eq_some_iff.mp h
    simp only [List.length_cons]
    omega
  · simp at h

/-- Reads an escape from behind its backslash on, as a code point. -/
def readEscape (text : Characters) : Except Stop (Nat × Characters) :=
  match text with
  | [] => .error (.badEscape, [])
  | 'u' :: digits =>
    match readCode? digits with
    | none => .error (.badUnicodeEscape, 'u' :: digits)
    | some (code, rest) =>
      match rest with
      | '\\' :: 'u' :: digits' =>
        if isHighSurrogate code ∧ 5 ≤ digits'.length then
          match readCode? digits' with
          | none => .error (.badUnicodeEscape, 'u' :: digits')
          | some (low, rest') =>
            if isLowSurrogate low then .ok (joinSurrogates code low, rest')
            else .ok (code, rest)
        else .ok (code, rest)
      | _ => .ok (code, rest)
  | c :: rest =>
    match escapeOf? c with
    | some e => .ok (e.toNat, rest)
    | none => .error (.badEscape, '\\' :: c :: rest)

theorem length_of_readEscape {text : Characters} {read : Nat × Characters}
    (h : readEscape text = .ok read) : read.2.length < text.length := by
  unfold readEscape at h
  split at h
  · simp at h
  · rename_i digits
    split at h
    · simp at h
    · rename_i code rest hc
      have first := length_of_readCode? hc
      simp only at first
      split at h
      · rename_i digits'
        split at h
        · split at h
          · simp at h
          · rename_i low rest' hl
            have second := length_of_readCode? hl
            simp only [List.length_cons] at first second ⊢
            split at h
            · simp only [Except.ok.injEq] at h
              subst h
              simp only
              omega
            · simp only [Except.ok.injEq] at h
              subst h
              simp only [List.length_cons]
              omega
        · simp only [Except.ok.injEq] at h
          subst h
          simp only [List.length_cons] at first ⊢
          omega
      · simp only [Except.ok.injEq] at h
        subst h
        simp only [List.length_cons]
        omega
  · split at h
    · simp only [Except.ok.injEq] at h
      subst h
      simp
    · simp at h

/-- Reads the rest of a text whose opening quote is at the start of `opened`; `before` holds the
code points read so far, in reverse. -/
def readText (opened : Characters) (before : Text) (text : Characters) :
    Except Stop (Text × Characters) :=
  match text with
  | [] => .error (.unterminatedText, opened)
  | '"' :: rest => .ok (before.reverse, rest)
  | '\\' :: rest =>
    if rest = [] then .error (.unterminatedText, opened)
    else
      match _h : readEscape rest with
      | .error stop => .error stop
      | .ok (code, rest') => readText opened (.ofNat code :: before) rest'
  | c :: rest =>
    if c.toNat < 0x20 then .error (.controlCharacter, c :: rest)
    else readText opened (.char c :: before) rest
termination_by text.length
decreasing_by
  · have := length_of_readEscape _h
    simp only [List.length_cons]
    simp only at this
    omega
  · simp

theorem length_of_readText {opened : Characters} {before : Text} {text : Characters}
    {read : Text × Characters}
    (h : readText opened before text = .ok read) : read.2.length < text.length := by
  fun_induction readText opened before text with
  | case1 => simp at h
  | case2 =>
    cases h
    simp
  | case3 => simp at h
  | case4 => simp at h
  | case5 before rest ne c rest' hr ih =>
    have := length_of_readEscape hr
    have := ih h
    simp only [List.length_cons]
    simp only at *
    omega
  | case6 => simp at h
  | case7 before c rest _ _ small ih =>
    have := ih h
    simp only [List.length_cons]
    omega

/-! ## Numbers -/

/-- The digits at the start of a text and the text after them. -/
def takeDigits (text : Characters) : Characters × Characters :=
  (text.takeWhile Char.isDigit, text.dropWhile Char.isDigit)

/-- A number as it is written: its digits before and after the point, and its exponent. -/
structure Literal where
  negative : Bool
  whole : Characters
  fraction : Characters
  exponent : Option Int

/-- Reads the digits before the point, which start with a zero only if it is the only digit. -/
def readWhole? : Characters → Option (Characters × Characters)
  | '0' :: rest => some (['0'], rest)
  | c :: rest => if c.isDigit then some (takeDigits (c :: rest)) else none
  | [] => none

/-- Reads a point and the digits after it, if there are any. -/
def readFraction : Characters → Characters × Characters
  | '.' :: c :: rest => if c.isDigit then takeDigits (c :: rest) else ([], '.' :: c :: rest)
  | text => ([], text)

/-- Reads the digits of an exponent, if there are any. -/
def readExponentDigits? (negative : Bool) (text : Characters) : Option (Int × Characters) :=
  match takeDigits text with
  | ([], _) => none
  | (digits, rest) =>
    some (if negative then -(Characters.wholeNumber digits : Int)
      else Characters.wholeNumber digits, rest)

/-- Reads an exponent, if there is one. -/
def readExponent? : Characters → Option (Int × Characters)
  | e :: rest =>
    if e = 'e' ∨ e = 'E' then
      match rest with
      | '-' :: digits => readExponentDigits? true digits
      | '+' :: digits => readExponentDigits? false digits
      | digits => readExponentDigits? false digits
    else none
  | [] => none

/-- Reads a number as it is written. -/
def readLiteral? (text : Characters) : Option (Literal × Characters) :=
  let (negative, unsigned) :=
    match text with
    | '-' :: rest => (true, rest)
    | _ => (false, text)
  (readWhole? unsigned).map fun (whole, rest) =>
    let (fraction, rest) := readFraction rest
    match readExponent? rest with
    | some (exponent, rest) => (⟨negative, whole, fraction, some exponent⟩, rest)
    | none => (⟨negative, whole, fraction, none⟩, rest)

/-- The value of a number, or the number of its digits if it is whole and too long. -/
def Literal.value (longest : Nat) (literal : Literal) : Except Nat Value :=
  if literal.fraction = [] ∧ literal.exponent = none then
    if longest < literal.whole.length then .error literal.whole.length
    else
      let magnitude : Int := Characters.wholeNumber literal.whole
      .ok (.int (if literal.negative then -magnitude else magnitude))
  else
    .ok (.float (Binary64.ofDecimal literal.negative
      (Characters.wholeNumber (literal.whole ++ literal.fraction))
      (literal.exponent.getD 0 - literal.fraction.length)))

theorem length_takeDigits_le (text : Characters) : (takeDigits text).2.length ≤ text.length :=
  (List.dropWhile_suffix Char.isDigit).length_le

theorem length_readFraction_le (text : Characters) :
    (readFraction text).2.length ≤ text.length := by
  unfold readFraction
  split
  · rename_i c rest
    split
    · have := length_takeDigits_le (c :: rest)
      simp only [List.length_cons] at *
      omega
    · exact Nat.le_refl _
  · exact Nat.le_refl _

theorem length_of_readExponentDigits? {negative : Bool} {text : Characters}
    {read : Int × Characters} (h : readExponentDigits? negative text = some read) :
    read.2.length ≤ text.length := by
  have le := length_takeDigits_le text
  unfold readExponentDigits? at h
  split at h
  · simp at h
  · rename_i digits rest _ hd
    simp only [Option.some.injEq] at h
    subst h
    rw [hd] at le
    exact le

theorem length_of_readExponent? {text : Characters} {read : Int × Characters}
    (h : readExponent? text = some read) : read.2.length ≤ text.length := by
  unfold readExponent? at h
  split at h
  · split at h
    · split at h
      · have := length_of_readExponentDigits? h
        simp only [List.length_cons]
        omega
      · have := length_of_readExponentDigits? h
        simp only [List.length_cons]
        omega
      · have := length_of_readExponentDigits? h
        simp only [List.length_cons]
        omega
    · simp at h
  · simp at h

theorem length_of_readWhole? {text : Characters} {read : Characters × Characters}
    (h : readWhole? text = some read) : read.2.length < text.length := by
  unfold readWhole? at h
  split at h
  · simp only [Option.some.injEq] at h
    subst h
    simp
  · rename_i c rest _
    split at h
    · rename_i digit
      simp only [Option.some.injEq] at h
      subst h
      have := (List.dropWhile_suffix (l := rest) Char.isDigit).length_le
      simp only [takeDigits, List.dropWhile_cons, digit, ite_true, List.length_cons]
      omega
    · simp at h
  · simp at h

theorem length_of_readLiteral? {text : Characters} {read : Literal × Characters}
    (h : readLiteral? text = some read) : read.2.length < text.length := by
  unfold readLiteral? at h
  obtain ⟨⟨whole, rest⟩, hw, rfl⟩ := Option.map_eq_some_iff.mp h
  have first := length_of_readWhole? hw
  have second := length_readFraction_le rest
  have start : (match text with
      | '-' :: rest => (true, rest)
      | _ => (false, text)).2.length ≤ text.length := by
    split <;> simp
  simp only at first ⊢
  split
  · rename_i exponent rest' he
    have third := length_of_readExponent? he
    simp only at third ⊢
    omega
  · simp only
    omega

/-! ## Values -/

/-- The values that are written as a word. -/
def words : List (Characters × Value) :=
  [("null".toList, .null), ("true".toList, .bool true), ("false".toList, .bool false),
    ("NaN".toList, .float .nan), ("Infinity".toList, .float (.infinite false)),
    ("-Infinity".toList, .float (.infinite true))]

/-- The value of the word at the start of a text, and the text after it. -/
def readWord? (text : Characters) : Option (Value × Characters) :=
  (words.find? fun word => word.1.isPrefixOf text).map fun word =>
    (word.2, text.drop word.1.length)

theorem length_of_readWord? {text : Characters} {read : Value × Characters}
    (h : readWord? text = some read) : read.2.length < text.length := by
  obtain ⟨word, hf, rfl⟩ := Option.map_eq_some_iff.mp h
  have starts : word.1.isPrefixOf text = true := by simpa using List.find?_some hf
  have le := (List.isPrefixOf_iff_prefix.mp starts).length_le
  have pos : ∀ w ∈ words, 0 < w.1.length := by decide
  have := pos word (List.mem_of_find?_eq_some hf)
  simp only [List.length_drop]
  omega

/-- Reads a word or a number. -/
def readPlain (longest : Nat) (text : Characters) : Read Value text :=
  match hw : readWord? text with
  | some (value, rest) => .ok (value, ⟨rest, length_of_readWord? hw⟩)
  | none =>
    match hl : readLiteral? text with
    | none => .error (.noValue, text)
    | some (literal, rest) =>
      match literal.value longest with
      | .ok value => .ok (value, ⟨rest, length_of_readLiteral? hl⟩)
      | .error digits => .error (.tooManyDigits digits, text)

/-- Reads a text from behind its opening quote on. -/
def readQuoted (text : Characters) : Read Text text :=
  match h : readText ('"' :: text) [] text with
  | .ok (read, rest) => .ok (read, ⟨rest, length_of_readText h⟩)
  | .error stop => .error stop

/-- A result of a reader for a later part of a text is one for the text from an earlier place on. -/
def Read.widen {α : Type} {before text : Characters} (le : before.length ≤ text.length) :
    Read α before → Read α text
  | .ok (read, ⟨after, lt⟩) => .ok (read, ⟨after, by omega⟩)
  | .error stop => .error stop

/-- Reads a member's name, from its opening quote on, and the colon after it. -/
def readName (text : Characters) : Read Text text :=
  match text with
  | '"' :: rest =>
    match readQuoted rest with
    | .error stop => .error stop
    | .ok (name, ⟨after, lt⟩) =>
      match h : skipBlanks after with
      | ':' :: after' =>
        .ok (name, ⟨after', by
          have := length_skipBlanks_le after
          rw [h] at this
          simp only [List.length_cons] at *
          omega⟩)
      | other => .error (.noColon, other)
  | other => .error (.noName, other)

mutual

/-- Reads a value, which starts at the start of the text. -/
def readValue (longest room : Nat) (text : Characters) : Read Value text :=
  match text with
  | '"' :: rest =>
    match readQuoted rest with
    | .error stop => .error stop
    | .ok (read, ⟨after, lt⟩) =>
      .ok (.text read, ⟨after, by simp only [List.length_cons]; omega⟩)
  | '[' :: rest =>
    match room with
    | 0 => .error (.tooDeep .list, text)
    | room + 1 =>
      match h : skipBlanks rest with
      | ']' :: after =>
        .ok (.list [], ⟨after, by
          have := length_skipBlanks_le rest
          rw [h] at this
          simp only [List.length_cons] at *
          omega⟩)
      | inner =>
        have le : inner.length ≤ rest.length := h ▸ length_skipBlanks_le rest
        match readItems longest room [] inner with
        | .error stop => .error stop
        | .ok (items, ⟨after, lt⟩) =>
          .ok (.list items, ⟨after, by simp only [List.length_cons]; omega⟩)
  | '\x7b' :: rest =>
    match room with
    | 0 => .error (.tooDeep .object, text)
    | room + 1 =>
      match h : skipBlanks rest with
      | '\x7d' :: after =>
        .ok (.object [], ⟨after, by
          have := length_skipBlanks_le rest
          rw [h] at this
          simp only [List.length_cons] at *
          omega⟩)
      | inner =>
        have le : inner.length ≤ rest.length := h ▸ length_skipBlanks_le rest
        match readMembers longest room [] inner with
        | .error stop => .error stop
        | .ok (members, ⟨after, lt⟩) =>
          .ok (.object (Value.lastOfEach members), ⟨after, by simp only [List.length_cons]; omega⟩)
  | other => readPlain longest other
termination_by 2 * text.length
decreasing_by
  all_goals
    simp only [List.length_cons]
    omega

/-- Reads the items of a list up to its closing bracket; `before` holds those read so far. -/
def readItems (longest room : Nat) (before : List Value) (text : Characters) :
    Read (List Value) text :=
  match readValue longest room text with
  | .error stop => .error stop
  | .ok (value, ⟨after, lt⟩) =>
    match h : skipBlanks after with
    | ']' :: rest =>
      .ok (before ++ [value], ⟨rest, by
        have := length_skipBlanks_le after
        rw [h] at this
        simp only [List.length_cons] at *
        omega⟩)
    | ',' :: rest =>
      have le : (skipBlanks rest).length < text.length := by
        have := length_skipBlanks_le after
        have := length_skipBlanks_le rest
        rw [h] at *
        simp only [List.length_cons] at *
        omega
      (readItems longest room (before ++ [value]) (skipBlanks rest)).widen (Nat.le_of_lt le)
    | other => .error (.noComma, other)
termination_by 2 * text.length + 1
decreasing_by
  · omega
  · omega

/-- Reads the members of an object, as they are written, up to its closing brace; `before` holds
those read so far. -/
def readMembers (longest room : Nat) (before : List (Text × Value)) (text : Characters) :
    Read (List (Text × Value)) text :=
  match readName text with
  | .error stop => .error stop
  | .ok (name, ⟨colon, lt⟩) =>
    have inner : (skipBlanks colon).length < text.length := by
      have := length_skipBlanks_le colon
      omega
    match readValue longest room (skipBlanks colon) with
    | .error stop => .error stop
    | .ok (value, ⟨after, lt'⟩) =>
      match h : skipBlanks after with
      | '\x7d' :: rest =>
        .ok (before ++ [(name, value)], ⟨rest, by
          have := length_skipBlanks_le after
          rw [h] at this
          simp only [List.length_cons] at *
          omega⟩)
      | ',' :: rest =>
        have le : (skipBlanks rest).length < text.length := by
          have := length_skipBlanks_le after
          have := length_skipBlanks_le rest
          rw [h] at *
          simp only [List.length_cons] at *
          omega
        (readMembers longest room (before ++ [(name, value)]) (skipBlanks rest)).widen
          (Nat.le_of_lt le)
      | other => .error (.noComma, other)
termination_by 2 * text.length + 1
decreasing_by
  · omega
  · omega

end

/-! ## Whole texts -/

/-- Reads a text that holds one value and nothing else but blanks, where a whole number may have so
many digits and so many lists and objects may stand in each other. -/
def read (longest room : Nat) (text : Characters) : Except Fault Value :=
  if text.head? = some '\uFEFF' then .error (Fault.at text .byteOrderMark 0)
  else
    match readValue longest room (skipBlanks text) with
    | .error (problem, place) => .error (Fault.at text problem (text.length - place.length))
    | .ok (value, ⟨after, _⟩) =>
      match skipBlanks after with
      | [] => .ok value
      | rest => .error (Fault.at text .extraData (text.length - rest.length))

end Json

end Interpolation
