import Mathlib.Data.List.Infix
import Interpolation.Json.Writer
import Interpolation.Json.Reader

/-!
# Number literals

A number is written as a sign, if it is negative, its digits before the point, and perhaps a point
with digits behind it and an exponent.  `Literal.IsWritten` says so, apart from the reader.  What
the reader takes from the start of a text is a literal as it is written
(`isWritten_of_readLiteral?`), and a literal as it is written is read as that literal
(`readLiteral?_of_isWritten`); so a text is written of one literal at most
(`Literal.IsWritten.unique`).

A whole number is given in decimal digits again, which are the ones that it was written in, but for
the sign of zero (`Literal.write_of_isWhole`).
-/

set_option autoImplicit false

namespace Interpolation

/-! ## Decimal digits -/

namespace Characters

/-- Decimal digits, of which there are some. -/
def IsDigits (text : Characters) : Prop :=
  text ≠ [] ∧ ∀ c ∈ text, c.isDigit = true

/-- Decimal digits that start with a zero only if there is no other one. -/
structure IsNumeral (text : Characters) : Prop where
  digits : IsDigits text
  noZero : text.head? = some '0' → text = ['0']

variable {digits rest : Characters} {c : Char}

theorem isNumeral_zero : IsNumeral ['0'] :=
  ⟨⟨by simp, by simp⟩, fun _ => rfl⟩

/-- A digit is the digit of its value. -/
theorem digitChar_of_isDigit (h : c.isDigit = true) :
    c.toNat - '0'.toNat < 10 ∧ Nat.digitChar (c.toNat - '0'.toNat) = c := by
  obtain ⟨hlow, hhigh⟩ := Char.isDigit_iff_toNat.mp h
  have hzero : '0'.toNat = 48 := rfl
  have hnine : '9'.toNat = 57 := rfl
  have hlt : c.toNat - '0'.toNat < 10 := by omega
  refine ⟨hlt, ?_⟩
  apply Char.toNat_inj.mp
  rw [Nat.toNat_digitChar_of_lt_ten hlt]
  omega

theorem wholeNumber_append_singleton (digits : Characters) (c : Char) :
    wholeNumber (digits ++ [c]) = 10 * wholeNumber digits + (c.toNat - '0'.toNat) := by
  rw [wholeNumber, List.foldl_append, ← wholeNumber, List.foldl_cons, List.foldl_nil, Nat.mul_comm]

/-- The digits of the number that a numeral writes are the numeral. -/
theorem ofNat_wholeNumber (h : IsNumeral digits) : ofNat (wholeNumber digits) = digits := by
  -- from the first digit on: each digit behind it is put behind the digits of what is there
  induction digits using List.reverseRecOn with
  | nil => exact absurd rfl h.digits.1
  | append_singleton front c ih =>
    obtain ⟨hlt, hchar⟩ := digitChar_of_isDigit (h.digits.2 c (by simp))
    cases front with
    | nil =>
      show Nat.toDigits 10 (wholeNumber ([] ++ [c])) = [c]
      rw [wholeNumber_append_singleton, Nat.toDigits_of_lt_base (by simpa [wholeNumber] using hlt)]
      simpa [wholeNumber] using hchar
    | cons d front =>
      have hfront : IsNumeral (d :: front) := by
        refine ⟨⟨List.cons_ne_nil _ _, fun x hx => h.digits.2 x (List.mem_append_left _ hx)⟩, ?_⟩
        intro hzero
        have hwhole := h.noZero hzero
        simp at hwhole
      have hread := ih hfront
      have hpos : 0 < wholeNumber (d :: front) := by
        rw [Nat.pos_iff_ne_zero]
        intro hnone
        rw [hnone] at hread
        obtain ⟨rfl, rfl⟩ := List.cons.inj hread
        have hwhole := h.noZero rfl
        simp at hwhole
      rw [ofNat] at hread ⊢
      rw [wholeNumber_append_singleton, ← Nat.toDigits_append_toDigits (by decide) hpos hlt, hread,
        Nat.toDigits_of_lt_base hlt, hchar]

end Characters

/-! ## Literals as they are written -/

namespace Json

open Characters

/-- The digits behind the point, as they are written. -/
inductive WritesFraction : Characters → Characters → Prop
  | none : WritesFraction [] []
  | digits {digits : Characters} : IsDigits digits → WritesFraction digits ('.' :: digits)

/-- An exponent, as it is written. -/
inductive WritesExponent : Option Int → Characters → Prop
  | none : WritesExponent none []
  | unsigned {e : Char} {digits : Characters} : e = 'e' ∨ e = 'E' → IsDigits digits →
    WritesExponent (some (wholeNumber digits)) (e :: digits)
  | positive {e : Char} {digits : Characters} : e = 'e' ∨ e = 'E' → IsDigits digits →
    WritesExponent (some (wholeNumber digits)) (e :: '+' :: digits)
  | negative {e : Char} {digits : Characters} : e = 'e' ∨ e = 'E' → IsDigits digits →
    WritesExponent (some (-(wholeNumber digits : Int))) (e :: '-' :: digits)

/-- The sign of a number, as it is written. -/
def sign (negative : Bool) : Characters :=
  if negative then ['-'] else []

/-- A number, as it is written. -/
inductive Literal.IsWritten : Literal → Characters → Prop
  | parts {negative : Bool} {whole fraction point exponentText : Characters}
    {exponent : Option Int} :
    IsNumeral whole → WritesFraction fraction point → WritesExponent exponent exponentText →
    IsWritten ⟨negative, whole, fraction, exponent⟩
      (sign negative ++ (whole ++ (point ++ exponentText)))

/-! ## Reading the parts -/

variable {text rest : Characters}

theorem takeDigits_append {digits : Characters} (h : ∀ c ∈ digits, c.isDigit = true)
    (hrest : ∀ c, rest.head? = some c → c.isDigit = false) :
    takeDigits (digits ++ rest) = (digits, rest) := by
  rw [takeDigits, List.takeWhile_append_of_pos h, List.dropWhile_append_of_pos h]
  cases rest with
  | nil => simp
  | cons c rest => simp [hrest c rfl]

/-- The digits that are taken are digits, and stand before the rest. -/
theorem isDigits_takeDigits {c : Char} (h : c.isDigit = true) (text : Characters) :
    IsDigits (takeDigits (c :: text)).1 ∧
      (takeDigits (c :: text)).1 ++ (takeDigits (c :: text)).2 = c :: text := by
  refine ⟨⟨?_, ?_⟩, List.takeWhile_append_dropWhile⟩
  · simp [takeDigits, h]
  · intro d hd
    exact List.all_eq_true.mp List.all_takeWhile d hd

/-- The digits before the point that are read are a numeral. -/
theorem isNumeral_of_readWhole? {whole : Characters} (h : readWhole? text = some (whole, rest)) :
    IsNumeral whole ∧ text = whole ++ rest := by
  unfold readWhole? at h
  split at h
  · cases h
    exact ⟨isNumeral_zero, rfl⟩
  · rename_i c behind hzero
    split at h
    · rename_i hc
      obtain ⟨hdigits, happend⟩ := isDigits_takeDigits hc behind
      cases h
      refine ⟨⟨hdigits, ?_⟩, happend.symm⟩
      intro hhead
      have hfirst : (takeDigits (c :: behind)).1.head? = some c := by simp [takeDigits, hc]
      obtain rfl := Option.some.inj (hfirst.symm.trans hhead)
      exact absurd rfl hzero
    · cases h
  · cases h

/-- What is read as digits behind a point stands before the rest. -/
theorem writesFraction_readFraction (text : Characters) :
    ∃ point, WritesFraction (readFraction text).1 point ∧
      text = point ++ (readFraction text).2 := by
  unfold readFraction
  split
  · rename_i c behind
    split
    · rename_i hc
      obtain ⟨hdigits, happend⟩ := isDigits_takeDigits hc behind
      refine ⟨_, .digits hdigits, ?_⟩
      rw [List.cons_append, happend]
    · exact ⟨[], .none, rfl⟩
  · exact ⟨[], .none, rfl⟩

/-- The digits of an exponent that are read are digits, and stand before the rest. -/
theorem isDigits_of_readExponentDigits? {negative : Bool} {exponent : Int}
    (h : readExponentDigits? negative text = some (exponent, rest)) :
    ∃ digits, IsDigits digits ∧ text = digits ++ rest ∧
      exponent = if negative then -(wholeNumber digits : Int) else wholeNumber digits := by
  unfold readExponentDigits? at h
  split at h
  · cases h
  · rename_i digits behind hne htake
    simp only [Option.some.injEq, Prod.mk.injEq] at h
    obtain ⟨rfl, rfl⟩ := h
    have hread : digits = (takeDigits text).1 ∧ behind = (takeDigits text).2 := by simp [htake]
    obtain ⟨rfl, rfl⟩ := hread
    refine ⟨(takeDigits text).1, ⟨hne, ?_⟩, List.takeWhile_append_dropWhile.symm, rfl⟩
    · intro d hd
      exact List.all_eq_true.mp List.all_takeWhile d hd

/-- An exponent that is read stands before the rest. -/
theorem writesExponent_of_readExponent? {exponent : Int}
    (h : readExponent? text = some (exponent, rest)) :
    ∃ exponentText, WritesExponent (some exponent) exponentText ∧ text = exponentText ++ rest := by
  unfold readExponent? at h
  split at h
  · rename_i e behind
    split at h
    · rename_i he
      split at h
      · obtain ⟨digits, hdigits, rfl, rfl⟩ := isDigits_of_readExponentDigits? h
        exact ⟨_, .negative he hdigits, rfl⟩
      · obtain ⟨digits, hdigits, rfl, rfl⟩ := isDigits_of_readExponentDigits? h
        exact ⟨_, .positive he hdigits, rfl⟩
      · obtain ⟨digits, hdigits, rfl, rfl⟩ := isDigits_of_readExponentDigits? h
        exact ⟨_, .unsigned he hdigits, rfl⟩
    · cases h
  · cases h

/-- Reads a number behind its sign. -/
def readUnsigned? (negative : Bool) (text : Characters) : Option (Literal × Characters) :=
  (readWhole? text).map fun read =>
    match readExponent? (readFraction read.2).2 with
    | some (exponent, rest) =>
      (⟨negative, read.1, (readFraction read.2).1, some exponent⟩, rest)
    | none => (⟨negative, read.1, (readFraction read.2).1, none⟩, (readFraction read.2).2)

theorem readLiteral?_of_head? (h : text.head? ≠ some '-') :
    readLiteral? text = readUnsigned? false text := by
  unfold readLiteral?
  split
  rename_i negative unsigned hsplit
  split at hsplit
  · exact absurd rfl h
  · cases hsplit
    rfl

/-- A number that is read behind its sign is written there. -/
theorem isWritten_of_readUnsigned? {negative : Bool} {literal : Literal}
    (h : readUnsigned? negative text = some (literal, rest)) :
    ∃ spelling, literal.IsWritten (sign negative ++ spelling) ∧ text = spelling ++ rest := by
  obtain ⟨⟨whole, behind⟩, hwhole, hread⟩ := Option.map_eq_some_iff.mp h
  obtain ⟨hnumeral, rfl⟩ := isNumeral_of_readWhole? hwhole
  obtain ⟨point, hfraction, hbehind⟩ := writesFraction_readFraction behind
  dsimp only at hread
  split at hread
  · rename_i exponent rest' hexponent
    obtain ⟨exponentText, hwrites, hrest⟩ := writesExponent_of_readExponent? hexponent
    cases hread
    refine ⟨_, .parts hnumeral hfraction hwrites, ?_⟩
    rw [hbehind, hrest]
    simp only [List.append_assoc]
  · cases hread
    refine ⟨_, .parts hnumeral hfraction .none, ?_⟩
    rw [List.append_nil, List.append_assoc, ← hbehind]

/-- A literal that is read is written at the start of the text. -/
theorem isWritten_of_readLiteral? {literal : Literal}
    (h : readLiteral? text = some (literal, rest)) :
    ∃ spelling, literal.IsWritten spelling ∧ text = spelling ++ rest := by
  by_cases hminus : text.head? = some '-'
  · obtain ⟨unsigned, rfl⟩ := List.head?_eq_some_iff.mp hminus
    obtain ⟨spelling, hwritten, rfl⟩ := isWritten_of_readUnsigned? h
    exact ⟨_, hwritten, rfl⟩
  · rw [readLiteral?_of_head? hminus] at h
    exact isWritten_of_readUnsigned? h

/-! ## A literal is read as it is written -/

/-- Nothing in which the digits before it could go on. -/
theorem isDigit_of_head?_exponentText {exponent : Option Int} {exponentText : Characters}
    (h : WritesExponent exponent exponentText) {c : Char} (hc : exponentText.head? = some c) :
    c.isDigit = false ∧ c ≠ '.' := by
  cases h with
  | none => cases hc
  | unsigned he _ | positive he _ | negative he _ =>
    cases hc
    rcases he with rfl | rfl <;> decide

theorem readExponentDigits?_of_isDigits {digits : Characters} (h : IsDigits digits)
    (negative : Bool) :
    readExponentDigits? negative digits =
      some (if negative then -(wholeNumber digits : Int) else wholeNumber digits, []) := by
  have hend : ∀ c, ([] : Characters).head? = some c → c.isDigit = false := by simp
  have htake := takeDigits_append h.2 hend
  rw [List.append_nil] at htake
  unfold readExponentDigits?
  rw [htake]
  cases digits with
  | nil => exact absurd rfl h.1
  | cons d digits => rfl

/-- An exponent is read as it is written. -/
theorem readExponent?_of_writesExponent {exponent : Option Int} {exponentText : Characters}
    (h : WritesExponent exponent exponentText) :
    readExponent? exponentText = exponent.map (·, []) := by
  cases h with
  | none => rfl
  | @unsigned e digits he hdigits =>
    obtain ⟨d, digits, rfl⟩ := List.exists_cons_of_ne_nil hdigits.1
    have hd := hdigits.2 d List.mem_cons_self
    unfold readExponent?
    dsimp only
    rw [if_pos he]
    split
    · rename_i heq
      cases heq
      cases hd
    · rename_i heq
      cases heq
      cases hd
    · exact readExponentDigits?_of_isDigits hdigits false
  | positive he hdigits =>
    rw [readExponent?, if_pos he]
    exact readExponentDigits?_of_isDigits hdigits false
  | negative he hdigits =>
    rw [readExponent?, if_pos he]
    exact readExponentDigits?_of_isDigits hdigits true

/-- The digits behind a point are read as they are written, where no others stand behind them. -/
theorem readFraction_of_writesFraction {fraction point : Characters}
    (h : WritesFraction fraction point)
    (hrest : ∀ c, rest.head? = some c → c.isDigit = false ∧ c ≠ '.') :
    readFraction (point ++ rest) = (fraction, rest) := by
  cases h with
  | none =>
    rw [List.nil_append]
    unfold readFraction
    split
    · exact absurd rfl (hrest _ rfl).2
    · rfl
  | digits hdigits =>
    obtain ⟨d, digits, rfl⟩ := List.exists_cons_of_ne_nil hdigits.1
    have htake := takeDigits_append hdigits.2 fun c hc => (hrest c hc).1
    rw [List.cons_append, List.cons_append] at *
    rw [readFraction, if_pos (hdigits.2 d List.mem_cons_self)]
    exact htake

/-- The digits before the point are read as they are written, where no others stand behind them. -/
theorem readWhole?_of_isNumeral {whole : Characters} (h : IsNumeral whole)
    (hrest : ∀ c, rest.head? = some c → c.isDigit = false) :
    readWhole? (whole ++ rest) = some (whole, rest) := by
  by_cases hzero : whole.head? = some '0'
  · rw [h.noZero hzero]
    rfl
  · obtain ⟨d, digits, rfl⟩ := List.exists_cons_of_ne_nil h.digits.1
    have htake := takeDigits_append h.digits.2 hrest
    rw [List.cons_append] at *
    unfold readWhole?
    split
    · rename_i heq
      cases heq
      exact absurd rfl hzero
    · rename_i c behind _ heq
      cases heq
      rw [if_pos (h.digits.2 d List.mem_cons_self), htake]
    · cases ‹_›

/-- A literal is read as it is written. -/
theorem readLiteral?_of_isWritten {literal : Literal} {spelling : Characters}
    (h : literal.IsWritten spelling) : readLiteral? spelling = some (literal, []) := by
  cases h with
  | @parts negative whole fraction point exponentText exponent hwhole hfraction hexponent =>
    have hbehind : ∀ c, (point ++ exponentText).head? = some c → c.isDigit = false := by
      intro c hc
      cases hfraction with
      | none => exact (isDigit_of_head?_exponentText hexponent hc).1
      | digits _ =>
        cases hc
        decide
    have hunsigned : readUnsigned? negative (whole ++ (point ++ exponentText)) =
        some (⟨negative, whole, fraction, exponent⟩, []) := by
      rw [readUnsigned?, readWhole?_of_isNumeral hwhole hbehind, Option.map_some]
      dsimp only
      rw [readFraction_of_writesFraction hfraction fun c =>
        isDigit_of_head?_exponentText hexponent, readExponent?_of_writesExponent hexponent]
      cases exponent with
      | some exponent => rfl
      | none =>
        cases hexponent
        rfl
    cases negative with
    | true => exact hunsigned
    | false =>
      have hhead : (sign false ++ (whole ++ (point ++ exponentText))).head? ≠ some '-' := by
        obtain ⟨d, digits, rfl⟩ := List.exists_cons_of_ne_nil hwhole.digits.1
        intro hminus
        cases hminus
        have hdigit := hwhole.digits.2 '-' List.mem_cons_self
        cases hdigit
      rw [readLiteral?_of_head? hhead]
      exact hunsigned

/-- A text is written of one literal at most. -/
theorem Literal.IsWritten.unique {literal literal' : Literal} {spelling : Characters}
    (h : literal.IsWritten spelling) (h' : literal'.IsWritten spelling) : literal = literal' := by
  have hread := (readLiteral?_of_isWritten h).symm.trans (readLiteral?_of_isWritten h')
  exact congrArg Prod.fst (Option.some.inj hread)

/-! ## The value of a literal -/

/-- A number without a fraction and an exponent. -/
def Literal.IsWhole (literal : Literal) : Prop :=
  literal.fraction = [] ∧ literal.exponent = none

/-- The floating-point number nearest to a number. -/
def Literal.nearest (literal : Literal) : Binary64 :=
  Binary64.ofDecimal literal.negative (wholeNumber (literal.whole ++ literal.fraction))
    (literal.exponent.getD 0 - literal.fraction.length)

variable {longest : Nat} {literal : Literal} {spelling : Characters} {value : Value}

/-- A whole number is written with its sign and its digits. -/
theorem Literal.IsWritten.of_isWhole (h : literal.IsWritten spelling) (hwhole : literal.IsWhole) :
    IsNumeral literal.whole ∧ spelling = sign literal.negative ++ literal.whole := by
  cases h with
  | parts hnumeral hfraction hexponent =>
    obtain ⟨hnil, hnone⟩ := hwhole
    dsimp only at hnil hnone
    subst hnil hnone
    cases hexponent
    cases hfraction with
    | digits hdigits => exact absurd rfl hdigits.1
    | none => exact ⟨hnumeral, by rw [List.append_nil, List.append_nil]⟩

/-- The value of a whole number, if it is not too long. -/
theorem Literal.value_of_isWhole (h : literal.IsWhole) :
    literal.value longest = if longest < literal.whole.length then .error literal.whole.length
      else .ok (.int (if literal.negative then -(wholeNumber literal.whole : Int)
        else wholeNumber literal.whole)) := by
  rw [value]
  exact if_pos h

/-- The value of a number with a fraction or an exponent is the nearest floating-point number. -/
theorem Literal.value_of_not_isWhole (h : ¬ literal.IsWhole) :
    literal.value longest = .ok (.float literal.nearest) := by
  rw [value]
  exact if_neg h

/-- A whole number that is not too long is given as it is written, but for the sign of zero. -/
theorem Literal.write_of_isWhole (h : literal.IsWritten spelling) (hwhole : literal.IsWhole)
    (hvalue : literal.value longest = .ok value) :
    literal.whole.length ≤ longest ∧
      write value = if spelling = ['-', '0'] then ['0'] else spelling := by
  obtain ⟨hnumeral, rfl⟩ := h.of_isWhole hwhole
  rw [value_of_isWhole hwhole] at hvalue
  split at hvalue
  · cases hvalue
  · rename_i hshort
    refine ⟨Nat.le_of_not_lt hshort, ?_⟩
    cases hvalue
    have hdigits := ofNat_wholeNumber hnumeral
    show ofInt _ = _
    cases literal.negative with
    | false =>
      have hsigned : sign false ++ literal.whole ≠ ['-', '0'] := by
        intro heq
        have hminus : '-' ∈ literal.whole := by
          rw [show literal.whole = ['-', '0'] from heq]
          exact List.mem_cons_self
        cases hnumeral.digits.2 '-' hminus
      rw [if_neg hsigned, if_neg Bool.false_ne_true, ofInt, if_neg (by omega), Int.natAbs_natCast,
        hdigits]
      rfl
    | true =>
      rw [if_pos rfl]
      by_cases hzero : wholeNumber literal.whole = 0
      · rw [hzero] at hdigits ⊢
        rw [← hdigits]
        rfl
      · have hsigned : sign true ++ literal.whole ≠ ['-', '0'] := by
          intro heq
          apply hzero
          rw [show literal.whole = ['0'] from (List.cons.inj heq).2]
          rfl
        rw [if_neg hsigned, ofInt, if_pos (by omega), Int.natAbs_neg, Int.natAbs_natCast, hdigits]
        rfl

/-! ## The start of a value -/

/-- What is read as a word or a number is one, and stands before the rest. -/
theorem cases_of_readPlain {after : { after : Characters // after.length < text.length }}
    (h : readPlain longest text = .ok (value, after)) :
    (∃ word, (word, value) ∈ words ∧ text = word ++ after.val) ∨
    ∃ (literal : Literal) (spelling : Characters), literal.IsWritten spelling ∧
      literal.value longest = .ok value ∧ text = spelling ++ after.val := by
  unfold readPlain at h
  split at h
  · rename_i read behind hword
    cases h
    obtain ⟨word, hfind, hread⟩ := Option.map_eq_some_iff.mp hword
    cases hread
    have hstarts : word.1.isPrefixOf text = true := by simpa using List.find?_some hfind
    obtain ⟨tail, rfl⟩ := List.isPrefixOf_iff_prefix.mp hstarts
    exact .inl ⟨word.1, List.mem_of_find?_eq_some hfind,
      congrArg (word.1 ++ ·) List.drop_left.symm⟩
  · split at h
    · cases h
    · rename_i literal behind hliteral
      obtain ⟨spelling, hwritten, htext⟩ := isWritten_of_readLiteral? hliteral
      split at h
      · rename_i value hvalue
        cases h
        exact .inr ⟨literal, spelling, hwritten, hvalue, htext⟩
      · cases h

/-- What does not start with a quote or a bracket is read as a word or a number. -/
theorem readValue_of_head? {room : Nat} {c : Char} (h : text.head? = some c)
    (hc : c ≠ '"' ∧ c ≠ '[' ∧ c ≠ '\x7b') :
    readValue longest room text = readPlain longest text := by
  unfold readValue
  split
  · cases h
    exact absurd rfl hc.1
  · cases h
    exact absurd rfl hc.2.1
  · cases h
    exact absurd rfl hc.2.2
  · rfl

/-- No word is a number. -/
theorem not_isWritten_word {word : Characters} (h : (word, value) ∈ words) (literal : Literal) :
    ¬ literal.IsWritten word := by
  have hread : ∀ w ∈ words, readLiteral? w.1 = none := by decide
  intro hwritten
  have hnone := hread (word, value) h
  rw [readLiteral?_of_isWritten hwritten] at hnone
  cases hnone

/-- A number starts with a minus sign or a digit. -/
theorem Literal.IsWritten.head? (h : literal.IsWritten spelling) :
    ∃ c, spelling.head? = some c ∧ (c = '-' ∨ c.isDigit = true) := by
  cases h with
  | @parts negative whole _ _ _ _ hnumeral _ _ =>
    cases negative with
    | true => exact ⟨'-', rfl, .inl rfl⟩
    | false =>
      obtain ⟨d, digits, rfl⟩ := List.exists_cons_of_ne_nil hnumeral.digits.1
      exact ⟨d, rfl, .inr (hnumeral.digits.2 d List.mem_cons_self)⟩

section

variable {room : Nat} {after : { after : Characters // after.length < text.length }}

/-- Where a word is what has been read, its value is what it has been read as. -/
theorem readValue_word {word : Characters} {value' : Value} (hmem : (word, value') ∈ words)
    (h : readValue longest room text = .ok (value, after)) (htext : text = word ++ after.val) :
    value = value' := by
  have hhead : ∀ w ∈ words, ∃ c, w.1.head? = some c ∧ c ≠ '"' ∧ c ≠ '[' ∧ c ≠ '\x7b' := by
    simp [words]
  have honly : ∀ w ∈ words, ∀ w' ∈ words, w.1 = w'.1 → w.2 = w'.2 := by
    simp [words]
  obtain ⟨c, hc, hplain⟩ := hhead _ hmem
  have hstart : text.head? = some c := by
    rw [htext, List.head?_append, hc]
    rfl
  rw [readValue_of_head? hstart hplain] at h
  rcases cases_of_readPlain h with ⟨word', hmem', heq⟩ | ⟨literal, spelling, hwritten, -, heq⟩
  · have hword := List.append_cancel_right (htext.symm.trans heq)
    exact (honly _ hmem _ hmem' hword).symm
  · have hword := List.append_cancel_right (htext.symm.trans heq)
    exact absurd (hword ▸ hwritten) (not_isWritten_word hmem literal)

/-- Where a number is what has been read, its value is what it has been read as. -/
theorem readValue_literal (hwritten : literal.IsWritten spelling)
    (h : readValue longest room text = .ok (value, after)) (htext : text = spelling ++ after.val) :
    literal.value longest = .ok value := by
  obtain ⟨c, hc, hnumber⟩ := hwritten.head?
  have hstart : text.head? = some c := by
    rw [htext, List.head?_append, hc]
    rfl
  have hplain : c ≠ '"' ∧ c ≠ '[' ∧ c ≠ '\x7b' := by
    refine ⟨?_, ?_, ?_⟩
    all_goals
      rintro rfl
      simp at hnumber
  rw [readValue_of_head? hstart hplain] at h
  rcases cases_of_readPlain h with ⟨word, hmem, heq⟩ | ⟨literal', spelling', hwritten', hvalue, heq⟩
  · have hword := List.append_cancel_right (htext.symm.trans heq)
    exact absurd (hword ▸ hwritten) (not_isWritten_word hmem literal)
  · have hspelling := List.append_cancel_right (htext.symm.trans heq)
    rw [hwritten.unique (hspelling ▸ hwritten')]
    exact hvalue

end

end Json

end Interpolation
