import Mathlib.Data.List.DropRight
import Interpolation.Proofs.NumberLiterals

/-!
# How floating-point numbers are written

A finite number is written in one of two forms: as digits with a point among them, or as one digit,
perhaps a point with more of them, and an exponent with a sign and two digits at least.  In both the
digits come from a numeral without needless zeros, so that the digits behind the point do not end in
a zero, unless it is the only one and there is no exponent (`isFloatText_write`).

A number that is written in another form is therefore never given as it is written.
-/

set_option autoImplicit false

namespace Interpolation

open Characters

/-! ## Digits without needless zeros -/

namespace Characters

/-- A positive number has digits, the first of which is not a zero. -/
theorem exists_ofNat_eq_cons {n : Nat} (hn : 0 < n) :
    ∃ d digits, ofNat n = d :: digits ∧ d ≠ '0' := by
  induction n using Nat.strongRecOn with
  | ind n ih =>
    rw [ofNat]
    by_cases hsmall : n < 10
    · rw [Nat.toDigits_of_lt_base hsmall]
      refine ⟨_, [], rfl, ?_⟩
      intro hzero
      have hvalue := Nat.toNat_digitChar_of_lt_ten hsmall
      rw [hzero] at hvalue
      have hcode : '0'.toNat = 48 := rfl
      omega
    · obtain ⟨d, digits, hdigits, hd⟩ := ih (n / 10) (by omega) (by omega)
      rw [ofNat] at hdigits
      rw [Nat.toDigits_of_base_le (by decide) (by omega), hdigits]
      exact ⟨d, _, rfl, hd⟩

theorem isDigit_of_mem_ofNat {n : Nat} {c : Char} (h : c ∈ ofNat n) : c.isDigit = true :=
  Nat.isDigit_of_mem_toDigits (by decide) (by decide) h

theorem isDigits_ofNat (n : Nat) : IsDigits (ofNat n) :=
  ⟨Nat.toDigits_ne_nil, fun _ => isDigit_of_mem_ofNat⟩

end Characters

namespace Binary64

/-- Digits that neither begin nor end with a zero. -/
structure Significant (text : Characters) : Prop where
  isDigits : IsDigits text
  first : text.head? ≠ some '0'
  last : text.getLast? ≠ some '0'

/-- The significant digits of a positive number. -/
theorem significant_significantDigits {n : Nat} (hn : 0 < n) :
    Significant (significantDigits n) := by
  obtain ⟨d, digits, hdigits, hd⟩ := exists_ofNat_eq_cons hn
  show Significant ((ofNat n).rdropWhile (· = '0'))
  have hstart := List.rdropWhile_prefix (· = '0') (ofNat n)
  have hne : (ofNat n).rdropWhile (· = '0') ≠ [] := by
    rw [hdigits, ne_eq, List.rdropWhile_eq_nil_iff]
    intro hzeros
    exact hd (by simpa using hzeros d List.mem_cons_self)
  refine ⟨⟨hne, fun c hc => isDigit_of_mem_ofNat (hstart.subset hc)⟩, ?_, ?_⟩
  · obtain ⟨c, rest, hcons⟩ := List.exists_cons_of_ne_nil hne
    rw [hcons] at hstart ⊢
    rw [hdigits, List.cons_prefix_cons] at hstart
    rw [hstart.1]
    simpa using hd
  · have hlast := List.rdropWhile_last_not (· = '0') (ofNat n) hne
    rw [List.getLast?_eq_some_getLast hne]
    simpa using hlast

/-! ## The digits of a number -/

/-- The neighbour that is taken is positive, if the lower one is where it can be taken. -/
theorem pos_of_neighbour {lower upper nearLower nearUpper : Prop} {under digits : Nat}
    {_ : Decidable lower} {_ : Decidable upper} {_ : Decidable nearLower} {_ : Decidable nearUpper}
    (hlower : lower → 0 < under)
    (h : (if lower then
        (if upper then
          some (if nearLower then under else if nearUpper then under + 1 else under + under % 2)
        else some under)
      else if upper then some (under + 1) else none) = some digits) : 0 < digits := by
  split at h
  · rename_i hthere
    have hpos := hlower hthere
    split at h
    · cases h
      split
      · exact hpos
      · split <;> omega
    · cases h
      exact hpos
  · split at h
    · cases h
      exact Nat.succ_pos under
    · cases h

/-- The decimals that are tried for a positive number are positive. -/
theorem digits_pos_of_numeralOfLength? {significand length : Nat} {exponent point : Int}
    {numeral : Numeral} (hs : 0 < significand)
    (h : numeralOfLength? significand exponent point length = some numeral) :
    0 < numeral.digits := by
  -- zero is below the midpoint to the number below, and so it does not read back
  have hlow : 0 < (4 * significand -
      if significand = Nat.pow 2 52 ∧ exponent ≠ leastExponent then 1 else 2) *
        Nat.pow 2 (exponent - 2).toNat * Nat.pow 10 (-(point - length)).toNat := by
    refine Nat.mul_pos (Nat.mul_pos ?_ (Nat.pow_pos (by decide))) (Nat.pow_pos (by decide))
    split <;> omega
  unfold numeralOfLength? at h
  obtain ⟨digits, hdigits, rfl⟩ := Option.map_eq_some_iff.mp h
  refine pos_of_neighbour ?_ hdigits
  intro hreads
  rw [Nat.pos_iff_ne_zero]
  intro hzero
  rw [hzero] at hreads
  dsimp only at hreads
  rw [Nat.zero_mul] at hreads
  split at hreads <;> omega

/-- The shortest decimal of a positive number is positive. -/
theorem digits_shortest_pos {significand : Nat} (hs : 0 < significand) (exponent : Int) :
    0 < (shortest significand exponent).digits := by
  rw [shortest]
  cases h : (List.range 17).findSome? fun i =>
      numeralOfLength? significand exponent (decimalPoint significand exponent) (i + 1) with
  | none => exact hs
  | some numeral =>
    obtain ⟨i, -, hi⟩ := List.exists_of_findSome?_eq_some h
    exact digits_pos_of_numeralOfLength? hs hi

theorem isDigit_of_mem_zeros {count : Nat} {c : Char} (h : c ∈ zeros count) : c.isDigit = true := by
  rw [List.eq_of_mem_replicate h]
  rfl

/-- Zeros may stand before the digits of a number. -/
theorem isDigits_padded (count n : Nat) : IsDigits (zeros count ++ ofNat n) := by
  refine ⟨by simp [(isDigits_ofNat n).1], ?_⟩
  intro c hc
  rcases List.mem_append.mp hc with hc | hc
  · exact isDigit_of_mem_zeros hc
  · exact isDigit_of_mem_ofNat hc

/-- Zeros fill a number up to a count of digits. -/
theorem le_length_padded (count n : Nat) :
    count ≤ (zeros (count - (ofNat n).length) ++ ofNat n).length := by
  rw [List.length_append, zeros, List.length_replicate]
  omega

variable {front digits : Characters}

/-- Behind zeros, digits that do not end in a zero still do not. -/
theorem Significant.append (h : Significant digits) (hfront : ∀ c ∈ front, c.isDigit = true) :
    IsDigits (front ++ digits) ∧ (front ++ digits).getLast? ≠ some '0' := by
  refine ⟨⟨?_, ?_⟩, ?_⟩
  · simp [h.isDigits.1]
  · intro c hc
    rcases List.mem_append.mp hc with hc | hc
    · exact hfront c hc
    · exact h.isDigits.2 c hc
  · rw [List.getLast?_append_of_ne_nil front h.isDigits.1]
    exact h.last

/-- Other digits may stand behind the first one. -/
theorem Significant.isNumeral_append (h : Significant digits) {tail : Characters}
    (htail : ∀ c ∈ tail, c.isDigit = true) : IsNumeral (digits ++ tail) := by
  obtain ⟨d, rest, rfl⟩ := List.exists_cons_of_ne_nil h.isDigits.1
  refine ⟨⟨List.cons_ne_nil _ _, ?_⟩, fun hzero => absurd hzero h.first⟩
  intro c hc
  rcases List.mem_append.mp hc with hc | hc
  · exact h.isDigits.2 c hc
  · exact htail c hc

/-- The digits before a point among them. -/
theorem Significant.isNumeral_take (h : Significant digits) {count : Nat} (hpos : 0 < count) :
    IsNumeral (digits.take count) := by
  obtain ⟨d, rest, rfl⟩ := List.exists_cons_of_ne_nil h.isDigits.1
  obtain ⟨count, rfl⟩ := Nat.exists_eq_succ_of_ne_zero (Nat.pos_iff_ne_zero.mp hpos)
  refine ⟨⟨List.cons_ne_nil _ _, fun c hc => h.isDigits.2 c (List.mem_of_mem_take hc)⟩, ?_⟩
  exact fun hzero => absurd hzero h.first

/-- The digits behind a point among them. -/
theorem Significant.drop (h : Significant digits) {count : Nat} (hlt : count < digits.length) :
    IsDigits (digits.drop count) ∧ (digits.drop count).getLast? ≠ some '0' := by
  have hne : digits.drop count ≠ [] := by
    rw [ne_eq, List.drop_eq_nil_iff]
    omega
  refine ⟨⟨hne, fun c hc => h.isDigits.2 c (List.mem_of_mem_drop hc)⟩, ?_⟩
  rw [List.getLast?_drop, if_neg (by omega)]
  exact h.last

end Binary64

/-! ## The two forms -/

namespace Json

open Binary64

/-- The forms in which finite floating-point numbers are written. -/
inductive IsFloatText : Characters → Prop
  | positional {negative : Bool} {whole fraction : Characters} :
    IsNumeral whole → IsDigits fraction → fraction = ['0'] ∨ fraction.getLast? ≠ some '0' →
    IsFloatText (sign negative ++ (whole ++ '.' :: fraction))
  | scientific {negative : Bool} {first mark : Char} {fraction point exponent : Characters} :
    first.isDigit = true → first ≠ '0' → WritesFraction fraction point →
    fraction.getLast? ≠ some '0' → mark = '+' ∨ mark = '-' → IsDigits exponent →
    2 ≤ exponent.length →
    IsFloatText (sign negative ++ (first :: point ++ 'e' :: mark :: exponent))

/-- A positive numeral is written in one of these forms, with any sign. -/
theorem isFloatText_numeral {numeral : Numeral} (hpos : 0 < numeral.digits) (negative : Bool) :
    IsFloatText (sign negative ++ floatLayout.numeral numeral) := by
  have hsignificant := significant_significantDigits hpos
  unfold Layout.numeral
  dsimp only
  generalize significantDigits numeral.digits = digits at hsignificant ⊢
  generalize ((ofNat numeral.digits).length : Int) + numeral.exponent = point
  split
  · split
    · -- no digit stands before the point
      have hfraction := hsignificant.append fun c (hc : c ∈ Binary64.zeros (-point).toNat) =>
        isDigit_of_mem_zeros hc
      exact @IsFloatText.positional negative ['0'] _ isNumeral_zero hfraction.1
        (.inr hfraction.2)
    · split
      · -- no digit stands behind the point
        have hwhole := hsignificant.isNumeral_append fun c
          (hc : c ∈ Binary64.zeros (point.toNat - digits.length)) => isDigit_of_mem_zeros hc
        exact @IsFloatText.positional negative _ ['0'] hwhole isNumeral_zero.digits (.inl rfl)
      · have hpoint : 0 < point.toNat := by omega
        have hwithin : point.toNat < digits.length := by omega
        have hwhole := hsignificant.isNumeral_take hpoint
        have hfraction := hsignificant.drop hwithin
        exact @IsFloatText.positional negative _ _ hwhole hfraction.1 (.inr hfraction.2)
  · obtain ⟨first, rest, rfl⟩ := List.exists_cons_of_ne_nil hsignificant.isDigits.1
    have hfirst := hsignificant.isDigits.2 first List.mem_cons_self
    have hnonzero : first ≠ '0' := fun hzero => hsignificant.first (congrArg some hzero)
    have hmark : (if point - 1 < 0 then '-' else '+') = '+' ∨
        (if point - 1 < 0 then '-' else '+') = '-' := by
      split
      · exact .inr rfl
      · exact .inl rfl
    have hexponent := isDigits_padded (2 - (ofNat (point - 1).natAbs).length) (point - 1).natAbs
    have hlength := le_length_padded 2 (point - 1).natAbs
    cases rest with
    | nil =>
      exact @IsFloatText.scientific negative first _ [] [] _ hfirst hnonzero .none (by simp) hmark
        hexponent hlength
    | cons second rest =>
      have hwithin : 1 < (first :: second :: rest).length := by simp
      have hfraction := hsignificant.drop hwithin
      exact @IsFloatText.scientific negative first _ _ _ _ hfirst hnonzero (.digits hfraction.1)
        hfraction.2 hmark hexponent hlength

/-- What is written of a floating-point number has one of these forms, or is a word. -/
theorem isFloatText_write (x : Binary64) :
    IsFloatText (floatLayout.write x) ∨ ∃ value, (floatLayout.write x, value) ∈ words := by
  cases x with
  | nan => exact .inr ⟨.float .nan, by simp [words, floatLayout, Layout.write]⟩
  | infinite negative =>
    refine .inr ⟨.float (.infinite negative), ?_⟩
    cases negative <;> simp [words, floatLayout, Layout.write]
  | finite negative significand exponent =>
    left
    have hsign : ∀ magnitude : Characters, (if negative then '-' :: magnitude else magnitude) =
        sign negative ++ magnitude := by
      intro magnitude
      cases negative <;> rfl
    rw [Layout.write, hsign]
    split
    · exact @IsFloatText.positional negative ['0'] ['0'] isNumeral_zero isNumeral_zero.digits
        (.inl rfl)
    · rename_i hnonzero
      exact isFloatText_numeral (digits_shortest_pos (Nat.pos_of_ne_zero hnonzero) exponent) negative

/-- A number that is given as it is written has one of these forms. -/
theorem Literal.IsWritten.isFloatText {literal : Literal} {spelling : Characters}
    (h : literal.IsWritten spelling) {x : Binary64} (hx : floatLayout.write x = spelling) :
    IsFloatText spelling := by
  rcases isFloatText_write x with hform | ⟨value, hword⟩
  · rwa [hx] at hform
  · rw [hx] at hword
    exact absurd h (not_isWritten_word hword literal)

end Json

end Interpolation
