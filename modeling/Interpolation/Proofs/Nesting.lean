import Mathlib.Logic.ExistsUnique
import Interpolation.Proofs.Placeholder

/-!
# Placeholders inside placeholders

How the search for a closing delimiter goes over the parts of a text: over a closing delimiter, a
short opening, a character at which neither stands, and from these over whole texts.

A *plain* text has no character of a delimiter.  In a *nestable* dialect the delimiters have no
character in common, and the short opening stands in the opening delimiter once, which is at its
end.  There the search passes over a plain text and goes one level deeper at an opening delimiter.
-/

set_option autoImplicit false

namespace Interpolation

/-- A pattern does not stand at a character that it does not have. -/
theorem not_isPrefix_cons_of_not_mem {pattern rest : Text} {c : CodePoint} (ne : pattern ≠ [])
    (h : c ∉ pattern) : ¬ pattern <+: c :: rest := by
  cases pattern with
  | nil => exact absurd rfl ne
  | cons first others =>
    intro hprefix
    obtain ⟨rfl, -⟩ := List.cons_prefix_cons.mp hprefix
    exact h List.mem_cons_self

namespace Dialect

variable {d : Dialect} {nested : Nat} {rest text : Text}

/-! ## One step of the search -/

/-- At level zero, the first closing delimiter is the one. -/
theorem closerIn?_zero_closing (rest : Text) : d.closerIn? 0 (d.closing ++ rest) = some 0 := by
  have hprefix : d.closing <+: d.closing ++ rest := List.prefix_append _ _
  cases htext : d.closing ++ rest with
  | nil => exact absurd (List.append_eq_nil_iff.mp htext).1 d.closing_ne_nil
  | cons c others =>
    rw [htext] at hprefix
    rw [closerIn?, if_pos (List.isPrefixOf_iff_prefix.mpr hprefix)]

/-- A closing delimiter goes one level back. -/
theorem closerIn?_succ_closing (nested : Nat) (rest : Text) :
    d.closerIn? (nested + 1) (d.closing ++ rest) =
      (d.closerIn? nested rest).map (d.closing.length + ·) := by
  have hprefix : d.closing <+: d.closing ++ rest := List.prefix_append _ _
  have hdrop : (d.closing ++ rest).drop d.closing.length = rest := List.drop_left
  cases htext : d.closing ++ rest with
  | nil => exact absurd (List.append_eq_nil_iff.mp htext).1 d.closing_ne_nil
  | cons c others =>
    rw [htext] at hprefix hdrop
    rw [closerIn?, if_pos (List.isPrefixOf_iff_prefix.mpr hprefix), hdrop]

/-- A short opening goes one level deeper, where no closing delimiter stands. -/
theorem closerIn?_shortOpening (h : ¬ d.closing <+: d.shortOpening ++ rest) :
    d.closerIn? nested (d.shortOpening ++ rest) =
      (d.closerIn? (nested + 1) rest).map (d.shortOpening.length + ·) := by
  have hprefix : d.shortOpening <+: d.shortOpening ++ rest := List.prefix_append _ _
  have hdrop : (d.shortOpening ++ rest).drop d.shortOpening.length = rest := List.drop_left
  cases htext : d.shortOpening ++ rest with
  | nil => exact absurd (List.append_eq_nil_iff.mp htext).1 d.shortOpening_ne_nil
  | cons c others =>
    rw [htext] at h hprefix hdrop
    rw [closerIn?.eq_def]
    dsimp only
    rw [if_neg fun hclose => h (List.isPrefixOf_iff_prefix.mp hclose),
      if_pos (List.isPrefixOf_iff_prefix.mpr hprefix), hdrop]

/-- A character at which neither stands is passed over. -/
theorem closerIn?_cons {c : CodePoint} (hclosing : ¬ d.closing <+: c :: rest)
    (hopening : ¬ d.shortOpening <+: c :: rest) :
    d.closerIn? nested (c :: rest) = (d.closerIn? nested rest).map (1 + ·) := by
  rw [closerIn?.eq_def]
  dsimp only
  rw [if_neg fun h => hclosing (List.isPrefixOf_iff_prefix.mp h),
    if_neg fun h => hopening (List.isPrefixOf_iff_prefix.mp h)]

/-- A text in which neither starts is passed over. -/
theorem closerIn?_append {front : Text}
    (h : ∀ j < front.length, ¬ d.closing <+: front.drop j ++ rest ∧
      ¬ d.shortOpening <+: front.drop j ++ rest) :
    d.closerIn? nested (front ++ rest) =
      (d.closerIn? nested rest).map (front.length + ·) := by
  induction front with
  | nil => simp
  | cons c front ih =>
    obtain ⟨hclosing, hopening⟩ := h 0 (Nat.succ_pos _)
    have hthere := ih fun j hj => h (j + 1) (Nat.succ_lt_succ hj)
    rw [List.drop_zero, List.cons_append] at hclosing hopening
    rw [List.cons_append, closerIn?_cons hclosing hopening, hthere, map_add_map_add,
      List.length_cons, Nat.add_comm]

/-! ## Plain texts -/

/-- A text without characters of the delimiters. -/
def Plain (d : Dialect) (text : Text) : Prop :=
  ∀ c ∈ text, c ∉ d.opening ∧ c ∉ d.closing

instance (d : Dialect) (text : Text) : Decidable (d.Plain text) :=
  List.decidableBAll (fun c => c ∉ d.opening ∧ c ∉ d.closing) text

/-- The empty text is plain. -/
theorem plain_nil : d.Plain [] := by
  intro c hc
  cases hc

/-- A text is plain if its parts are. -/
theorem plain_append {front : Text} : d.Plain (front ++ rest) ↔ d.Plain front ∧ d.Plain rest :=
  List.forall_mem_append

/-- The short opening is an end of the opening delimiter. -/
theorem shortOpening_isSuffix (d : Dialect) : d.shortOpening <:+ d.opening := by
  unfold shortOpening shortOpeningOf
  split
  · split
    · rename_i bracket _ hlast
      obtain ⟨front, hfront⟩ := List.getLast?_eq_some_iff.mp hlast
      exact ⟨front, hfront.symm⟩
    · exact List.suffix_rfl
  · exact List.suffix_rfl

/-- The search for a closing delimiter passes over a plain text. -/
theorem Plain.closerIn?_append (h : d.Plain text) (nested : Nat) (rest : Text) :
    d.closerIn? nested (text ++ rest) = (d.closerIn? nested rest).map (text.length + ·) := by
  refine Dialect.closerIn?_append fun j hj => ?_
  rw [List.drop_eq_getElem_cons hj, List.cons_append]
  have hchar := h text[j] (List.getElem_mem hj)
  constructor
  · exact not_isPrefix_cons_of_not_mem d.closing_ne_nil hchar.2
  · refine not_isPrefix_cons_of_not_mem d.shortOpening_ne_nil fun hmem => ?_
    exact hchar.1 (d.shortOpening_isSuffix.subset hmem)

/-- An opening delimiter does not start in a plain text. -/
theorem Plain.not_isPrefix_drop (h : d.Plain text) {j : Nat} (hj : j < text.length) (rest : Text) :
    ¬ d.opening <+: (text ++ rest).drop j := by
  rw [List.drop_append_of_le_length (Nat.le_of_lt hj), List.drop_eq_getElem_cons hj,
    List.cons_append]
  exact not_isPrefix_cons_of_not_mem d.opening_ne_nil (h text[j] (List.getElem_mem hj)).1

/-- A plain text has no placeholder. -/
theorem Plain.firstPlaceholder?_eq_none (h : d.Plain text) : d.firstPlaceholder? text = none := by
  apply firstPlaceholder?_of_not_isInfix
  intro hstands
  obtain ⟨c, hc⟩ := List.exists_mem_of_ne_nil d.opening d.opening_ne_nil
  exact (h c (hstands.subset hc)).1 hc

/-- The first placeholder behind a plain text. -/
theorem Plain.firstPlaceholder?_append {front body : Text} (h : d.Plain front)
    (hclose : d.closerIn? 0 (body ++ d.closing ++ rest) = some body.length) :
    d.firstPlaceholder? (front ++ d.written body ++ rest) = some ⟨front, body, rest⟩ := by
  refine firstPlaceholder?_eq_some_iff.mpr ⟨rfl, ?_, hclose⟩
  refine Text.indexOf?_eq_some_iff.mpr ⟨?_, ⟨body ++ d.closing ++ rest, ?_⟩, fun j hj => ?_⟩
  · simp only [List.length_append]
    omega
  · simp only [written, List.append_assoc, List.drop_left]
  · rw [List.append_assoc]
    exact h.not_isPrefix_drop hj _

/-- A placeholder with a plain body is read, whatever stands behind it. -/
theorem Plain.firstPlaceholder?_written_append {body : Text} (h : d.Plain body) (rest : Text) :
    d.firstPlaceholder? (d.written body ++ rest) = some ⟨[], body, rest⟩ := by
  refine plain_nil.firstPlaceholder?_append ?_
  rw [List.append_assoc, h.closerIn?_append, closerIn?_zero_closing]
  rfl

/-! ## Nestable dialects -/

/-- A dialect in which placeholders nest: the delimiters have no character in common, and the short
opening stands in the opening delimiter exactly once. -/
structure Nestable (d : Dialect) : Prop where
  disjoint : ∀ c ∈ d.opening, c ∉ d.closing
  once : ∃! i, d.shortOpening <+: d.opening.drop i

/-- No closing delimiter stands where an opening delimiter has a character. -/
theorem Nestable.not_closing_isPrefix (h : d.Nestable) {j : Nat} (hj : j < d.opening.length)
    (rest : Text) : ¬ d.closing <+: d.opening.drop j ++ rest := by
  rw [List.drop_eq_getElem_cons hj, List.cons_append]
  exact not_isPrefix_cons_of_not_mem d.closing_ne_nil (h.disjoint _ (List.getElem_mem hj))

/-- An opening delimiter goes one level deeper. -/
theorem Nestable.closerIn?_opening (h : d.Nestable) (nested : Nat) (rest : Text) :
    d.closerIn? nested (d.opening ++ rest) =
      (d.closerIn? (nested + 1) rest).map (d.opening.length + ·) := by
  obtain ⟨front, hfront⟩ := d.shortOpening_isSuffix
  have hlength : d.opening.length = front.length + d.shortOpening.length := by
    rw [← hfront, List.length_append]
  have hpos := d.shortOpening_length_pos
  have hend : d.opening.drop front.length = d.shortOpening := by
    rw [← hfront, List.drop_left]
  have hthere : d.shortOpening <+: d.opening.drop front.length :=
    ⟨[], by rw [List.append_nil, hend]⟩
  -- the short opening stands at the end of the opening delimiter, and so nowhere else in it
  have honly : ∀ j < front.length, ¬ d.shortOpening <+: d.opening.drop j := by
    intro j hj hprefix
    have hsame := h.once.unique hprefix hthere
    omega
  have hskip : ∀ j < front.length, ¬ d.closing <+: front.drop j ++ (d.shortOpening ++ rest) ∧
      ¬ d.shortOpening <+: front.drop j ++ (d.shortOpening ++ rest) := by
    intro j hj
    have hdrop : front.drop j ++ (d.shortOpening ++ rest) = d.opening.drop j ++ rest := by
      rw [← List.append_assoc, ← List.drop_append_of_le_length (Nat.le_of_lt hj), hfront]
    rw [hdrop]
    refine ⟨h.not_closing_isPrefix (by omega) rest, fun hprefix => honly j hj ?_⟩
    refine List.prefix_of_prefix_length_le hprefix (List.prefix_append _ _) ?_
    rw [List.length_drop]
    omega
  have hclosing : ¬ d.closing <+: d.shortOpening ++ rest := by
    rw [← hend]
    exact h.not_closing_isPrefix (by omega) rest
  rw [← hfront, List.append_assoc, Dialect.closerIn?_append hskip, closerIn?_shortOpening hclosing,
    map_add_map_add, List.length_append]

/-- Placeholders nest in the dialect of `${name:default}`: its short opening is the brace alone. -/
theorem nestable_shell : shell.Nestable where
  disjoint := by
    intro c hopening hclosing
    rw [List.mem_singleton.mp hclosing] at hopening
    exact absurd hopening (by decide)
  once := by
    refine ⟨1, by decide, fun i hi => ?_⟩
    match i with
    | 0 => exact absurd hi (by decide)
    | 1 => rfl
    | i + 2 =>
      have hprefix : shell.shortOpening <+: shell.opening.drop (i + 2) := hi
      rw [List.drop_eq_nil_of_le (Nat.le_add_left 2 i), List.prefix_nil] at hprefix
      exact absurd hprefix shell.shortOpening_ne_nil

end Dialect

end Interpolation
