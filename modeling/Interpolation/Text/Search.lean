import Interpolation.Text.CodePoint

/-!
# Searching in text

A text is a list of code points, so every length and every index counts code points.  This file
holds the searches of the library: where a pattern first stands in a text, from the start or from a
given index, and the cut of a text at the first place of a pattern.  They look at nothing but which
elements are the same, and serve lists of characters as well.

The lemmas beside them say what a search finds, which is the first index where the pattern stands;
the text up to the end of that place is no longer than the text.  Behind a front part of a text, a
search, a slice and a splice only see the rest.
-/

set_option autoImplicit false

namespace Interpolation

namespace Text

variable {α : Type} [DecidableEq α]

/-! ## Where a pattern stands -/

/-- The index of the first place where the pattern stands in the text. -/
def indexOf? (pattern : List α) : List α → Option Nat
  | [] => if pattern = [] then some 0 else none
  | c :: rest =>
    if pattern.isPrefixOf (c :: rest) then some 0 else (indexOf? pattern rest).map (· + 1)

/-- The index of the first place at or after `start` where the pattern stands in the text. -/
def indexFrom? (pattern text : List α) (start : Nat) : Option Nat :=
  (indexOf? pattern (text.drop start)).map (start + ·)

/-- The texts before and after the first place where the pattern stands. -/
def cutAt? (pattern text : List α) : Option (List α × List α) :=
  (indexOf? pattern text).map fun i => (text.take i, text.drop (i + pattern.length))

/-- The part of a text from one index up to another. -/
def slice (text : Text) (start stop : Nat) : Text :=
  (text.take stop).drop start

/-- The text with the part between two indices replaced. -/
def splice (text : Text) (start stop : Nat) (insertion : Text) : Text :=
  text.take start ++ insertion ++ text.drop stop

/-! ## What a search has found -/

/-- A place that a search finds ends within the text. -/
theorem indexOf?_add_le {pattern text : List α} {i : Nat} (h : indexOf? pattern text = some i) :
    i + pattern.length ≤ text.length := by
  induction text generalizing i with
  | nil =>
    simp only [indexOf?] at h
    split at h
    · rename_i hp
      simp only [Option.some.injEq] at h
      simp [hp, ← h]
    · simp at h
  | cons c rest ih =>
    simp only [indexOf?] at h
    split at h
    · rename_i hp
      simp only [Option.some.injEq] at h
      subst h
      simpa using (List.isPrefixOf_iff_prefix.mp hp).length_le
    · obtain ⟨j, hj, rfl⟩ := Option.map_eq_some_iff.mp h
      have := ih hj
      simp only [List.length_cons]
      omega

/-- A search from an index finds nothing before that index. -/
theorem le_of_indexFrom? {pattern text : List α} {start i : Nat}
    (h : indexFrom? pattern text start = some i) : start ≤ i := by
  obtain ⟨j, -, rfl⟩ := Option.map_eq_some_iff.mp h
  omega

/-- The length of a text after a splice whose two ends are in order and within the text. -/
theorem length_splice {text insertion : Text} {start stop : Nat} (h : start ≤ stop)
    (le : stop ≤ text.length) :
    (text.splice start stop insertion).length =
      start + insertion.length + (text.length - stop) := by
  simp only [splice, List.length_append, List.length_take, List.length_drop]
  omega

/-- A search finds the first place of the pattern: the pattern stands there, and nowhere before. -/
theorem indexOf?_eq_some_iff {pattern text : List α} {i : Nat} :
    indexOf? pattern text = some i ↔
      i ≤ text.length ∧ pattern <+: text.drop i ∧ ∀ j < i, ¬ pattern <+: text.drop j := by
  induction text generalizing i with
  | nil =>
    rw [indexOf?]
    by_cases empty : pattern = []
    · subst empty
      cases i <;> simp
    · simp [empty]
  | cons c rest ih =>
    rw [indexOf?]
    by_cases here : pattern <+: c :: rest
    · rw [if_pos (List.isPrefixOf_iff_prefix.mpr here)]
      cases i with
      | zero => simp [here]
      | succ i =>
        refine iff_of_false (by simp) fun h => ?_
        exact h.2.2 0 (Nat.succ_pos i) here
    · rw [if_neg fun h => here (List.isPrefixOf_iff_prefix.mp h)]
      cases i with
      | zero => simp [here]
      | succ i =>
        have shift : (∀ j < i + 1, ¬ pattern <+: (c :: rest).drop j) ↔
            ∀ j < i, ¬ pattern <+: rest.drop j := by
          constructor
          · intro h j hj
            exact h (j + 1) (Nat.succ_lt_succ hj)
          · intro h j hj
            cases j with
            | zero => exact here
            | succ j => exact h j (Nat.lt_of_succ_lt_succ hj)
        rw [shift]
        simp [ih]

/-- A text that is cut at the first place of a pattern. -/
structure IsFirstCut (pattern text before after : List α) : Prop where
  eq_append : text = before ++ pattern ++ after
  first : ∀ before' after', text = before' ++ pattern ++ after' → before.length ≤ before'.length

/-- The cut of a text is the one at the first place of the pattern. -/
theorem cutAt?_eq_some_iff {pattern text before after : List α} :
    cutAt? pattern text = some (before, after) ↔ IsFirstCut pattern text before after := by
  constructor
  · intro h
    obtain ⟨i, hi, hcut⟩ := Option.map_eq_some_iff.mp h
    obtain ⟨hle, ⟨rest, hrest⟩, hfirst⟩ := indexOf?_eq_some_iff.mp hi
    cases hcut
    constructor
    · rw [← List.drop_drop, ← hrest, List.drop_left, List.append_assoc, hrest,
        List.take_append_drop]
    · intro before' after' htext
      rw [List.length_take_of_le hle]
      refine Nat.le_of_not_lt fun hlt => hfirst before'.length hlt ⟨after', ?_⟩
      rw [htext, List.append_assoc, List.drop_left]
  · rintro ⟨rfl, hfirst⟩
    have hindex : indexOf? pattern (before ++ pattern ++ after) = some before.length := by
      refine indexOf?_eq_some_iff.mpr ⟨?_, ⟨after, ?_⟩, ?_⟩
      · simp only [List.length_append]
        omega
      · rw [List.append_assoc, List.drop_left]
      · rintro j hj ⟨after', hafter⟩
        have hle := hfirst ((before ++ pattern ++ after).take j) after' (by
          rw [List.append_assoc (List.take _ _), hafter, List.take_append_drop])
        rw [List.length_take] at hle
        omega
    rw [cutAt?, hindex, Option.map_some, ← List.length_append, List.drop_left, List.append_assoc,
      List.take_left]

/-! ## Behind a text that has been read -/

/-- A search from the end of a front part is a search in the rest. -/
theorem indexFrom?_append (pattern front rest : List α) :
    indexFrom? pattern (front ++ rest) front.length =
      (indexOf? pattern rest).map (front.length + ·) := by
  rw [indexFrom?, List.drop_left]

/-- A slice behind a front part is a slice of the rest. -/
theorem slice_append (front rest : Text) (start stop : Nat) :
    slice (front ++ rest) (front.length + start) (front.length + stop) = slice rest start stop := by
  rw [slice, slice, List.take_length_add_append, List.drop_length_add_append]

/-- A splice behind a front part is a splice of the rest. -/
theorem splice_append (front rest insertion : Text) (start stop : Nat) :
    splice (front ++ rest) (front.length + start) (front.length + stop) insertion =
      front ++ splice rest start stop insertion := by
  rw [splice, splice, List.take_length_add_append, List.drop_length_add_append]
  simp only [List.append_assoc]

end Text

end Interpolation
