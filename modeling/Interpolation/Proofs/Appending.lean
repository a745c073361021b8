import Mathlib.Data.List.Infix
import Interpolation.Proofs.Nesting

/-!
# Reading a text that goes on

What is read in a text when another text stands behind it.

A placeholder that has been read stays, whatever follows (`firstPlaceholder?_append`), as long as no
closing delimiter stands inside the short opening behind its start.  Else the text could end in the
middle of a short opening that what follows makes whole, and a closing delimiter inside of it, found
before, would be lost.

What is left of a text behind its last placeholder is its `remainder`.  A text is `Complete` if it
has no opening delimiter in there and does not end in the middle of one.  What stands behind a
complete text is read as if it stood alone.
-/

set_option autoImplicit false

namespace Interpolation

namespace Text

variable {pattern front text : Text}

/-- What is found in a text is found there too when the text goes on. -/
theorem indexOf?_append_of_some {i : Nat} (h : indexOf? pattern text = some i) (tail : Text) :
    indexOf? pattern (text ++ tail) = some i := by
  have hle := indexOf?_add_le h
  obtain ⟨-, hthere, hfirst⟩ := indexOf?_eq_some_iff.mp h
  refine indexOf?_eq_some_iff.mpr ⟨?_, ?_, fun j hj hprefix => hfirst j hj ?_⟩
  · rw [List.length_append]
    omega
  · rw [List.drop_append_of_le_length (by omega)]
    exact hthere.trans (List.prefix_append _ _)
  · rw [List.drop_append_of_le_length (by omega)] at hprefix
    refine List.prefix_of_prefix_length_le hprefix (List.prefix_append _ _) ?_
    rw [List.length_drop]
    omega

/-- What is found in the front part of a text is found there too with another text behind it. -/
theorem indexOf?_append_of_add_le {tail tail' : Text} {i : Nat}
    (h : indexOf? pattern (front ++ tail) = some i) (hle : i + pattern.length ≤ front.length) :
    indexOf? pattern (front ++ tail') = some i := by
  obtain ⟨-, hthere, hfirst⟩ := indexOf?_eq_some_iff.mp h
  apply indexOf?_append_of_some
  rw [List.drop_append_of_le_length (by omega)] at hthere
  refine indexOf?_eq_some_iff.mpr ⟨by omega, ?_, fun j hj hprefix => hfirst j hj ?_⟩
  · apply List.prefix_of_prefix_length_le hthere (List.prefix_append _ _)
    rw [List.length_drop]
    omega
  · rw [List.drop_append_of_le_length (by omega)]
    exact hprefix.trans (List.prefix_append _ _)

/-- Behind a front part in which the pattern does not start, a search is a search in the rest. -/
theorem indexOf?_append_of_not_isPrefix
    (h : ∀ j < front.length, ¬ pattern <+: (front ++ text).drop j) :
    indexOf? pattern (front ++ text) = (indexOf? pattern text).map (front.length + ·) := by
  induction front with
  | nil => simp
  | cons c front ih =>
    have hhere : ¬ pattern <+: c :: (front ++ text) := h 0 (Nat.succ_pos _)
    have hbehind := ih fun j hj => h (j + 1) (Nat.succ_lt_succ hj)
    rw [List.cons_append, indexOf?, if_neg (by rwa [List.isPrefixOf_iff_prefix]), hbehind,
      Option.map_map]
    congr 1
    funext i
    simp only [Function.comp, List.length_cons]
    omega

end Text

namespace Dialect

variable {d : Dialect} {nested : Nat} {front text : Text} {p : Placeholder}

/-! ## Behind a placeholder -/

/-- A dialect in which no closing delimiter stands inside the short opening, behind its start. -/
def Separate (d : Dialect) : Prop :=
  ∀ i, 0 < i → ¬ d.closing <+: d.shortOpening.drop i

/-- The short opening of `${name:default}` is one brace, and so has nothing behind its start. -/
theorem separate_shell : shell.Separate := by
  intro i hpos hclosing
  have hlength := hclosing.length_le
  have hshort : shell.shortOpening.length = 1 := rfl
  have hpos' := shell.closing_length_pos
  rw [List.length_drop] at hlength
  omega

/-- Where a front part has room for a closing delimiter, it does not depend on what stands behind
whether one starts there. -/
theorem not_closing_isPrefix_append {tail : Text} (h : ¬ d.closing <+: front ++ tail)
    (hle : d.closing.length ≤ front.length) (tail' : Text) : ¬ d.closing <+: front ++ tail' := by
  intro hprefix
  have hfront := List.prefix_of_prefix_length_le hprefix (List.prefix_append front tail') hle
  exact h (hfront.trans (List.prefix_append front tail))

/-- A closing delimiter that is found in the front part of a text is found there too with another
text behind it, unless that makes a short opening whole on the way. -/
theorem closerIn?_append_of_some {i : Nat} {tail tail' : Text}
    (h : d.closerIn? nested (front ++ tail) = some i) (hle : i + d.closing.length ≤ front.length)
    (hopening : ∀ j < i, d.shortOpening <+: (front ++ tail').drop j →
      d.shortOpening <+: (front ++ tail).drop j) :
    d.closerIn? nested (front ++ tail') = some i := by
  -- along the search: each token it takes ends within the front part, and is taken there too
  generalize htext : front ++ tail = text at h
  fun_induction Dialect.closerIn? d nested text generalizing i front with
  | case1 => cases h
  | case2 c rest hc =>
    have hclosing : d.closing <+: front ++ tail := htext ▸ List.isPrefixOf_iff_prefix.mp hc
    cases h
    obtain ⟨behind, rfl⟩ := List.prefix_of_prefix_length_le hclosing (List.prefix_append _ _)
      (by omega)
    rw [List.append_assoc, closerIn?_zero_closing]
  | case3 c rest hc outer ih =>
    have hclosing : d.closing <+: front ++ tail := htext ▸ List.isPrefixOf_iff_prefix.mp hc
    obtain ⟨j, hj, rfl⟩ := Option.map_eq_some_iff.mp h
    obtain ⟨behind, rfl⟩ := List.prefix_of_prefix_length_le hclosing (List.prefix_append _ _)
      (by omega)
    rw [List.length_append] at hle
    rw [← htext, List.append_assoc, List.drop_left] at hj ih
    rw [List.append_assoc, closerIn?_succ_closing, ih (by omega) ?_ rfl hj, Option.map_some]
    intro k hk
    have hthere := hopening (d.closing.length + k) (by omega)
    rwa [List.append_assoc, List.append_assoc, List.drop_length_add_append,
      List.drop_length_add_append] at hthere
  | case4 nested c rest hc ho ih =>
    have hshort : d.shortOpening <+: front ++ tail := htext ▸ List.isPrefixOf_iff_prefix.mp ho
    obtain ⟨j, hj, rfl⟩ := Option.map_eq_some_iff.mp h
    have hnone : ¬ d.closing <+: front ++ tail := by
      rw [htext, ← List.isPrefixOf_iff_prefix]
      exact hc
    have hbehind := not_closing_isPrefix_append hnone (by omega) tail'
    obtain ⟨behind, rfl⟩ := List.prefix_of_prefix_length_le hshort (List.prefix_append _ _)
      (by omega)
    rw [List.length_append] at hle
    rw [← htext, List.append_assoc, List.drop_left] at hj ih
    rw [List.append_assoc] at hbehind ⊢
    rw [closerIn?_shortOpening hbehind, ih (by omega) ?_ rfl hj, Option.map_some]
    intro k hk
    have hthere := hopening (d.shortOpening.length + k) (by omega)
    rwa [List.append_assoc, List.append_assoc, List.drop_length_add_append,
      List.drop_length_add_append] at hthere
  | case5 nested c rest hc ho ih =>
    obtain ⟨j, hj, rfl⟩ := Option.map_eq_some_iff.mp h
    have hnone : ¬ d.closing <+: front ++ tail := by
      rw [htext, ← List.isPrefixOf_iff_prefix]
      exact hc
    have hclosing := not_closing_isPrefix_append hnone (by omega) tail'
    have hshort : ¬ d.shortOpening <+: front ++ tail' := by
      intro hthere
      apply ho
      rw [List.isPrefixOf_iff_prefix, ← htext]
      exact hopening 0 (by omega) hthere
    cases front with
    | nil =>
      rw [List.length_nil] at hle
      omega
    | cons c' front =>
      cases htext
      rw [List.length_cons] at hle
      rw [List.cons_append] at hclosing hshort ⊢
      rw [closerIn?_cons hclosing hshort, ih (by omega) ?_ rfl hj, Option.map_some]
      intro k hk
      have hthere := hopening (k + 1) (by omega)
      rwa [List.cons_append, List.cons_append, List.drop_succ_cons, List.drop_succ_cons] at hthere

/-- Where a text holds a closing delimiter behind its first character, no short opening starts the
text only because it goes on. -/
theorem Separate.not_shortOpening_isPrefix_append (separate : d.Separate)
    (h : ¬ d.shortOpening <+: text) {i : Nat} (hpos : 0 < i)
    (hclosing : d.closing <+: text.drop i) (tail : Text) : ¬ d.shortOpening <+: text ++ tail := by
  intro hprefix
  rcases List.prefix_or_prefix_of_prefix hprefix (List.prefix_append text tail) with hwhole | hpart
  · exact h hwhole
  · -- the text would be the start of the short opening, with the closing delimiter in it
    exact separate i hpos (hclosing.trans (List.IsPrefix.drop hpart i))

/-- A closing delimiter that is found in a text is found there too when the text goes on. -/
theorem Separate.closerIn?_append (separate : d.Separate) {i : Nat}
    (h : d.closerIn? nested text = some i) (tail : Text) :
    d.closerIn? nested (text ++ tail) = some i := by
  have hle := d.closerIn?_add_le h
  have hclosing := d.isPrefix_of_closerIn? h
  rw [← List.append_nil text] at h
  apply closerIn?_append_of_some h hle
  intro j hj hopening
  rw [List.append_nil]
  rw [List.drop_append_of_le_length (by omega)] at hopening
  by_contra hnone
  have hbehind : d.closing <+: (text.drop j).drop (i - j) := by
    rw [List.drop_drop, Nat.add_sub_of_le (Nat.le_of_lt hj)]
    exact hclosing
  exact separate.not_shortOpening_isPrefix_append hnone (by omega) hbehind tail hopening

/-- A placeholder that is read in a text is read there too when the text goes on. -/
theorem Separate.firstPlaceholder?_append (separate : d.Separate)
    (h : d.firstPlaceholder? text = some p) (tail : Text) :
    d.firstPlaceholder? (text ++ tail) = some { p with after := p.after ++ tail } := by
  obtain ⟨htext, hstart, hclose⟩ := firstPlaceholder?_eq_some_iff.mp h
  refine firstPlaceholder?_eq_some_iff.mpr ⟨?_, Text.indexOf?_append_of_some hstart tail, ?_⟩
  · dsimp only
    rw [← List.append_assoc, ← htext]
  · dsimp only
    rw [← List.append_assoc]
    exact separate.closerIn?_append hclose tail

/-! ## Behind the last placeholder -/

/-- What is left of a text behind the last placeholder that is read in it. -/
def remainder (d : Dialect) (text : Text) : Text :=
  match _next : d.firstPlaceholder? text with
  | none => text
  | some p => remainder d p.after
termination_by text.length
decreasing_by exact length_after_lt _next

/-- A text without a placeholder that is read is left as a whole. -/
theorem remainder_of_none (h : d.firstPlaceholder? text = none) : d.remainder text = text := by
  rw [remainder]
  split
  · rfl
  · rename_i p hp
    rw [h] at hp
    cases hp

/-- What is left of a text is left of it behind its first placeholder. -/
theorem remainder_of_some (h : d.firstPlaceholder? text = some p) :
    d.remainder text = d.remainder p.after := by
  rw [remainder]
  split
  · rename_i hp
    rw [h] at hp
    cases hp
  · rename_i q hq
    rw [h] at hq
    cases hq
    rfl

/-- A text that ends outside of placeholders and delimiters: every opening delimiter that is met
when it is read has a closing one, and it does not end with the beginning of another one. -/
structure Complete (d : Dialect) (text : Text) : Prop where
  closed : ¬ d.opening <:+: d.remainder text
  whole : ∀ part, part <:+ text → part <+: d.opening → part = [] ∨ part = d.opening

/-- What stands behind a placeholder of a complete text is complete. -/
theorem Complete.after (complete : d.Complete text) (h : d.firstPlaceholder? text = some p) :
    d.Complete p.after := by
  have hafter : p.after <:+ text := by
    rw [(firstPlaceholder?_eq_some_iff.mp h).1]
    exact List.suffix_append _ _
  constructor
  · rw [← remainder_of_some h]
    exact complete.closed
  · intro part hpart
    exact complete.whole part (hpart.trans hafter)

/-- No opening delimiter starts in a complete text without a placeholder, whatever follows. -/
theorem Complete.not_isPrefix_drop (complete : d.Complete front)
    (h : d.firstPlaceholder? front = none) (text : Text) {j : Nat} (hj : j < front.length) :
    ¬ d.opening <+: (front ++ text).drop j := by
  have hclosed := complete.closed
  rw [remainder_of_none h] at hclosed
  have hsuffix := List.drop_suffix j front
  rw [List.drop_append_of_le_length (Nat.le_of_lt hj)]
  intro hopening
  rcases List.prefix_or_prefix_of_prefix hopening (List.prefix_append _ text) with hwhole | hpart
  · exact hclosed (List.IsInfix.trans (List.IsPrefix.isInfix hwhole) hsuffix.isInfix)
  · rcases complete.whole _ hsuffix hpart with hnil | heq
    · exact absurd (List.drop_eq_nil_iff.mp hnil) (Nat.not_le_of_lt hj)
    · exact hclosed (heq ▸ hsuffix.isInfix)

/-- Behind a front part in which no opening delimiter starts, the first placeholder is that of the
rest. -/
theorem firstPlaceholder?_append_of_not_isPrefix
    (h : ∀ j < front.length, ¬ d.opening <+: (front ++ text).drop j) :
    d.firstPlaceholder? (front ++ text) =
      (d.firstPlaceholder? text).map fun p => { p with before := front ++ p.before } := by
  unfold firstPlaceholder?
  rw [Text.indexOf?_append_of_not_isPrefix h]
  cases Text.indexOf? d.opening text with
  | none => rfl
  | some start =>
    rw [Option.map_some, Option.bind_some, Option.bind_some, closerAt?_append, Option.map_map,
      Option.map_map]
    congr 1
    funext stop
    simp only [Function.comp, Nat.add_assoc, List.take_length_add_append, Text.slice_append,
      List.drop_length_add_append]

end Dialect

end Interpolation
