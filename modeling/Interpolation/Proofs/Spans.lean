import Interpolation.Proofs.Appending
import Interpolation.Proofs.ProperBodies

/-!
# The spans of nested placeholders

The search for the closing delimiter of a placeholder goes over all that is nested in its body.  The
body is then cut out and read on its own, and so is the body of what is found there.  In a nestable
dialect the two readings agree.

The first search comes to an opening delimiter in the body at some level (`Nestable.exists_level`),
and before it can go back from there to that level it has to meet the closing delimiter that a
search at level zero finds (`exists_closerIn?_of_deeper`).  So the first placeholder of the body is
one of the whole text too, and the text behind it is again one that the first search goes over
(`Nestable.exists_firstPlaceholder?`).  `Spans` holds of the places of all placeholders that are
read in a text or in the bodies of others; an induction over them carries the agreement to every
depth.
-/

set_option autoImplicit false

namespace Interpolation

namespace Dialect

variable {d : Dialect} {nested level i start stop : Nat} {front rest text body tail : Text}
variable {p : Placeholder}

/-! ## Going back to a level -/

/-- A search that starts deeper than another one goes on where that one ends. -/
theorem exists_closerIn?_of_deeper {outer : Nat}
    (h : d.closerIn? (nested + outer + 1) text = some i) :
    ∃ j k, d.closerIn? nested text = some j ∧
      d.closerIn? outer (text.drop (j + d.closing.length)) = some k ∧
      i = j + d.closing.length + k := by
  -- along the search at the lower level
  fun_induction Dialect.closerIn? d nested text generalizing i with
  | case1 =>
    rw [closerIn?] at h
    cases h
  | case2 c rest hc =>
    obtain ⟨behind, hbehind⟩ := List.isPrefixOf_iff_prefix.mp hc
    rw [Nat.zero_add, ← hbehind, closerIn?_succ_closing] at h
    obtain ⟨k, hk, rfl⟩ := Option.map_eq_some_iff.mp h
    refine ⟨0, k, rfl, ?_, by omega⟩
    rw [Nat.zero_add, ← hbehind, List.drop_left]
    exact hk
  | case3 c rest hc inner ih =>
    obtain ⟨behind, hbehind⟩ := List.isPrefixOf_iff_prefix.mp hc
    rw [← hbehind, List.drop_left] at ih ⊢
    rw [← hbehind, Nat.add_right_comm inner 1 outer, closerIn?_succ_closing] at h
    obtain ⟨i, hi, rfl⟩ := Option.map_eq_some_iff.mp h
    obtain ⟨j, k, hj, hk, rfl⟩ := ih hi
    refine ⟨d.closing.length + j, k, by rw [hj, Option.map_some], ?_, by omega⟩
    rw [Nat.add_assoc, List.drop_length_add_append]
    exact hk
  | case4 nested c rest hc ho ih =>
    obtain ⟨behind, hbehind⟩ := List.isPrefixOf_iff_prefix.mp ho
    have hnone : ¬ d.closing <+: d.shortOpening ++ behind := by
      rw [hbehind, ← List.isPrefixOf_iff_prefix]
      exact hc
    rw [← hbehind, List.drop_left] at ih ⊢
    rw [← hbehind, closerIn?_shortOpening hnone, Nat.add_right_comm (nested + outer) 1 1,
      Nat.add_right_comm nested outer 1] at h
    obtain ⟨i, hi, rfl⟩ := Option.map_eq_some_iff.mp h
    obtain ⟨j, k, hj, hk, rfl⟩ := ih hi
    refine ⟨d.shortOpening.length + j, k, by rw [hj, Option.map_some], ?_, by omega⟩
    rw [Nat.add_assoc, List.drop_length_add_append]
    exact hk
  | case5 nested c rest hc ho ih =>
    rw [List.isPrefixOf_iff_prefix] at hc ho
    rw [closerIn?_cons hc ho] at h
    obtain ⟨i, hi, rfl⟩ := Option.map_eq_some_iff.mp h
    obtain ⟨j, k, hj, hk, rfl⟩ := ih hi
    refine ⟨1 + j, k, by rw [hj, Option.map_some], ?_, by omega⟩
    rw [Nat.add_assoc, Nat.add_comm 1, List.drop_succ_cons]
    exact hk

/-! ## Coming to an opening delimiter -/

/-- A closing delimiter that starts before an opening delimiter ends before it. -/
theorem Nestable.closing_isPrefix_of_append (nestable : d.Nestable)
    (h : d.closing <+: front ++ (d.opening ++ rest)) : d.closing <+: front := by
  rcases List.prefix_or_prefix_of_prefix h (List.prefix_append front _) with hfront | ⟨beyond, hbeyond⟩
  · exact hfront
  · -- what is beyond the end of the front part starts as the opening delimiter does
    rw [← hbeyond, List.prefix_append_right_inj] at h
    cases beyond with
    | nil =>
      rw [List.append_nil] at hbeyond
      exact hbeyond ▸ List.prefix_rfl
    | cons c beyond =>
      obtain ⟨first, others, hopening⟩ := List.exists_cons_of_ne_nil d.opening_ne_nil
      rw [hopening, List.cons_append, List.cons_prefix_cons] at h
      have hmem : first ∈ d.opening := hopening ▸ List.mem_cons_self
      refine absurd ?_ (nestable.disjoint first hmem)
      rw [← hbeyond, h.1]
      exact List.mem_append_right front List.mem_cons_self

theorem shortOpening_isPrefix_of_append (hne : front ≠ [])
    (hfirst : ¬ d.opening <+: front ++ rest) (h : d.shortOpening <+: front ++ rest) :
    d.shortOpening <+: front := by
  rcases d.shortOpening_cases with hshort | ⟨_, bracket, -, hshort⟩
  · exact absurd (hshort ▸ h) hfirst
  · obtain ⟨c, others, rfl⟩ := List.exists_cons_of_ne_nil hne
    rw [hshort, List.cons_append, List.cons_prefix_cons] at h
    rw [hshort, h.1]
    exact List.prefix_append [c] others

/-- The first token of a search that ends behind the first opening delimiter stands before that
delimiter, and the search goes on behind the token. -/
theorem Nestable.exists_token (nestable : d.Nestable) (hne : front ≠ [])
    (hfirst : ¬ d.opening <+: front ++ (d.opening ++ rest))
    (h : d.closerIn? nested (front ++ (d.opening ++ rest)) = some (front.length + i)) :
    ∃ token behind level, front = token ++ behind ∧ token ≠ [] ∧
      d.closerIn? level (behind ++ (d.opening ++ rest)) = some (behind.length + i) := by
  by_cases hclosing : d.closing <+: front ++ (d.opening ++ rest)
  · obtain ⟨behind, rfl⟩ := nestable.closing_isPrefix_of_append hclosing
    have hpos := d.closing_length_pos
    rw [List.append_assoc, List.length_append] at h
    cases nested with
    | zero =>
      -- the search would end at this token
      rw [closerIn?_zero_closing, Option.some_inj] at h
      omega
    | succ outer =>
      rw [closerIn?_succ_closing] at h
      obtain ⟨k, hk, hsum⟩ := Option.map_eq_some_iff.mp h
      obtain rfl : k = behind.length + i := by omega
      exact ⟨d.closing, behind, outer, rfl, d.closing_ne_nil, hk⟩
  by_cases hopening : d.shortOpening <+: front ++ (d.opening ++ rest)
  · obtain ⟨behind, rfl⟩ := shortOpening_isPrefix_of_append hne hfirst hopening
    rw [List.append_assoc] at h hclosing
    rw [closerIn?_shortOpening hclosing, List.length_append] at h
    obtain ⟨k, hk, hsum⟩ := Option.map_eq_some_iff.mp h
    obtain rfl : k = behind.length + i := by omega
    exact ⟨d.shortOpening, behind, nested + 1, rfl, d.shortOpening_ne_nil, hk⟩
  · obtain ⟨c, behind, rfl⟩ := List.exists_cons_of_ne_nil hne
    rw [List.cons_append] at h hclosing hopening
    rw [closerIn?_cons hclosing hopening, List.length_cons] at h
    obtain ⟨k, hk, hsum⟩ := Option.map_eq_some_iff.mp h
    obtain rfl : k = behind.length + i := by omega
    exact ⟨[c], behind, nested, rfl, List.cons_ne_nil c [], hk⟩

/-- A search that ends behind the first opening delimiter comes to that delimiter, at some level. -/
theorem Nestable.exists_level (nestable : d.Nestable)
    (hfirst : ∀ j < front.length, ¬ d.opening <+: (front ++ (d.opening ++ rest)).drop j)
    (h : d.closerIn? nested (front ++ (d.opening ++ rest)) = some (front.length + i)) :
    ∃ level, d.closerIn? level (d.opening ++ rest) = some i := by
  -- on the part of the front that the search has still to go over
  induction hn : front.length using Nat.strongRecOn generalizing front nested with
  | ind n ih =>
    by_cases hempty : front = []
    · subst hempty
      rw [List.nil_append, List.length_nil, Nat.zero_add] at h
      exact ⟨nested, h⟩
    · obtain ⟨token, behind, level, rfl, hne, hlevel⟩ :=
        nestable.exists_token hempty (hfirst 0 (List.length_pos_iff.mpr hempty)) h
      have hpos := List.length_pos_iff.mpr hne
      rw [List.length_append] at hn
      refine ih behind.length (by omega) (fun j hj hopening => ?_) hlevel rfl
      apply hfirst (token.length + j) (by rw [List.length_append]; omega)
      rwa [List.append_assoc, List.drop_length_add_append]

theorem closerIn?_of_append (h : d.closerIn? nested (front ++ tail) = some i)
    (hle : i + d.closing.length ≤ front.length) : d.closerIn? nested front = some i := by
  rw [← List.append_nil front]
  apply closerIn?_append_of_some h hle
  intro j hj hopening
  rw [List.append_nil] at hopening
  rw [List.drop_append_of_le_length (by omega)]
  exact hopening.trans (List.prefix_append _ _)

theorem exists_append_of_closerIn? (h : d.closerIn? nested text = some i) :
    ∃ front behind, text = front ++ (d.closing ++ behind) ∧ front.length = i := by
  have hle := d.closerIn?_add_le h
  obtain ⟨behind, hbehind⟩ := d.isPrefix_of_closerIn? h
  refine ⟨text.take i, behind, ?_, List.length_take_of_le (by omega)⟩
  rw [hbehind, List.take_append_drop]

/-- If a search ends at the end of a body with an opening delimiter in it, the body has a first
placeholder there.  With the text behind the body, the closing delimiter of this placeholder is the
same, and what stands behind the placeholder is a body at whose end a search ends. -/
theorem Nestable.exists_firstPlaceholder? (nestable : d.Nestable)
    (h : d.closerIn? level (body ++ tail) = some body.length)
    (hstart : Text.indexOf? d.opening body = some start) :
    ∃ p, d.firstPlaceholder? body = some p ∧ p.before.length = start ∧
      d.closerIn? 0 (p.body ++ (d.closing ++ (p.after ++ tail))) = some p.body.length ∧
      ∃ level, d.closerIn? level (p.after ++ tail) = some p.after.length := by
  obtain ⟨hle, ⟨rest, hrest⟩, -⟩ := Text.indexOf?_eq_some_iff.mp hstart
  obtain ⟨-, -, hfirst⟩ := Text.indexOf?_eq_some_iff.mp (Text.indexOf?_append_of_some hstart tail)
  obtain ⟨before, hbefore, hlength⟩ : ∃ before, body = before ++ (d.opening ++ rest) ∧
      before.length = start :=
    ⟨body.take start, by rw [hrest, List.take_append_drop], List.length_take_of_le hle⟩
  have hwhole : body ++ tail = before ++ (d.opening ++ (rest ++ tail)) := by
    rw [hbefore, List.append_assoc, List.append_assoc]
  -- the search over the body comes to the opening delimiter, and goes one level deeper there
  rw [hwhole] at h hfirst
  rw [hbefore, List.length_append, List.length_append] at h
  obtain ⟨level, hlevel⟩ := nestable.exists_level (hlength ▸ hfirst) h
  rw [nestable.closerIn?_opening] at hlevel
  obtain ⟨k, hk, hsum⟩ := Option.map_eq_some_iff.mp hlevel
  obtain rfl : k = rest.length := by omega
  -- so it meets the closing delimiter that belongs to the opening one, and comes back
  rw [← Nat.zero_add level] at hk
  obtain ⟨j, k, hj, hback, hsum⟩ := exists_closerIn?_of_deeper hk
  have hclose := closerIn?_of_append hj (by omega)
  obtain ⟨inner, after, rfl, rfl⟩ := exists_append_of_closerIn? hclose
  rw [List.append_assoc, List.append_assoc, List.drop_length_add_append, List.drop_left] at hback
  simp only [List.length_append] at hsum
  obtain rfl : k = after.length := by omega
  refine ⟨⟨before, inner, after⟩, ?_, hlength, ?_, level, hback⟩
  · refine firstPlaceholder?_eq_some_iff.mpr ⟨?_, by rw [hstart, hlength], ?_⟩
    · simp only [hbefore, written, List.append_assoc]
    · rw [List.append_assoc]
      exact hclose
  · rw [List.append_assoc, List.append_assoc] at hj
    exact hj

/-- If a search ends at the end of a body, one ends at the end of the body of its first placeholder
and one at the end of what stands behind that. -/
theorem Nestable.closerIn?_of_firstPlaceholder? (nestable : d.Nestable)
    (h : d.closerIn? level (body ++ tail) = some body.length)
    (hp : d.firstPlaceholder? body = some p) :
    d.closerIn? 0 (p.body ++ (d.closing ++ (p.after ++ tail))) = some p.body.length ∧
      ∃ level, d.closerIn? level (p.after ++ tail) = some p.after.length := by
  obtain ⟨q, hq, -, hbody, hafter⟩ :=
    nestable.exists_firstPlaceholder? h (firstPlaceholder?_eq_some_iff.mp hp).2.1
  cases hp.symm.trans hq
  exact ⟨hbody, hafter⟩

/-! ## Spans -/

/-- The places of the placeholders that are read in a text, or in the body of a placeholder that is:
an opening delimiter stands at the first index and its closing one at the second. -/
inductive Spans (d : Dialect) : (text : Text) → (start stop : Nat) → Prop
  | first {text : Text} {p : Placeholder} : d.firstPlaceholder? text = some p →
    Spans d text p.before.length (p.before.length + d.opening.length + p.body.length)
  | inside {text : Text} {p : Placeholder} {start stop : Nat} :
    d.firstPlaceholder? text = some p → Spans d p.body start stop →
    Spans d text (p.before.length + d.opening.length + start)
      (p.before.length + d.opening.length + stop)
  | behind {text : Text} {p : Placeholder} {start stop : Nat} :
    d.firstPlaceholder? text = some p → Spans d p.after start stop →
    Spans d text ((p.before ++ d.written p.body).length + start)
      ((p.before ++ d.written p.body).length + stop)

theorem Spans.le (h : d.Spans text start stop) :
    start + d.opening.length ≤ stop ∧ stop + d.closing.length ≤ text.length := by
  induction h with
  | first hp =>
    rw [(firstPlaceholder?_eq_some_iff.mp hp).1]
    simp only [written, List.length_append]
    omega
  | inside hp _ ih =>
    rw [(firstPlaceholder?_eq_some_iff.mp hp).1]
    simp only [written, List.length_append]
    omega
  | behind hp _ ih =>
    rw [(firstPlaceholder?_eq_some_iff.mp hp).1]
    simp only [written, List.length_append] at *
    omega

/-- Two places of placeholders that are the same, or one behind the other, or one in the body of the
other. -/
def ApartOrNested (d : Dialect) (start stop start' stop' : Nat) : Prop :=
  (start = start' ∧ stop = stop') ∨
  stop + d.closing.length ≤ start' ∨ stop' + d.closing.length ≤ start ∨
  (start + d.opening.length ≤ start' ∧ stop' + d.closing.length ≤ stop) ∨
  (start' + d.opening.length ≤ start ∧ stop + d.closing.length ≤ stop')

/-- The placeholders of a text do not partly overlap. -/
theorem Spans.apartOrNested {start' stop' : Nat} (h : d.Spans text start stop)
    (h' : d.Spans text start' stop') : d.ApartOrNested start stop start' stop' := by
  unfold ApartOrNested
  induction h generalizing start' stop' with
  | first hp =>
    cases h' with
    | first hp' =>
      cases hp.symm.trans hp'
      exact .inl ⟨rfl, rfl⟩
    | inside hp' hinner =>
      cases hp.symm.trans hp'
      have := hinner.le
      omega
    | behind hp' hafter =>
      cases hp.symm.trans hp'
      have := hafter.le
      simp only [written, List.length_append]
      omega
  | inside hp hinner ih =>
    have := hinner.le
    cases h' with
    | first hp' =>
      cases hp.symm.trans hp'
      omega
    | inside hp' hinner' =>
      cases hp.symm.trans hp'
      have := ih hinner'
      omega
    | behind hp' hafter =>
      cases hp.symm.trans hp'
      have := hafter.le
      simp only [written, List.length_append]
      omega
  | behind hp hafter ih =>
    have := hafter.le
    cases h' with
    | first hp' =>
      cases hp.symm.trans hp'
      simp only [written, List.length_append]
      omega
    | inside hp' hinner =>
      cases hp.symm.trans hp'
      have := hinner.le
      simp only [written, List.length_append]
      omega
    | behind hp' hafter' =>
      cases hp.symm.trans hp'
      have := ih hafter'
      omega

/-- A placeholder of a body at whose end a search ends has the same closing delimiter in the text
that the body is cut from. -/
theorem Spans.closerAt?_append (nestable : d.Nestable) (h : d.Spans body start stop)
    (hends : d.closerIn? level (body ++ tail) = some body.length) :
    d.closerAt? (body ++ tail) start = some stop := by
  induction h generalizing tail level with
  | @first text p hp =>
    have htext := (firstPlaceholder?_eq_some_iff.mp hp).1
    have hclose := (nestable.closerIn?_of_firstPlaceholder? hends hp).1
    rw [closerAt?, htext]
    simp only [written, List.append_assoc, List.drop_length_add_append, List.drop_left]
    rw [hclose, Option.map_some]
  | @inside text p start stop hp _ ih =>
    have htext := (firstPlaceholder?_eq_some_iff.mp hp).1
    have hbody := ih (nestable.closerIn?_of_firstPlaceholder? hends hp).1
    have hfront : text ++ tail =
        (p.before ++ d.opening) ++ (p.body ++ (d.closing ++ (p.after ++ tail))) := by
      rw [htext]
      simp only [written, List.append_assoc]
    rw [hfront, ← List.length_append, Dialect.closerAt?_append, hbody, Option.map_some]
  | @behind text p start stop hp _ ih =>
    have htext := (firstPlaceholder?_eq_some_iff.mp hp).1
    obtain ⟨level, hafter⟩ := (nestable.closerIn?_of_firstPlaceholder? hends hp).2
    have hfront : text ++ tail = (p.before ++ d.written p.body) ++ (p.after ++ tail) := by
      rw [← List.append_assoc, ← htext]
    rw [hfront, Dialect.closerAt?_append, ih hafter, Option.map_some]

/-! ## Slices -/

/-- The body of a placeholder whose closing delimiter is found, with the texts around it. -/
theorem exists_slice_of_closerAt? {buffer : Text} (h : d.closerAt? buffer start = some stop) :
    ∃ front body tail, buffer = front ++ (body ++ tail) ∧
      front.length = start + d.opening.length ∧
      stop = front.length + body.length ∧ buffer.slice front.length stop = body ∧
      d.closerIn? 0 (body ++ tail) = some body.length := by
  obtain ⟨offset, hclose, rfl⟩ := Option.map_eq_some_iff.mp h
  obtain ⟨body, behind, hbody, rfl⟩ := exists_append_of_closerIn? hclose
  have hle := d.closerAt?_add_le h
  have hfront : (buffer.take (start + d.opening.length)).length = start + d.opening.length :=
    List.length_take_of_le (by omega)
  refine ⟨buffer.take (start + d.opening.length), body, d.closing ++ behind, ?_, hfront, ?_, ?_, ?_⟩
  · rw [← hbody, List.take_append_drop]
  · rw [hfront]
  · rw [hfront, Text.slice, List.drop_take, hbody, Nat.add_sub_cancel_left, List.take_left]
  · rw [← hbody]
    exact hclose

/-- In a nestable dialect, cutting out the body of a placeholder keeps what is found in it.  The
first opening delimiter in the body has a closing one there, which is the one that it has in the
buffer, and ends before the body does.  The same holds of every placeholder that is read in the
body, or in the body of one that is, at whatever depth, and no two of these partly overlap. -/
theorem closer?_slice (nestable : d.Nestable) (buffer : Text) (start : Nat) (e : Int)
    (h : d.closer? buffer start = some e) :
    ∃ stop : Nat, e = stop ∧
      let inner := start + d.opening.length
      let body := buffer.slice inner stop
      (∀ q : Nat, Text.indexOf? d.opening body = some q →
        ∃ close : Nat, d.closer? body q = some (close : Int) ∧
          d.closer? buffer (inner + q : Nat) = some ((inner + close : Nat) : Int) ∧
          inner + close + d.closing.length ≤ stop) ∧
      (∀ q close : Nat, d.Spans body q close →
        d.closer? body q = some (close : Int) ∧
        d.closer? buffer (inner + q : Nat) = some ((inner + close : Nat) : Int) ∧
        inner + close + d.closing.length ≤ stop) ∧
      ∀ q close q' close' : Nat, d.Spans body q close → d.Spans body q' close' →
        d.ApartOrNested q close q' close' := by
  rw [closer?_natCast] at h
  obtain ⟨stop, hstop, rfl⟩ := Option.map_eq_some_iff.mp h
  obtain ⟨front, body, tail, hbuffer, hfront, hsum, hslice, hends⟩ := exists_slice_of_closerAt? hstop
  refine ⟨stop, rfl, ?_⟩
  rw [← hfront]
  dsimp only
  rw [hslice]
  have hspans : ∀ q close : Nat, d.Spans body q close →
      d.closer? body q = some (close : Int) ∧
      d.closer? buffer (front.length + q : Nat) = some ((front.length + close : Nat) : Int) ∧
      front.length + close + d.closing.length ≤ stop := by
    intro q close hspan
    have hle := hspan.le
    have hwhole := hspan.closerAt?_append nestable hends
    have hbody : d.closerAt? body q = some close := by
      obtain ⟨offset, hoffset, hclose⟩ := Option.map_eq_some_iff.mp hwhole
      rw [List.drop_append_of_le_length (by omega)] at hoffset
      rw [closerAt?, closerIn?_of_append hoffset (by rw [List.length_drop]; omega),
        Option.map_some, hclose]
    refine ⟨?_, ?_, by omega⟩
    · rw [closer?_natCast, hbody]
      rfl
    · rw [closer?_natCast, hbuffer, closerAt?_append, hwhole]
      rfl
  refine ⟨?_, hspans, fun q close q' close' hspan hspan' => hspan.apartOrNested hspan'⟩
  intro q hq
  obtain ⟨p, hp, rfl, -⟩ := nestable.exists_firstPlaceholder? hends hq
  exact ⟨_, hspans _ _ (.first hp)⟩

/-- In `x${a${b}}` the body of the outer placeholder is `a${b}`, with another one at index one. -/
theorem closer?_slice_shell :
    let buffer : Text := "x".text ++ shell.written (.char 'a' :: shell.written "b".text)
    shell.Nestable ∧ shell.closer? buffer (1 : Nat) = some 8 ∧
    Text.indexOf? shell.opening (buffer.slice 3 8) = some 1 ∧
    ∃ close : Nat, shell.closer? (buffer.slice 3 8) (1 : Nat) = some (close : Int) ∧
      shell.closer? buffer (3 + 1 : Nat) = some ((3 + close : Nat) : Int) ∧
      3 + close + shell.closing.length ≤ 8 := by
  intro buffer
  have houter : shell.closer? buffer (1 : Nat) = some 8 := by
    have hat : shell.closerAt? buffer 1 = some 8 := by with_unfolding_all rfl
    rw [closer?_natCast, hat]
    rfl
  have hinner : Text.indexOf? shell.opening (buffer.slice 3 8) = some 1 := by rfl
  obtain ⟨stop, hstop, hfirst, -⟩ := closer?_slice nestable_shell buffer 1 8 houter
  obtain rfl : stop = 8 := by omega
  exact ⟨nestable_shell, houter, hinner, hfirst 1 hinner⟩

end Dialect

end Interpolation
