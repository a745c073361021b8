import Interpolation.Proofs.Splicing

/-!
# Names without an answer

Where a resolver has no answer to any name, no default values are known and every placeholder may
stay, there is nothing to substitute.  The engine then still expands the bodies of placeholders,
one inside another, to find the names that it asks for.

A body is shorter than the text that it stands in, so no body stands inside its own expansion, and
how deep the expansion goes can be read off the text: `Dialect.levels` counts it.  A transcript that
is `Idle` on a text comes to what is given, or is too deep, asks only for parts of the text and logs
nothing.  `idle_guarded` says that the expansion of a text is idle on it and gives it back.
-/

set_option autoImplicit false

namespace Interpolation

namespace Dialect

variable {d : Dialect} {text : Text} {p : Placeholder}

/-- How many levels of placeholders stand in each other in a text. -/
def levels (d : Dialect) (text : Text) : Nat :=
  match _next : d.firstPlaceholder? text with
  | none => 0
  | some p => max (levels d p.body + 1) (levels d p.after)
termination_by text.length
decreasing_by
  · exact length_body_lt _next
  · exact length_after_lt _next

theorem levels_of_none (h : d.firstPlaceholder? text = none) : d.levels text = 0 := by
  rw [levels]
  split
  · rfl
  · rename_i p hp
    rw [h] at hp
    cases hp

theorem levels_of_some (h : d.firstPlaceholder? text = some p) :
    d.levels text = max (d.levels p.body + 1) (d.levels p.after) := by
  rw [levels]
  split
  · rename_i hp
    rw [h] at hp
    cases hp
  · rename_i q hq
    rw [h] at hq
    cases hq
    rfl

end Dialect

/-! ## Transcripts that change nothing -/

namespace Transcript

variable {α β : Type} {text : Text} {deep deep' : Prop} {limit : Value} {a : α} {b : β}
variable {x : Transcript α} {f : α → Transcript β}

/-- A transcript that gives `a`, or, exactly if it is `deep`, fails for want of levels; it asks for
parts of a text only, and logs nothing. -/
structure Idle (text : Text) (deep : Prop) (limit : Value) (a : α) (x : Transcript α) : Prop where
  gives : ¬ deep → x.outcome = .ok a
  fails : deep → ∃ value, x.outcome = .error (.tooDeep limit (.text value))
  asked : ∀ name ∈ x.asked, name <:+: text
  log : x.log = []

theorem idle_pure (a : α) : Idle text False limit a (pure a) where
  gives := fun _ => rfl
  fails := False.elim
  asked := by
    intro name hmem
    cases hmem
  log := rfl

/-- A sequence is idle if its parts are; it is deep if one of them is. -/
theorem Idle.bind (hx : Idle text deep limit a x) (hf : Idle text deep' limit b (f a)) :
    Idle text (deep ∨ deep') limit b (x >>= f) := by
  by_cases hdeep : deep
  · obtain ⟨value, hfail⟩ := hx.fails hdeep
    rw [bind_of_error hfail]
    refine ⟨?_, ?_, hx.asked, hx.log⟩
    · intro hnot
      exact absurd (.inl hdeep) hnot
    · intro _
      exact ⟨value, rfl⟩
  · rw [bind_of_ok (hx.gives hdeep)]
    refine ⟨?_, ?_, ?_, ?_⟩
    · intro hnot
      exact hf.gives fun h => hnot (.inr h)
    · intro h
      exact hf.fails (h.resolve_left hdeep)
    · intro name hmem
      rcases List.mem_append.mp hmem with hmem | hmem
      · exact hx.asked name hmem
      · exact hf.asked name hmem
    · simp [hx.log, hf.log]

/-- What is idle on a part of a text is idle on the text. -/
theorem Idle.mono {part : Text} (h : Idle part deep limit a x) (hpart : part <:+: text)
    (hiff : deep ↔ deep') : Idle text deep' limit a x where
  gives := fun hnot => h.gives fun hdeep => hnot (hiff.mp hdeep)
  fails := fun hdeep => h.fails (hiff.mpr hdeep)
  asked := fun name hmem => (h.asked name hmem).trans hpart
  log := h.log

end Transcript

namespace Expansion

open Transcript

variable {dialect : Dialect} {limit : Value} {room : Nat}

/-- The answers of a resolver that has none. -/
def unanswered (_name : Text) : Reply :=
  .absent

theorem idle_ask (name : Text) : Idle name False limit none (Transcript.ask unanswered name) where
  gives := fun _ => rfl
  fails := False.elim
  asked := by
    intro other hmem
    obtain rfl := List.mem_singleton.mp hmem
    exact List.infix_rfl
  log := rfl

/-- A placeholder without a value stays, and its body is all that is expanded. -/
theorem idle_fillIn (lenient : dialect.lenient = true) (hseparator : dialect.separator = none)
    {expandInner : Text → Transcript Text} {body : Text} {deep : Prop}
    (hinner : Idle body deep limit body (expandInner body)) (value : Text) (start : Nat) :
    Idle body deep limit none (fillIn dialect (Transcript.ask unanswered)
      Transcript.recordSubstitution expandInner value body start) := by
  unfold fillIn
  rw [← or_false (p := deep)]
  apply hinner.bind
  rw [lookUp_of_separator_none hseparator, ← or_false (p := False)]
  apply (idle_ask body).bind
  dsimp only
  rw [if_pos lenient]
  exact idle_pure none

/-- A pass over a text is idle if what it does at each of its placeholders is. -/
theorem idle_walkFrom {replacement : Text → Nat → Transcript (Option Text)}
    (emitted : Text) {unread : Text}
    (h : ∀ body ∈ dialect.bodies unread, ∀ start,
      Idle body (room ≤ dialect.levels body) limit none (replacement body start)) :
    Idle unread (room + 1 ≤ dialect.levels unread) limit (emitted ++ unread)
      (walkFrom dialect replacement emitted unread) := by
  induction unread using dialect.placeholder_induction generalizing emitted with
  | rest unread hp =>
    rw [walkFrom_of_none hp, Dialect.levels_of_none hp]
    exact (idle_pure _).mono List.infix_rfl (by simp)
  | placeholder unread p hp ih =>
    have htext := (Dialect.firstPlaceholder?_eq_some_iff.mp hp).1
    have hbody : p.body <:+: unread := by
      apply Dialect.isInfix_of_mem_bodies (d := dialect)
      rw [Dialect.bodies_of_some hp]
      exact List.mem_cons_self
    have hafter : p.after <:+: unread := by
      rw [htext]
      exact (List.suffix_append _ _).isInfix
    rw [Dialect.bodies_of_some hp, List.forall_mem_cons] at h
    have hfirst := (h.1 (emitted ++ p.before).length).mono hbody Iff.rfl
    have hrest := (ih (emitted ++ p.before ++ dialect.written p.body) h.2).mono hafter Iff.rfl
    -- the placeholder stays, so the text is emitted as it is written
    have hemitted :
        emitted ++ p.before ++ dialect.written p.body ++ p.after = emitted ++ unread := by
      rw [htext]
      simp only [List.append_assoc]
    rw [hemitted] at hrest
    rw [walkFrom_of_some hp, Dialect.levels_of_some hp]
    refine (hfirst.bind hrest).mono List.infix_rfl ?_
    omega

/-- Where no name has an answer, the expansion of a text gives the text back, or there are fewer
levels left than stand in it. -/
theorem idle_guarded (lenient : dialect.lenient = true) (hseparator : dialect.separator = none)
    (limit : Value) (room : Nat) {active : List Text} {value : Text}
    (hactive : ∀ other ∈ active, value.length ≤ other.length) :
    Idle value (room ≤ dialect.levels value) limit value
      (guarded dialect unanswered limit room active value) := by
  induction room generalizing active value with
  | zero =>
    refine ⟨?_, ?_, ?_, rfl⟩
    · intro hnot
      exact absurd (Nat.zero_le _) hnot
    · intro _
      exact ⟨value, rfl⟩
    · intro name hmem
      cases hmem
  | succ room ih =>
    rw [guarded_succ]
    apply idle_walkFrom []
    intro body hbody start
    have hshort := Dialect.length_lt_of_mem_bodies hbody
    -- all that is being expanded is at least as long as the text, and so is not the body
    have hnew : body ∉ active := by
      intro hmem
      have hlong := hactive body hmem
      omega
    rw [fillInGuarded, if_neg hnew]
    apply idle_fillIn lenient hseparator
    apply ih
    intro other hmem
    rcases List.mem_cons.mp hmem with rfl | hmem
    · exact Nat.le_refl _
    · have hlong := hactive other hmem
      omega

end Expansion

namespace Expander

open Expansion

/-- With nothing to substitute, resolving is the identity.  Where no name has an answer, no default
values are known and every placeholder may stay, a text comes to itself, if no more levels of
placeholders stand in it than the limit allows, and is else too deep; so it never fails for a body
that stands inside its own expansion.  Nothing is logged, and all that is asked for are parts of the
text. -/
theorem replace_unanswered (e : Expander) (lenient : e.dialect.lenient = true)
    (hseparator : e.dialect.separator = none) (text : Text) (ledger : Ledger (List Text)) :
    let run := (e.replace (.text text)
      (.usable (Resolver.recording fun _ => .absent))).run ledger
    (e.dialect.levels text ≤ e.limit → run.1 = .ok text) ∧
    (e.limit < e.dialect.levels text →
      ∃ value, run.1 = .error (.tooDeep e.given (.text value))) ∧
    run.2.log = ledger.log ∧
    ∃ asked, run.2.source = ledger.source ++ asked ∧ ∀ name ∈ asked, name <:+: text := by
  have hidle : Transcript.Idle text (e.limit + 1 ≤ e.dialect.levels text) e.given text
      (e.transcript unanswered text) :=
    idle_guarded lenient hseparator e.given (e.limit + 1) (by simp)
  intro run
  have hrun : run = _ := e.replace_run unanswered text ledger
  rw [hrun]
  refine ⟨?_, ?_, ?_, _, rfl, hidle.asked⟩
  · intro hle
    exact hidle.gives (Nat.not_lt.mpr hle)
  · intro hlt
    exact hidle.fails hlt
  · rw [hidle.log, List.append_nil]

/-- A placeholder in a placeholder comes to itself with a limit of two, and is too deep with a limit
of one. -/
theorem replace_unanswered_nested :
    let d : Dialect := { Dialect.shell with separator := none, separator_ne_nil := by decide }
    let one : Expander := ⟨d, 1, by decide, by decide, .int 1⟩
    let two : Expander := ⟨d, 2, by decide, by decide, .int 2⟩
    let offer := Offer.usable (Resolver.recording fun _ => .absent)
    let text := d.written (.char 'a' :: d.written "b".text)
    d.lenient = true ∧ d.separator = none ∧ d.levels text = 2 ∧
    ((two.replace (.text text) offer).run ⟨[], []⟩).1 = .ok text ∧
    ∃ value, ((one.replace (.text text) offer).run ⟨[], []⟩).1 =
      .error (.tooDeep (.int 1) (.text value)) := by
  intro d one two offer text
  have hrest : d.firstPlaceholder? [] = none := by rfl
  have hname : d.firstPlaceholder? "b".text = none := by rfl
  have hbody : d.firstPlaceholder? (.char 'a' :: d.written "b".text) =
      some ⟨"a".text, "b".text, []⟩ := by with_unfolding_all rfl
  have htext : d.firstPlaceholder? text = some ⟨[], .char 'a' :: d.written "b".text, []⟩ :=
    by with_unfolding_all rfl
  have hlevels : d.levels text = 2 := by
    rw [Dialect.levels_of_some htext, Dialect.levels_of_some hbody, Dialect.levels_of_none hname,
      Dialect.levels_of_none hrest]
    rfl
  refine ⟨rfl, rfl, hlevels, ?_, ?_⟩
  · exact (replace_unanswered two rfl rfl text ⟨[], []⟩).1 (Nat.le_of_eq hlevels)
  · apply (replace_unanswered one rfl rfl text ⟨[], []⟩).2.1
    rw [hlevels]
    exact Nat.lt_add_one 1

end Expander

end Interpolation
