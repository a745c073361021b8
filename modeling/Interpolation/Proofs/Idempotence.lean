import Interpolation.Proofs.Concatenation

/-!
# Resolving what has been resolved

What comes out of a pass has copied text in it, the values of placeholders, placeholders that stay,
and perhaps an opening delimiter that is never closed.  A second pass over it meets the placeholders
that stay, and no others, if no value can have a part in an opening delimiter: none is empty, and
none has a character of the opening delimiter in it.

A placeholder that stays is met with another text behind it than in the first pass, and that text
could make a short opening whole.  But what it starts with, as far as characters of the opening
delimiter go, is what the text of the first pass starts with there (`Dialect.Continues`), so the
closing delimiter is the same one (`firstPlaceholder?_of_continues`).  A pass keeps this from its
end to its start, together with what the second pass comes to (`unchanged_of_walkFrom`).
-/

set_option autoImplicit false

namespace Interpolation

namespace Dialect

variable {d : Dialect} {after behind : Text}

/-- What stands at the start of the second text, as far as characters of the opening delimiter go,
stands at the start of the first one too. -/
def Continues (d : Dialect) (after behind : Text) : Prop :=
  ∀ part, part <+: behind → (∀ c ∈ part, c ∈ d.opening) → part <+: after

theorem Continues.refl (after : Text) : d.Continues after after :=
  fun _ hpart _ => hpart

/-- Nothing that a text starts with goes on over a character of another kind. -/
theorem continues_cons {c : CodePoint} (h : c ∉ d.opening) (after behind : Text) :
    d.Continues after (c :: behind) := by
  intro part hpart hchars
  rcases List.prefix_cons_iff.mp hpart with rfl | ⟨rest, rfl, -⟩
  · exact List.nil_prefix
  · exact absurd (hchars c List.mem_cons_self) h

/-- The same text may stand before both. -/
theorem Continues.append (h : d.Continues after behind) (front : Text) :
    d.Continues (front ++ after) (front ++ behind) := by
  intro part hpart hchars
  rcases List.prefix_or_prefix_of_prefix hpart (List.prefix_append front behind) with
    hshort | ⟨rest, rfl⟩
  · exact hshort.trans (List.prefix_append front after)
  · rw [List.prefix_append_right_inj] at hpart ⊢
    exact h rest hpart fun c hmem => hchars c (List.mem_append_right front hmem)

/-- With such a text behind it, a placeholder is read as it was. -/
theorem firstPlaceholder?_of_continues {text : Text} {p : Placeholder}
    (h : d.firstPlaceholder? text = some p) (hcontinues : d.Continues p.after behind) :
    d.firstPlaceholder? (p.before ++ d.written p.body ++ behind) =
      some { p with after := behind } := by
  obtain ⟨htext, hstart, hclose⟩ := firstPlaceholder?_eq_some_iff.mp h
  refine firstPlaceholder?_eq_some_iff.mpr ⟨rfl, ?_, ?_⟩
  · rw [htext] at hstart
    apply Text.indexOf?_append_of_add_le hstart
    simp only [written, List.length_append]
    omega
  · apply closerIn?_append_of_some hclose
    · exact (List.length_append).ge
    · intro j hj hopening
      have hle : j ≤ (p.body ++ d.closing).length := by
        rw [List.length_append]
        omega
      rw [List.drop_append_of_le_length hle] at hopening ⊢
      exact hcontinues.append _ d.shortOpening hopening fun c hmem =>
        d.shortOpening_isSuffix.subset hmem

/-- Where a character that is not of the opening delimiter stands behind the text before a
placeholder, no opening delimiter starts in that text. -/
theorem not_isPrefix_drop_of_firstPlaceholder? {text : Text} {p : Placeholder} {c : CodePoint}
    (h : d.firstPlaceholder? text = some p) (hc : c ∉ d.opening) (rest : Text) {j : Nat}
    (hj : j < p.before.length) : ¬ d.opening <+: (p.before ++ c :: rest).drop j := by
  obtain ⟨htext, hstart, -⟩ := firstPlaceholder?_eq_some_iff.mp h
  intro hopening
  apply (Text.indexOf?_eq_some_iff.mp hstart).2.2 j hj
  rw [htext, List.append_assoc]
  rw [List.drop_append_of_le_length (Nat.le_of_lt hj)] at hopening ⊢
  exact (continues_cons hc _ rest).append _ d.opening hopening fun c hmem => hmem

/-- No opening delimiter starts in a text without characters of it. -/
theorem not_isPrefix_drop_of_not_mem {front : Text} (h : ∀ c ∈ front, c ∉ d.opening) (rest : Text)
    {j : Nat} (hj : j < front.length) : ¬ d.opening <+: (front ++ rest).drop j := by
  intro hopening
  rw [List.drop_append_of_le_length (Nat.le_of_lt hj)] at hopening
  cases hdrop : front.drop j with
  | nil => exact absurd (List.drop_eq_nil_iff.mp hdrop) (Nat.not_le_of_lt hj)
  | cons c part =>
    have hmem : c ∈ front := by
      apply List.mem_of_mem_drop (i := j)
      rw [hdrop]
      exact List.mem_cons_self
    rw [hdrop, List.cons_append] at hopening
    rcases List.prefix_cons_iff.mp hopening with hnil | ⟨rest, heq, -⟩
    · exact d.opening_ne_nil hnil
    · apply h c hmem
      rw [heq]
      exact List.mem_cons_self

/-- A text that can have no part in an opening delimiter. -/
def Inert (d : Dialect) (text : Text) : Prop :=
  text ≠ [] ∧ ∀ c ∈ text, c ∉ d.opening

/-- With an inert text in its place, a placeholder is gone: none starts before the end of that
text. -/
theorem Inert.not_isPrefix_drop {text insertion : Text} {p : Placeholder}
    (inert : d.Inert insertion) (h : d.firstPlaceholder? text = some p) (rest : Text) :
    ∀ j < (p.before ++ insertion).length,
      ¬ d.opening <+: (p.before ++ insertion ++ rest).drop j := by
  obtain ⟨hne, hchars⟩ := inert
  intro j hj
  rw [List.append_assoc]
  rcases Nat.lt_or_ge j p.before.length with hlt | hge
  · cases insertion with
    | nil => exact absurd rfl hne
    | cons c insertion =>
      exact not_isPrefix_drop_of_firstPlaceholder? h (hchars c List.mem_cons_self) _ hlt
  · obtain ⟨k, rfl⟩ := Nat.exists_eq_add_of_le hge
    rw [List.length_append] at hj
    rw [List.drop_length_add_append]
    exact not_isPrefix_drop_of_not_mem hchars rest (by omega)

end Dialect

namespace Expansion

variable {dialect : Dialect} {replacement replacement' : Text → Nat → Transcript (Option Text)}

/-- The texts that a pass over a value puts in the places of placeholders. -/
def Inserts (dialect : Dialect) (gives : Text → Nat → Option Text → Prop) (value insertion : Text) :
    Prop :=
  ∃ emitted unread p, Reached dialect gives value emitted unread ∧
    dialect.firstPlaceholder? unread = some p ∧
    gives p.body (emitted ++ p.before).length (some insertion)

/-- What a pass makes of the unread text goes on like that text, and a second pass leaves it as it
is. -/
theorem unchanged_of_walkFrom {value emitted unread result : Text}
    (alike : FillsAlike replacement replacement')
    (hinert : ∀ insertion, Inserts dialect (Gives replacement) value insertion →
      dialect.Inert insertion)
    (hreached : Reached dialect (Gives replacement) value emitted unread)
    (h : (walkFrom dialect replacement emitted unread).outcome = .ok result) :
    ∃ behind, result = emitted ++ behind ∧ dialect.Continues unread behind ∧
      ∀ front, (walkFrom dialect replacement' front behind).outcome = .ok (front ++ behind) := by
  induction unread using dialect.placeholder_induction generalizing emitted with
  | rest unread hp =>
    rw [walkFrom_of_none hp] at h
    cases h
    refine ⟨unread, rfl, .refl unread, ?_⟩
    intro front
    rw [walkFrom_of_none hp]
    rfl
  | placeholder unread p hp ih =>
    have hunread := (Dialect.firstPlaceholder?_eq_some_iff.mp hp).1
    rw [walkFrom_of_some hp] at h
    obtain ⟨insertion, hgives, h⟩ := Transcript.outcome_bind_eq_ok_iff.mp h
    obtain ⟨behind, hresult, hcontinues, hagain⟩ := ih (hreached.step hp hgives) h
    cases insertion with
    | none =>
      -- the placeholder stays, and is met again
      refine ⟨p.before ++ dialect.written p.body ++ behind, ?_, ?_, ?_⟩
      · rw [hresult]
        simp only [Option.getD_none, List.append_assoc]
      · have hsame := hcontinues.append (p.before ++ dialect.written p.body)
        rwa [← hunread] at hsame
      · intro front
        have hstays : (replacement' p.body (front ++ p.before).length).outcome = .ok none := by
          rw [alike _ _ _ _ hgives]
          exact hgives
        rw [walkFrom_of_some (Dialect.firstPlaceholder?_of_continues hp hcontinues),
          Transcript.bind_of_ok hstays]
        simp only [Option.getD_none, hagain, List.append_assoc]
    | some insertion =>
      -- the second pass goes on behind the value
      have inert := hinert insertion ⟨emitted, unread, p, hreached, hp, hgives⟩
      refine ⟨p.before ++ insertion ++ behind, ?_, ?_, ?_⟩
      · rw [hresult]
        simp only [Option.getD_some, List.append_assoc]
      · rw [hunread, List.append_assoc, List.append_assoc]
        apply Dialect.Continues.append
        cases insertion with
        | nil => exact absurd rfl inert.1
        | cons c insertion =>
          exact Dialect.continues_cons (inert.2 c List.mem_cons_self) _ _
      · intro front
        rw [walkFrom_of_not_isPrefix front (inert.not_isPrefix_drop hp behind), hagain]
        simp only [List.append_assoc]

/-- What a pass puts in the place of a placeholder is given for one of the bodies of the value. -/
theorem Inserts.exists_body {gives : Text → Nat → Option Text → Prop} {value insertion : Text}
    (h : Inserts dialect gives value insertion) :
    ∃ body ∈ dialect.bodies value, ∃ start, gives body start (some insertion) := by
  obtain ⟨emitted, unread, p, hreached, hp, hgives⟩ := h
  have hbodies : ∀ body ∈ dialect.bodies unread, body ∈ dialect.bodies value := by
    clear hp hgives
    induction hreached with
    | start => exact fun _ hmem => hmem
    | step _ hp _ ih =>
      intro body hmem
      apply ih
      rw [Dialect.bodies_of_some hp]
      exact List.mem_cons_of_mem _ hmem
  refine ⟨p.body, hbodies _ ?_, _, hgives⟩
  rw [Dialect.bodies_of_some hp]
  exact List.mem_cons_self

end Expansion

namespace Expander

open Expansion

/-- What the engine gives for a placeholder of a text with a body at an index, where the answers are
a function of the name. -/
def FillsIn (e : Expander) (answer : Text → Reply) (text body : Text) (start : Nat)
    (insertion : Option Text) : Prop :=
  ((within body (fillIn e.dialect (ask (Resolver.recording answer)) recordSubstitution
    (expand e.dialect (Resolver.recording answer) e.given e.limit) text body start)).run
      ⟨⟨[], []⟩, []⟩).1 = .ok insertion

/-- It is what the single pass gives. -/
theorem fillsIn_iff {e : Expander} {answer : Text → Reply} {text body : Text} {start : Nat}
    {insertion : Option Text} :
    e.FillsIn answer text body start insertion ↔
      Gives (fillInGuarded e.dialect answer e.given e.limit [] text) body start insertion := by
  have hfollows : Follows [] (within body (fillIn e.dialect (ask (Resolver.recording answer))
      recordSubstitution (expand e.dialect (Resolver.recording answer) e.given e.limit) text body
      start)) (fillInGuarded e.dialect answer e.given e.limit [] text body start) := by
    apply follows_within
    exact (following [body]).rel_fillIn (follows_ask answer) follows_recordSubstitution
      (follows_expand e.dialect answer e.given e.limit [body]) text body start
  obtain ⟨_, hrun, -⟩ := hfollows ⟨[], []⟩
  rw [FillsIn, hrun, Gives]

/-- Resolving is idempotent where values are inert.  If every text that takes the place of a
placeholder of a text is not empty and has no character of the opening delimiter, then what the text
comes to, comes to itself: whatever placeholders stay in it or are left open, and wherever closing
delimiters stand in the values. -/
theorem replace_idempotent (e : Expander) (answer : Text → Reply) {text result : Text}
    (ledger ledger' : Ledger (List Text))
    (hinert : ∀ insertion, Inserts e.dialect (e.FillsIn answer text) text insertion →
      insertion ≠ [] ∧ ∀ c ∈ insertion, c ∉ e.dialect.opening)
    (h : ((e.replace (.text text) (.usable (Resolver.recording answer))).run ledger).1 =
      .ok result) :
    ((e.replace (.text result) (.usable (Resolver.recording answer))).run ledger').1 =
      .ok result := by
  rw [replace_run] at h ⊢
  have hfirst : (walkFrom e.dialect (fillInGuarded e.dialect answer e.given e.limit [] text) []
      text).outcome = .ok result := by
    rw [← guarded_succ]
    exact h
  have hgives : ∀ insertion,
      Inserts e.dialect (Gives (fillInGuarded e.dialect answer e.given e.limit [] text)) text
        insertion → e.dialect.Inert insertion := by
    rintro insertion ⟨emitted, unread, p, hreached, hp, hgives⟩
    have hengine := hreached.mono fun _ _ _ hgives => fillsIn_iff.mpr hgives
    exact hinert insertion ⟨emitted, unread, p, hengine, hp, fillsIn_iff.mpr hgives⟩
  obtain ⟨_, rfl, -, hagain⟩ := unchanged_of_walkFrom
    (fillsAlike_fillInGuarded answer e.given e.limit [] text result) hgives .start hfirst
  show (guarded e.dialect answer e.given (e.limit + 1) [] result).outcome = .ok result
  rw [guarded_succ]
  exact hagain []

/-- A value that ends in a closing delimiter, before a placeholder that stays. -/
theorem replace_idempotent_stays :
    let e : Expander :=
      ⟨{ Dialect.shell with separator := none, separator_ne_nil := by decide }, 1, by decide,
        by decide, .int 1⟩
    let answer (name : Text) : Reply := if name = "a".text then .text "1\x7d".text else .absent
    let text := e.dialect.written "a".text ++ e.dialect.written "b".text
    let result := "1\x7d".text ++ e.dialect.written "b".text
    let run (text : Text) :=
      ((e.replace (.text text) (.usable (Resolver.recording answer))).run ⟨[], []⟩).1
    (∀ insertion, Inserts e.dialect (e.FillsIn answer text) text insertion →
      insertion ≠ [] ∧ ∀ c ∈ insertion, c ∉ e.dialect.opening) ∧
    run text = .ok result ∧ run result = .ok result := by
  intro e answer text result run
  have htext : e.dialect.firstPlaceholder? text = some ⟨[], "a".text, e.dialect.written "b".text⟩ :=
    by with_unfolding_all rfl
  have hrest : e.dialect.firstPlaceholder? (e.dialect.written "b".text) = some ⟨[], "b".text, []⟩ :=
    by with_unfolding_all rfl
  have ha : e.dialect.firstPlaceholder? "a".text = none := by rfl
  have hb : e.dialect.firstPlaceholder? "b".text = none := by rfl
  have hvalue : e.dialect.firstPlaceholder? "1\x7d".text = none := by rfl
  have hfirst : ∀ start, Gives (fillInGuarded e.dialect answer e.given (0 + 1) [] text) "a".text start
      (some "1\x7d".text) := by
    intro start
    have hanswer : answer "a".text = .text "1\x7d".text := rfl
    rw [Gives, outcome_fillInGuarded_of_text List.not_mem_nil ha hanswer,
      outcome_guarded_of_none hvalue]
    rfl
  have hsecond : ∀ start, Gives (fillInGuarded e.dialect answer e.given (0 + 1) [] text) "b".text start
      none := by
    intro start
    rw [Gives, fillInGuarded, if_neg List.not_mem_nil, fillIn,
      Transcript.bind_of_ok (outcome_guarded_of_none hb), lookUp_of_separator_none rfl]
    rfl
  have hinert : ∀ insertion, Inserts e.dialect (e.FillsIn answer text) text insertion →
      insertion ≠ [] ∧ ∀ c ∈ insertion, c ∉ e.dialect.opening := by
    intro insertion hinserts
    obtain ⟨body, hmem, start, hfills⟩ := hinserts.exists_body
    have hgives := fillsIn_iff.mp hfills
    rw [Dialect.bodies_of_some htext, Dialect.bodies_of_some hrest,
      Dialect.bodies_of_none Dialect.firstPlaceholder?_nil] at hmem
    rcases List.mem_cons.mp hmem with rfl | hmem
    · have heq := (hfirst start).symm.trans hgives
      cases heq
      refine ⟨List.cons_ne_nil _ _, ?_⟩
      show ∀ c ∈ "1\x7d".text, c ∉ "$\x7b".text
      decide
    · obtain rfl := List.mem_singleton.mp hmem
      have heq := (hsecond start).symm.trans hgives
      cases heq
  have hrun : run text = .ok result := by
    dsimp only [run]
    rw [replace_run]
    show (guarded e.dialect answer e.given (0 + 2) [] text).outcome = .ok result
    rw [guarded_succ, walkFrom_of_some htext, Transcript.bind_of_ok (hfirst _),
      walkFrom_of_some hrest, Transcript.bind_of_ok (hsecond _),
      walkFrom_of_none Dialect.firstPlaceholder?_nil]
    rfl
  exact ⟨hinert, hrun, replace_idempotent e answer ⟨[], []⟩ ⟨[], []⟩ hinert hrun⟩

end Expander

end Interpolation
