import Interpolation.Proofs.Outcome

/-!
# Splicing in place is a single pass

The engine replaces placeholders in the buffer that it reads, and keeps one set of the bodies that
are being expanded, to which it adds a body and from which it takes it again.  `follows_expand` says
that with a resolver of fixed answers a run of it is the run of `singlePass`, which reads every text
once and hands the bodies on: the same outcome, the same names asked for, and the same log.

`expand_recording` adds what this means for a run: a text that comes out is the value with
placeholders replaced and everything else copied, what is still to be read is always an end of the
value and gets shorter, and the position in the failure of a placeholder without a value is the
length of what had been emitted before it.
-/

set_option autoImplicit false

namespace Interpolation

namespace Expansion

/-! ## The transcript of an expansion -/

/-- The transcript of an expansion in single passes, inside the expansion of some bodies. -/
abbrev guarded (dialect : Dialect) (answer : Text → Reply) (limit : Value) (room : Nat)
    (active : List Text) (value : Text) : Transcript Text :=
  singlePass dialect (Transcript.ask answer) Transcript.recordSubstitution limit room active value

/-- The transcript for a placeholder, inside the expansion of some bodies. -/
abbrev fillInGuarded (dialect : Dialect) (answer : Text → Reply) (limit : Value) (room : Nat)
    (active : List Text) (value body : Text) (start : Nat) : Transcript (Option Text) :=
  if body ∈ active then throw (.circular (.text body))
  else fillIn dialect (Transcript.ask answer) Transcript.recordSubstitution
    (guarded dialect answer limit room (body :: active)) value body start

variable {dialect : Dialect} {answer : Text → Reply} {limit : Value} {room : Nat}
variable {active : List Text} {value text : Text}

/-- An expansion in single passes is one pass, with inner expansions of the same kind. -/
theorem guarded_succ :
    guarded dialect answer limit (room + 1) active value =
      walkFrom dialect (fillInGuarded dialect answer limit room active value) [] value := by
  rw [guarded, singlePass]

/-- Two expansions are in lockstep, also in two dialects that write placeholders alike, if what
fills in a placeholder is wherever the inner expansions are. -/
theorem Lockstep.rel_guarded (L : Lockstep Transcript Transcript) {dialect' : Dialect}
    {answer' : Text → Reply} (same : dialect.SameDelimiters dialect')
    (hfill : ∀ {expandInner expandInner' : Text → Transcript Text},
      (∀ text, L.Rel (expandInner text) (expandInner' text)) → ∀ value body start,
        L.Rel (fillIn dialect (Transcript.ask answer) Transcript.recordSubstitution expandInner
            value body start)
          (fillIn dialect' (Transcript.ask answer') Transcript.recordSubstitution expandInner'
            value body start))
    (limit : Value) (room : Nat) (active : List Text) (value : Text) :
    L.Rel (guarded dialect answer limit room active value)
      (guarded dialect' answer' limit room active value) := by
  induction room generalizing active value with
  | zero => exact L.rel_throw _
  | succ room ih =>
    rw [guarded_succ, guarded_succ, walkFrom_of_sameDelimiters same]
    apply L.rel_walkFrom
    intro body start
    unfold fillInGuarded
    by_cases hmem : body ∈ active
    · rw [if_pos hmem, if_pos hmem]
      exact L.rel_throw _
    · rw [if_neg hmem, if_neg hmem]
      exact hfill (ih (body :: active)) value body start

/-- A text without a placeholder that is read comes to itself. -/
theorem outcome_guarded_of_none (h : dialect.firstPlaceholder? value = none) :
    (guarded dialect answer limit (room + 1) active value).outcome = .ok value :=
  congrArg Transcript.outcome (singlePass_of_none h)

/-- A placeholder whose name is written out comes to what the value of the name does, with the name
marked as being expanded. -/
theorem outcome_fillInGuarded_of_text {name found : Text} {start : Nat} (hmem : name ∉ active)
    (hname : dialect.firstPlaceholder? name = none) (h : answer name = .text found) :
    (fillInGuarded dialect answer limit (room + 1) active value name start).outcome =
      (guarded dialect answer limit (room + 1) (name :: active) found).outcome.map some := by
  rw [fillInGuarded, if_neg hmem]
  exact outcome_fillIn_of_value (outcome_guarded_of_none hname) (outcome_lookUp_of_text h)

/-- A reference comes to what the value does one level further down, with the name marked as being
expanded. -/
theorem outcome_guarded_written {key raw : Text} (hkey : dialect.firstPlaceholder? key = none)
    (hwritten : dialect.firstPlaceholder? (dialect.written key) = some ⟨[], key, []⟩)
    (hraw : answer key = .text raw) :
    (guarded dialect answer limit (room + 2) [] (dialect.written key)).outcome =
      (guarded dialect answer limit (room + 1) [key] raw).outcome := by
  have hfill :
      (fillInGuarded dialect answer limit (room + 1) [] (dialect.written key) key 0).outcome =
      (guarded dialect answer limit (room + 1) [key] raw).outcome.map some :=
    outcome_fillInGuarded_of_text List.not_mem_nil hkey hraw
  have hpass : guarded dialect answer limit (room + 2) [] (dialect.written key) =
      fillInGuarded dialect answer limit (room + 1) [] (dialect.written key) key 0 >>= fun insertion =>
        walkFrom dialect (fillInGuarded dialect answer limit (room + 1) [] (dialect.written key))
          (insertion.getD (dialect.written key)) [] := by
    rw [guarded_succ, walkFrom_of_some hwritten]
    rfl
  rw [hpass]
  cases hvalue : (guarded dialect answer limit (room + 1) [key] raw).outcome with
  | error failure =>
    rw [hvalue] at hfill
    rw [Transcript.bind_of_error hfill]
  | ok insertion =>
    rw [hvalue] at hfill
    rw [Transcript.bind_of_ok hfill, walkFrom_of_none Dialect.firstPlaceholder?_nil]
    show Except.ok (insertion ++ []) = _
    rw [List.append_nil]

/-- What a placeholder fails with, where the bodies are handed on: it is inside its own expansion,
or it fails where the body, the look-up or the value does, or it has no value and may not stay. -/
theorem cases_of_fillInGuarded_error {body : Text} {start : Nat} {failure : Failure}
    (h : (fillInGuarded dialect answer limit room active value body start).outcome =
      .error failure) :
    (body ∈ active ∧ failure = .circular (.text body)) ∨
    (guarded dialect answer limit room (body :: active) body).outcome = .error failure ∨
    ∃ name, (guarded dialect answer limit room (body :: active) body).outcome = .ok name ∧
      ((lookUp dialect (Transcript.ask answer) name).outcome = .error failure ∨
      (∃ found, (lookUp dialect (Transcript.ask answer) name).outcome = .ok (some found) ∧
        (guarded dialect answer limit room (body :: active) found).outcome = .error failure) ∨
      ((lookUp dialect (Transcript.ask answer) name).outcome = .ok none ∧
        dialect.lenient = false ∧
        failure = .unresolvable (.text name) (.text value) (.int start))) := by
  by_cases hmem : body ∈ active
  · rw [fillInGuarded, if_pos hmem] at h
    cases h
    exact .inl ⟨hmem, rfl⟩
  · rw [fillInGuarded, if_neg hmem] at h
    exact .inr (cases_of_fillIn_error h)

/-- A run of the engine follows the single passes, where the bodies are handed on. -/
theorem follows_expand (dialect : Dialect) (answer : Text → Reply) (limit : Value) (room : Nat)
    (active : List Text) (value : Text) :
    Follows active (expand dialect (Resolver.recording answer) limit room value)
      (guarded dialect answer limit room active value) := by
  induction room generalizing active value with
  | zero => exact (following active).rel_throw _
  | succ room ih =>
    rw [expand, spliceFrom_zero, guarded_succ]
    refine (following active).rel_walkFrom (fun body start => ?_) [] value
    refine follows_within ?_
    exact (following (body :: active)).rel_fillIn (follows_ask answer) follows_recordSubstitution
      (ih (body :: active)) value body start

/-! ## What has been read and what has been emitted -/

/-- What is still to be read is an end of the value. -/
theorem Reached.isSuffix {gives : Text → Nat → Option Text → Prop} {value emitted unread : Text}
    (h : Reached dialect gives value emitted unread) : unread <:+ value := by
  induction h with
  | start => exact List.suffix_rfl
  | @step emitted unread p insertion _ hp _ ih =>
    refine List.IsSuffix.trans ?_ ih
    rw [(Dialect.firstPlaceholder?_eq_some_iff.mp hp).1]
    exact List.suffix_append _ _

/-- A text that comes out of single passes is what has been emitted, and the rest. -/
theorem reached_of_guarded_ok
    (h : (guarded dialect answer limit room active value).outcome = .ok text) :
    ∃ emitted unread, Reached dialect (fun _ _ _ => True) value emitted unread ∧
      dialect.firstPlaceholder? unread = none ∧ text = emitted ++ unread := by
  cases room with
  | zero => cases h
  | succ room =>
    rw [guarded_succ] at h
    obtain ⟨emitted, unread, hreached, hp, htext⟩ := reached_of_walkFrom_ok .start h
    exact ⟨emitted, unread, hreached.mono fun _ _ _ _ => trivial, hp, htext⟩

/-- The failure of a placeholder without a value comes from a pass that has got to the placeholder:
it names what the body comes to, quotes the text of the pass, and its position is the length of what
the pass has emitted up to the placeholder. -/
theorem unresolved_of_guarded {name quoted position : Value}
    (h : (guarded dialect answer limit room active value).outcome =
      .error (.unresolvable name quoted position)) :
    ∃ room active value emitted unread p called,
      name = .text called ∧ quoted = .text value ∧ position = .int (emitted ++ p.before).length ∧
      Reached dialect (Gives (fillInGuarded dialect answer limit room active value)) value emitted
        unread ∧
      dialect.firstPlaceholder? unread = some p ∧
      (guarded dialect answer limit room (p.body :: active) p.body).outcome = .ok called ∧
      (lookUp dialect (Transcript.ask answer) called).outcome = .ok none ∧
      dialect.lenient = false := by
  induction room generalizing active value with
  | zero => cases h
  | succ room ih =>
    rw [guarded_succ] at h
    obtain ⟨emitted, unread, p, hreached, hp, hfail⟩ := reached_of_walkFrom_error .start h
    rcases cases_of_fillInGuarded_error hfail with
      ⟨-, hcircular⟩ | hbody | ⟨called, hcalled, hlookUp | ⟨_, -, hvalue⟩ | ⟨hnone, strict, hhere⟩⟩
    · cases hcircular
    · exact ih hbody
    · exact (isOfSource_of_lookUp hlookUp).elim
    · exact ih hvalue
    · -- the failure is of this pass, and not of an expansion inside it
      cases hhere
      exact ⟨room, active, value, emitted, unread, p, called, rfl, rfl, rfl, hreached, hp, hcalled,
        hnone, strict⟩

/-- The failure of a placeholder without a value has the length of what had been emitted of the text
that it quotes, up to the placeholder. -/
theorem reached_of_guarded_unresolvable {name position : Value}
    (h : (guarded dialect answer limit room active value).outcome =
      .error (.unresolvable name (.text text) position)) :
    ∃ emitted unread p, Reached dialect (fun _ _ _ => True) text emitted unread ∧
      dialect.firstPlaceholder? unread = some p ∧
      position = .int (emitted ++ p.before).length := by
  obtain ⟨room, active, quoted, emitted, unread, p, -, -, hquoted, rfl, hreached, hp, -⟩ :=
    unresolved_of_guarded h
  cases hquoted
  exact ⟨emitted, unread, p, hreached.mono fun _ _ _ _ => trivial, hp, rfl⟩

/-- Splicing in place refines the single pass: the run of the engine has the outcome, the questions
and the log of the pass; a text that comes out is the value with nothing but placeholders replaced,
and the bodies being expanded are those of the start; the position of a placeholder without a value
is the length of what had been emitted before it; and what is unread is always a shorter and shorter
end of the value, in which nothing that has been emitted is read again. -/
theorem expand_recording (dialect : Dialect) (answer : Text → Reply) (limit : Value) (room : Nat)
    (active : List Text) (value : Text) (ledger : Ledger (List Text)) :
    let run := (expand dialect (Resolver.recording answer) limit room value).run ⟨ledger, active⟩
    let pass := singlePass dialect (Transcript.ask answer) Transcript.recordSubstitution limit room
      active value
    run.1 = pass.outcome ∧
    run.2.source = ledger.source ++ pass.asked ∧
    run.2.log = ledger.log ++ pass.log ∧
    (∀ text, run.1 = .ok text → run.2.active = active ∧
      ∃ emitted unread, Reached dialect (fun _ _ _ => True) value emitted unread ∧
        dialect.firstPlaceholder? unread = none ∧ text = emitted ++ unread) ∧
    (∀ name text position, run.1 = .error (.unresolvable name (.text text) position) →
      ∃ emitted unread p, Reached dialect (fun _ _ _ => True) text emitted unread ∧
        dialect.firstPlaceholder? unread = some p ∧
        position = .int (emitted ++ p.before).length) ∧
    ∀ emitted unread p, Reached dialect (fun _ _ _ => True) value emitted unread →
      dialect.firstPlaceholder? unread = some p →
      p.after <:+ value ∧ p.after.length < unread.length := by
  intro run pass
  obtain ⟨left, hrun, hleft⟩ := follows_expand dialect answer limit room active value ledger
  have houtcome : run.1 = pass.outcome := congrArg Prod.fst hrun
  refine ⟨houtcome, ?_, ?_, ?_, ?_, ?_⟩
  · exact congrArg (fun r => r.2.source) hrun
  · exact congrArg (fun r => r.2.log) hrun
  · intro text h
    have hactive : run.2.active = left := congrArg (fun r => r.2.active) hrun
    rw [houtcome] at h
    exact ⟨hactive.trans (hleft text h), reached_of_guarded_ok h⟩
  · intro name text position h
    rw [houtcome] at h
    exact reached_of_guarded_unresolvable h
  · intro emitted unread p hreached hp
    -- where the pass goes on does not depend on what it emits; here the placeholder stays
    have hnext : Reached dialect (fun _ _ _ => True) value
        (emitted ++ p.before ++ (none : Option Text).getD (dialect.written p.body)) p.after :=
      hreached.step hp trivial
    exact ⟨hnext.isSuffix, Dialect.length_after_lt hp⟩

end Expansion

/-! ## Expanders -/

namespace Expander

open Expansion

/-- What resolving a text comes to, where the answers are a function of the name. -/
def transcript (e : Expander) (answer : Text → Reply) (text : Text) : Transcript Text :=
  guarded e.dialect answer e.given (e.limit + 1) [] text

/-- Resolving a text adds its transcript to the ledger. -/
theorem replace_run (e : Expander) (answer : Text → Reply) (text : Text)
    (ledger : Ledger (List Text)) :
    (e.replace (.text text) (.usable (Resolver.recording answer))).run ledger =
      ((e.transcript answer text).outcome,
        ⟨ledger.source ++ (e.transcript answer text).asked,
          ledger.log ++ (e.transcript answer text).log⟩) := by
  obtain ⟨left, hrun, -⟩ :=
    follows_expand e.dialect answer e.given (e.limit + 1) [] text ledger
  rw [replace]
  show (let (outcome, session) := (expand e.dialect (Resolver.recording answer) e.given
      (e.limit + 1) text).run ⟨ledger, []⟩
    (outcome, session.toLedger)) = _
  rw [hrun]
  rfl

end Expander

end Interpolation
