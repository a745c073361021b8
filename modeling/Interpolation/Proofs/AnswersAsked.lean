import Mathlib.Data.List.Basic
import Interpolation.Proofs.Agreement
import Interpolation.Proofs.SourceAnswers

/-!
# Only the answers that are asked for count

A run looks at its resolver through the names that it asks for and nowhere else.  If another
resolver has the same answers to those names, the two runs never part: each next question is made
of answers that were the same (`guarded_of_answers_eq`).

For a chain this says what sources that are appended can do.  They are asked only for names that
nothing before them answers, so a run in which the chain answered every name does not change.  A
strict run without a separator that succeeds is such a run (`answered_guarded`): a name without an
answer would have been a failure.
-/

set_option autoImplicit false

namespace Interpolation

namespace Transcript

variable {α β : Type} {answer answer' : Text → Reply}

/-! ## Runs with the same answers -/

/-- The first run is the second one, if the two have the same answers to the names of the first. -/
def SameIfAnswered (answer answer' : Text → Reply) (x y : Transcript α) : Prop :=
  (∀ name ∈ x.asked, answer' name = answer name) → y = x

/-- Sequences are the same if their parts are. -/
theorem SameIfAnswered.bind {x y : Transcript α} {f g : α → Transcript β}
    (h : SameIfAnswered answer answer' x y) (hf : ∀ a, SameIfAnswered answer answer' (f a) (g a)) :
    SameIfAnswered answer answer' (x >>= f) (y >>= g) := by
  intro hanswers
  have hfirst : y = x := by
    apply h
    intro name hmem
    exact hanswers name ((isPrefix_bind x f).1.subset hmem)
  subst hfirst
  cases houtcome : y.outcome with
  | error failure => rw [bind_of_error houtcome, bind_of_error houtcome]
  | ok a =>
    rw [bind_of_ok houtcome] at hanswers ⊢
    have hsecond : g a = f a := by
      apply hf a
      intro name hmem
      exact hanswers name (List.mem_append_right _ hmem)
    rw [bind_of_ok houtcome, hsecond]

theorem sameIfAnswered_ask (name : Text) :
    SameIfAnswered answer answer' (ask answer name) (ask answer' name) := by
  intro hanswers
  have hname := hanswers name List.mem_cons_self
  unfold ask
  rw [hname]

/-! ## Runs in which every name has an answer -/

/-- A run in which every name has an answer, if it succeeds. -/
def Answered (answer : Text → Reply) (x : Transcript α) : Prop :=
  ∀ a, x.outcome = .ok a → ∀ name ∈ x.asked, answer name ≠ .absent

/-- A run that asks nothing. -/
theorem answered_of_asked_nil {x : Transcript α} (h : x.asked = []) : Answered answer x := by
  intro a _ name hmem
  rw [h] at hmem
  cases hmem

/-- In a sequence every name has an answer, if it succeeds, where this is so of its parts. -/
theorem Answered.bind {x : Transcript α} {f : α → Transcript β} (h : Answered answer x)
    (hf : ∀ a, Answered answer (f a)) : Answered answer (x >>= f) := by
  intro b hok name hmem
  obtain ⟨a, hfirst, hsecond⟩ := outcome_bind_eq_ok_iff.mp hok
  rw [bind_of_ok hfirst] at hmem
  rcases List.mem_append.mp hmem with hmem | hmem
  · exact h a hfirst name hmem
  · exact hf a b hsecond name hmem

end Transcript

namespace Expansion

open Transcript

variable {dialect : Dialect} {answer answer' : Text → Reply} {limit : Value}

/-- Transcripts in lockstep as long as the answers are the same. -/
def sameAnswers (answer answer' : Text → Reply) : Lockstep Transcript Transcript where
  Rel := SameIfAnswered answer answer'
  rel_pure _ := fun _ => rfl
  rel_throw _ := fun _ => rfl
  rel_bind := SameIfAnswered.bind

/-- An expansion depends on the answers to the names that it asks for, and on no others. -/
theorem guarded_of_answers_eq (room : Nat) (active : List Text) (value : Text) :
    SameIfAnswered answer answer' (guarded dialect answer limit room active value)
      (guarded dialect answer' limit room active value) := by
  apply (sameAnswers _ _).rel_guarded ⟨rfl, rfl⟩
  intro _ _ hinner
  exact (sameAnswers _ _).rel_fillIn sameIfAnswered_ask (fun _ _ => rfl) hinner

/-- A property of transcripts that sequencing keeps, as a relation that does not look at the second
one: that every name has an answer if the run succeeds. -/
def answering (answer : Text → Reply) : Lockstep Transcript Transcript where
  Rel x _ := Answered answer x
  rel_pure _ := answered_of_asked_nil rfl
  rel_throw _ := answered_of_asked_nil rfl
  rel_bind h hf := h.bind hf

/-- Where there is no separator and no placeholder may stay, a placeholder is filled in only if its
name has an answer. -/
theorem answered_fillIn (strict : dialect.lenient = false) (hseparator : dialect.separator = none)
    {expandInner : Text → Transcript Text} (hinner : ∀ text, Answered answer (expandInner text))
    (value body : Text) (start : Nat) :
    Answered answer (fillIn dialect (Transcript.ask answer) Transcript.recordSubstitution
      expandInner value body start) := by
  unfold fillIn
  apply (hinner body).bind
  intro name
  rw [lookUp_of_separator_none hseparator]
  by_cases habsent : answer name = .absent
  · -- the question succeeds, but as nothing is found the placeholder fails
    have hask : (Transcript.ask answer name).outcome = .ok none := by
      unfold Transcript.ask
      rw [habsent]
      rfl
    intro insertion hok
    rw [bind_of_ok hask] at hok
    dsimp only at hok
    rw [strict, if_neg Bool.false_ne_true] at hok
    cases hok
  · have hasked : Answered answer (Transcript.ask answer name) := by
      intro found _ asked hmem
      rw [List.mem_singleton.mp hmem]
      exact habsent
    apply hasked.bind
    intro found
    cases found with
    | some found =>
      apply (hinner found).bind
      intro insertion
      exact answered_of_asked_nil rfl
    | none =>
      dsimp only
      rw [strict]
      exact answered_of_asked_nil rfl

/-- Where there is no separator and no placeholder may stay, an expansion succeeds only if all names
have an answer. -/
theorem answered_guarded (strict : dialect.lenient = false)
    (hseparator : dialect.separator = none) (room : Nat) (active : List Text) (value : Text) :
    Answered answer (guarded dialect answer limit room active value) := by
  have hrel : (answering answer).Rel (guarded dialect answer limit room active value)
      (guarded dialect answer limit room active value) := by
    apply (answering answer).rel_guarded ⟨rfl, rfl⟩
    intro _ _ hinner
    exact answered_fillIn strict hseparator hinner
  exact hrel

end Expansion

namespace Expander

open Expansion

/-- A run with a longer chain is the run with the chain, or it asks for a name that none of the
sources in the chain answers and one of those appended does. -/
theorem transcript_chain_append (e : Expander) (environment : Environment)
    (sources more : List Source) (text : Text) :
    let answer := fun name => (Source.chain sources).answer environment (.text name)
    let answer' := fun name => (Source.chain (sources ++ more)).answer environment (.text name)
    e.transcript answer' text = e.transcript answer text ∨
      ∃ name ∈ (e.transcript answer text).asked,
        (∀ source ∈ sources, source.answer environment (.text name) = .absent) ∧
        ∃ source ∈ more, source.answer environment (.text name) ≠ .absent := by
  intro answer answer'
  by_cases hsame : ∀ name ∈ (e.transcript answer text).asked, answer' name = answer name
  · left
    exact guarded_of_answers_eq (e.limit + 1) [] text hsame
  · right
    simp only [not_forall] at hsame
    obtain ⟨name, hmem, hdiffer⟩ := hsame
    have habsent : (Source.chain sources).answer environment (.text name) = .absent := by
      by_cases habsent : (Source.chain sources).answer environment (.text name) = .absent
      · exact habsent
      · exact absurd (Source.answer_chain_append_of_ne_absent habsent).1 hdiffer
    have hmore : (Source.chain more).answer environment (.text name) ≠ .absent := by
      intro hnone
      apply hdiffer
      show (Source.chain (sources ++ more)).answer environment (.text name) =
        (Source.chain sources).answer environment (.text name)
      rw [Source.answer_chain_append_of_absent habsent, hnone, habsent]
    refine ⟨name, hmem, Source.answer_chain_eq_absent_iff.mp habsent, ?_⟩
    rw [ne_eq, Source.answer_chain_eq_absent_iff] at hmore
    simpa only [not_forall, exists_prop] using hmore

/-- What a run comes to depends on the answers to the names that it asks for, and on no others.  If
another resolver has the same answers to those names, the run with it is the same: its questions,
its outcome and its log.  So sources that are appended to a chain change the outcome only if the run
looks up a name that none of the sources before answers and one of those appended does.  A strict
run without a separator that succeeds is the same with any sources appended, and they are not asked:
whatever they would record, the record is that of the run without them. -/
theorem replace_of_answers_eq (e : Expander) (text : Text) (log : List Log.Entry) :
    (∀ answer answer' : Text → Reply,
      let run (answer : Text → Reply) :=
        (e.replace (.text text) (.usable (Resolver.recording answer))).run ⟨[], log⟩
      (∀ name ∈ (run answer).2.source, answer' name = answer name) → run answer' = run answer) ∧
    (∀ (environment : Environment) (sources more : List Source) (tag : Text),
      let run (sources : List Source) :=
        (e.replace (.text text)
          (.usable ((Source.tagged tag (.chain sources)).resolver environment))).run ⟨[], log⟩
      (run (sources ++ more)).1 ≠ (run sources).1 →
        ∃ name, ⟨tag, name⟩ ∈ (run sources).2.source ∧
          (∀ source ∈ sources, source.answer environment (.text name) = .absent) ∧
          ∃ source ∈ more, source.answer environment (.text name) ≠ .absent) ∧
    ∀ (environment : Environment) (sources more : List Source) (result : Text),
      let run (sources : List Source) :=
        (e.replace (.text text)
          (.usable ((Source.chain sources).resolver environment))).run ⟨[], log⟩
      e.dialect.lenient = false → e.dialect.separator = none → (run sources).1 = .ok result →
        run (sources ++ more) = run sources := by
  refine ⟨?_, ?_, ?_⟩
  · intro answer answer' run hanswers
    have hrun : ∀ answer, run answer = ((e.transcript answer text).outcome,
        ⟨[] ++ (e.transcript answer text).asked, log ++ (e.transcript answer text).log⟩) :=
      fun answer => e.replace_run answer text ⟨[], log⟩
    have hsame : e.transcript answer' text = e.transcript answer text := by
      apply guarded_of_answers_eq
      intro name hmem
      apply hanswers
      rw [hrun]
      exact hmem
    rw [hrun, hrun, hsame]
  · intro environment sources more tag run hdiffer
    have hrun := fun sources => e.replace_source environment
      (Source.tagged tag (.chain sources)) text ⟨[], log⟩
    simp only [Source.answer_tagged, Source.lookups_tagged] at hrun
    rcases e.transcript_chain_append environment sources more text with
      hsame | ⟨name, hmem, hearlier, hlater⟩
    · refine absurd ?_ hdiffer
      rw [show run (sources ++ more) = _ from hrun (sources ++ more),
        show run sources = _ from hrun sources, hsame]
    · refine ⟨name, ?_, hearlier, hlater⟩
      rw [show run sources = _ from hrun sources]
      exact List.mem_flatMap.mpr ⟨name, hmem, List.mem_cons_self⟩
  · intro environment sources more result run strict hseparator hok
    have hrun := fun sources => e.replace_source environment (.chain sources) text ⟨[], log⟩
    rw [show run sources = _ from hrun sources] at hok
    have hanswered := answered_guarded strict hseparator (e.limit + 1) [] text result hok
    rcases e.transcript_chain_append environment sources more text with
      hsame | ⟨name, hmem, hearlier, -⟩
    · have hlookups : ∀ name ∈ (e.transcript (fun name =>
          (Source.chain sources).answer environment (.text name)) text).asked,
          (Source.chain (sources ++ more)).lookups environment (.text name) =
            (Source.chain sources).lookups environment (.text name) :=
        fun name hmem => (Source.answer_chain_append_of_ne_absent (hanswered name hmem)).2
      rw [show run (sources ++ more) = _ from hrun (sources ++ more),
        show run sources = _ from hrun sources, hsame]
      dsimp only
      rw [List.flatMap_congr hlookups]
    · exact absurd (Source.answer_chain_eq_absent_iff.mpr hearlier) (hanswered name hmem)

end Expander

end Interpolation
