import Interpolation.Proofs.Agreement
import Interpolation.Proofs.Splicing

/-!
# Expanders with and without default values

A separator lets a placeholder carry a default value.  `Expander.withoutSeparator` is an expander
that knows no default values and is otherwise the same.

A look-up cuts a name at the separator only where the whole name has no value.  Where no placeholder
may stay, the expander without a separator fails at just such a name, so up to there the two go the
same way (`agreesUpTo_of_withoutSeparator`): what the one without default values comes to, the other
one comes to as well, unless it is the failure of a placeholder without a value.
-/

set_option autoImplicit false

namespace Interpolation

/-- The dialect in which no placeholder carries a default value, and which else is the same. -/
def Dialect.withoutSeparator (d : Dialect) : Dialect :=
  { d with separator := none, separator_ne_nil := nofun }

theorem Dialect.sameDelimiters_withoutSeparator (d : Dialect) :
    d.withoutSeparator.SameDelimiters d where
  opening := rfl
  closing := rfl

namespace Expansion

variable {dialect : Dialect} {answer : Text → Reply}

/-- Where no placeholder may stay, one is filled in alike without default values, up to where its
name has no value. -/
theorem agreesUpTo_fillIn_withoutSeparator (strict : dialect.lenient = false)
    {expandInner expandInner' : Text → Transcript Text}
    (hinner : ∀ text, Transcript.AgreesUpTo Failure.IsUnresolvable (expandInner text)
      (expandInner' text)) (value body : Text) (start : Nat) :
    Transcript.AgreesUpTo Failure.IsUnresolvable
      (fillIn dialect.withoutSeparator (Transcript.ask answer) Transcript.recordSubstitution
        expandInner value body start)
      (fillIn dialect (Transcript.ask answer) Transcript.recordSubstitution expandInner' value body
        start) := by
  unfold fillIn
  apply (hinner body).bind
  intro name
  have hask : Transcript.AgreesUpTo Failure.IsUnresolvable (Transcript.ask answer name)
      (Transcript.ask answer name) := .inr rfl
  -- both look-ups begin with the question for the whole name; what follows depends on the answer
  rw [lookUp_of_separator_none rfl, lookUp, bind_assoc]
  apply hask.bind
  intro found
  cases found with
  | some found =>
    rw [pure_bind]
    apply (hinner found).bind
    intro insertion
    exact .inr rfl
  | none =>
    have hlenient : dialect.withoutSeparator.lenient = false := strict
    dsimp only
    rw [hlenient, if_neg Bool.false_ne_true]
    exact Transcript.agreesUpTo_throw trivial _

/-- Where no placeholder may stay, the expansion of a text without default values is the one with
them up to where a placeholder has no value. -/
theorem agreesUpTo_of_withoutSeparator (strict : dialect.lenient = false) (limit : Value)
    (room : Nat) (active : List Text) (value : Text) :
    Transcript.AgreesUpTo Failure.IsUnresolvable
      (guarded dialect.withoutSeparator answer limit room active value)
      (guarded dialect answer limit room active value) := by
  apply (agreement _).rel_guarded dialect.sameDelimiters_withoutSeparator
  intro _ _ hinner
  exact agreesUpTo_fillIn_withoutSeparator strict hinner

end Expansion

namespace Expander

open Expansion

/-- The expander that knows no default values, and which else is the same. -/
def withoutSeparator (e : Expander) : Expander :=
  { e with dialect := e.dialect.withoutSeparator }

/-- Default values are conservative.  Where no placeholder may stay, what an expander without a
separator comes to is what the one with the separator comes to, be it a text or a failure, with the
same questions in the same order and the same log, unless a placeholder has no value; and then its
questions and its log are the first ones of the expander with the separator. -/
theorem replace_withoutSeparator (e : Expander) (strict : e.dialect.lenient = false)
    (answer : Text → Reply) (text : Text) (ledger : Ledger (List Text)) :
    let offer := Offer.usable (Resolver.recording answer)
    let bare := (e.withoutSeparator.replace (.text text) offer).run ledger
    let run := (e.replace (.text text) offer).run ledger
    (∀ result, bare.1 = .ok result → run = bare) ∧
    (∀ failure, bare.1 = .error failure → ¬ failure.IsUnresolvable → run = bare) ∧
    bare.2.source <+: run.2.source ∧ bare.2.log <+: run.2.log := by
  dsimp only
  have hagree : Transcript.AgreesUpTo Failure.IsUnresolvable
      (e.withoutSeparator.transcript answer text) (e.transcript answer text) :=
    agreesUpTo_of_withoutSeparator strict e.given (e.limit + 1) [] text
  have hsame : (∀ failure, (e.withoutSeparator.transcript answer text).outcome = .error failure →
      ¬ failure.IsUnresolvable) →
      e.transcript answer text = e.withoutSeparator.transcript answer text := by
    intro hgoes
    exact (hagree.eq hgoes).symm
  rw [replace_run, replace_run]
  refine ⟨?_, ?_, ?_⟩
  · intro result hok
    rw [hsame]
    intro failure hfail
    dsimp only at hok
    rw [hok] at hfail
    cases hfail
  · intro failure hfail hother
    rw [hsame]
    intro failure' hfail'
    dsimp only at hfail
    rw [hfail] at hfail'
    cases hfail'
    exact hother
  · simp only [List.prefix_append_right_inj]
    exact ⟨hagree.isPrefix_asked, hagree.isPrefix_log⟩

/-- The whole of `a:b` is a name with a value, so `${a:b}` comes to it with and without default
values. -/
theorem replace_withoutSeparator_whole_name :
    let e : Expander := ⟨{ Dialect.shell with lenient := false }, 1, by decide, by decide, .int 1⟩
    let answer (name : Text) : Reply := if name = "a:b".text then .text "c".text else .absent
    let offer := Offer.usable (Resolver.recording answer)
    let text := e.dialect.written "a:b".text
    e.dialect.lenient = false ∧ e.dialect.separator = some ":".text ∧
    ((e.withoutSeparator.replace (.text text) offer).run ⟨[], []⟩).1 = .ok "c".text ∧
    (e.replace (.text text) offer).run ⟨[], []⟩ =
      (e.withoutSeparator.replace (.text text) offer).run ⟨[], []⟩ := by
  intro e answer offer text
  have hname : e.withoutSeparator.dialect.firstPlaceholder? "a:b".text = none := by rfl
  have htext : e.withoutSeparator.dialect.firstPlaceholder? text =
      some ⟨[], "a:b".text, []⟩ := by with_unfolding_all rfl
  have hvalue : e.withoutSeparator.dialect.firstPlaceholder? "c".text = none := by rfl
  have hanswer : answer "a:b".text = .text "c".text := rfl
  have hbare : ((e.withoutSeparator.replace (.text text) offer).run ⟨[], []⟩).1 = .ok "c".text := by
    rw [replace_run]
    show (guarded e.withoutSeparator.dialect answer e.given (0 + 2) []
      (e.withoutSeparator.dialect.written "a:b".text)).outcome = .ok "c".text
    rw [outcome_guarded_written hname htext hanswer, outcome_guarded_of_none hvalue]
  exact ⟨rfl, rfl, hbare, (replace_withoutSeparator e rfl answer text ⟨[], []⟩).1 _ hbare⟩

end Expander

end Interpolation
