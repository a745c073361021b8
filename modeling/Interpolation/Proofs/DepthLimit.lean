import Interpolation.Proofs.Agreement
import Interpolation.Proofs.Splicing

/-!
# The limit on nesting

An expansion with more levels left goes the same way as one with fewer, until the one with fewer is
too deep.  So an outcome that is not the failure of a limit is the outcome under every greater limit
too, with the same questions and the same log.
-/

set_option autoImplicit false

namespace Interpolation

namespace Expansion

/-- With more levels left, a single pass is the same up to where it was too deep. -/
theorem agreesUpTo_of_room_le (dialect : Dialect) (answer : Text → Reply) (limit limit' : Value)
    {room room' : Nat} (le : room ≤ room') (active : List Text) (value : Text) :
    Transcript.AgreesUpTo Failure.IsTooDeep
      (guarded dialect answer limit room active value)
      (guarded dialect answer limit' room' active value) := by
  induction room generalizing room' active value with
  | zero => exact Transcript.agreesUpTo_throw trivial _
  | succ room ih =>
    obtain ⟨room', rfl⟩ := Nat.exists_eq_add_of_lt le
    rw [guarded_succ, guarded_succ]
    refine (agreement _).rel_walkFrom (fun body start => ?_) [] value
    by_cases hmem : body ∈ active
    · rw [fillInGuarded, fillInGuarded, if_pos hmem, if_pos hmem]
      exact (agreement _).rel_throw _
    · rw [fillInGuarded, fillInGuarded, if_neg hmem, if_neg hmem]
      exact (agreement _).rel_fillIn (fun _ => .inr rfl) (fun _ => .inr rfl)
        (ih (Nat.le_add_right room room') (body :: active)) value body start

end Expansion

namespace Expander

open Expansion

variable {e e' : Expander}

/-- With a greater limit, resolving a text is the same up to where it was too deep. -/
theorem agreesUpTo_of_limit_le (same : e'.dialect = e.dialect) (le : e.limit ≤ e'.limit)
    (answer : Text → Reply) (text : Text) :
    Transcript.AgreesUpTo Failure.IsTooDeep (e.transcript answer text)
      (e'.transcript answer text) := by
  unfold transcript
  rw [same]
  exact Expansion.agreesUpTo_of_room_le e.dialect answer e.given e'.given (Nat.succ_le_succ le) []
    text

/-- A greater limit changes nothing but failures of the limit: any other outcome is the outcome
under the greater limit too, with the same questions in the same order and the same log, and where
the greater limit is exceeded, so is the smaller one. -/
theorem replace_of_limit_le (same : e'.dialect = e.dialect) (le : e.limit ≤ e'.limit)
    (answer : Text → Reply) (text : Text) (ledger : Ledger (List Text)) :
    let run := (e.replace (.text text) (.usable (Resolver.recording answer))).run ledger
    let run' := (e'.replace (.text text) (.usable (Resolver.recording answer))).run ledger
    ((∀ failure, run.1 = .error failure → ¬ failure.IsTooDeep) → run' = run) ∧
    ((∃ failure, run'.1 = .error failure ∧ failure.IsTooDeep) →
      ∃ failure, run.1 = .error failure ∧ failure.IsTooDeep) := by
  dsimp only
  have hagree := agreesUpTo_of_limit_le same le answer text
  rw [replace_run, replace_run]
  constructor
  · intro hgoes
    rw [hagree.eq hgoes]
  · rintro ⟨failure, hfail, hdeep⟩
    obtain ⟨failure', hdeep', hfail'⟩ := hagree.stops_of_stops hfail hdeep
    exact ⟨failure', hfail', hdeep'⟩

/-- A placeholder that one level is enough for comes to the same with two. -/
theorem replace_of_limit_le_one_two :
    let e : Expander := ⟨.shell, 1, by decide, by decide, .int 1⟩
    let e' : Expander := ⟨.shell, 2, by decide, by decide, .int 2⟩
    let text := Dialect.shell.written "a".text
    let offer := Offer.usable (Resolver.recording fun _ => .text "b".text)
    e'.dialect = e.dialect ∧ e.limit ≤ e'.limit ∧
    ((e.replace (.text text) offer).run ⟨[], []⟩).1 = .ok "b".text ∧
    (e'.replace (.text text) offer).run ⟨[], []⟩ = (e.replace (.text text) offer).run ⟨[], []⟩ := by
  intro e e' text offer
  have htext : Dialect.shell.firstPlaceholder? text = some ⟨[], "a".text, []⟩ :=
    by with_unfolding_all rfl
  have hrest : Dialect.shell.firstPlaceholder? [] = none := by rfl
  have hname : Dialect.shell.firstPlaceholder? "a".text = none := by rfl
  have hvalue : Dialect.shell.firstPlaceholder? "b".text = none := by rfl
  have hok : ((e.replace (.text text) offer).run ⟨[], []⟩).1 = .ok "b".text := by
    rw [replace_run]
    dsimp only
    rw [transcript, guarded_succ, walkFrom_of_some htext, fillInGuarded, if_neg List.not_mem_nil,
      Transcript.outcome_bind_eq_ok_iff]
    refine ⟨some "b".text, ?_, ?_⟩
    · rw [outcome_fillIn_of_value (congrArg Transcript.outcome (singlePass_of_none hname)) rfl,
        singlePass_of_none hvalue]
      rfl
    · rw [walkFrom_of_none hrest]
      rfl
  have same : e'.dialect = e.dialect := rfl
  have le : e.limit ≤ e'.limit := by decide
  have hlimit := replace_of_limit_le same le (fun _ => .text "b".text) text ⟨[], []⟩
  refine ⟨same, le, hok, hlimit.1 fun failure hfail => ?_⟩
  rw [hok] at hfail
  cases hfail

end Expander

end Interpolation
