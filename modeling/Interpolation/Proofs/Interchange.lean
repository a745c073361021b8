import Interpolation.Expander
import Interpolation.Proofs.Transcript

/-!
# Interchangeable resolvers

Two resolvers with states of their own are *in step* by a relation between the states if, from
states in the relation, they reply alike to every name and come to states in the relation again.
The engine does nothing with the state of a resolver but hand it to the resolver, so it cannot tell
the two apart: `simulates_expand` says that two expansions have the same outcome, log and bodies
being expanded, and leave states in the relation, and `replace_of_inStep` says this of expanders.

A resolver may well do more in its state than reply; what it does beside cannot be seen from the
engine.  So a run with a resolver that keeps notes is the run with the resolver that does not.
-/

set_option autoImplicit false

namespace Interpolation

variable {σ τ α β : Type} {R : σ → τ → Prop}

/-- Two resolvers that reply alike to texts from states in a relation, and stay in the relation. -/
def Resolver.InStep (R : σ → τ → Prop) (resolver : Resolver σ) (resolver' : Resolver τ) : Prop :=
  ∀ (name : Text) (s : σ) (t : τ), R s t →
    (resolver (.text name) s).1 = (resolver' (.text name) t).1 ∧
    R (resolver (.text name) s).2 (resolver' (.text name) t).2

namespace Expansion

/-- Two sessions that are the same but for the states of their resolvers, which are in a
relation. -/
structure Alike (R : σ → τ → Prop) (s : Session σ) (t : Session τ) : Prop where
  source : R s.source t.source
  log : s.log = t.log
  active : s.active = t.active

/-- Two computations that from sessions alike come to the same and leave sessions alike. -/
def Simulates (R : σ → τ → Prop) (x : Expansion σ α) (y : Expansion τ α) : Prop :=
  ∀ s t, Alike R s t → (x.run s).1 = (y.run t).1 ∧ Alike R (x.run s).2 (y.run t).2

/-- A sequence simulates another one if its parts do. -/
theorem Simulates.bind {x : Expansion σ α} {y : Expansion τ α} {f : α → Expansion σ β}
    {g : α → Expansion τ β} (hx : Simulates R x y) (hf : ∀ a, Simulates R (f a) (g a)) :
    Simulates R (x >>= f) (y >>= g) := by
  intro s t halike
  obtain ⟨hsame, halike'⟩ := hx s t halike
  rw [run_bind, run_bind]
  rcases hrun : x.run s with ⟨outcome, s'⟩
  rcases hrun' : y.run t with ⟨outcome', t'⟩
  rw [hrun, hrun'] at hsame halike'
  dsimp only at hsame halike' ⊢
  subst hsame
  cases outcome with
  | error failure => exact ⟨rfl, halike'⟩
  | ok a => exact hf a s' t' halike'

/-- Simulation is lockstep. -/
def simulation (R : σ → τ → Prop) : Lockstep (Expansion σ) (Expansion τ) where
  Rel := Simulates R
  rel_pure _ := fun _ _ halike => ⟨rfl, halike⟩
  rel_throw _ := fun _ _ halike => ⟨rfl, halike⟩
  rel_bind := Simulates.bind

/-- A question to one resolver simulates the question to another one in step with it. -/
theorem simulates_ask {resolver : Resolver σ} {resolver' : Resolver τ}
    (hstep : Resolver.InStep R resolver resolver') (name : Text) :
    Simulates R (ask resolver name) (ask resolver' name) := by
  intro s t halike
  obtain ⟨hreply, hsource⟩ := hstep name s.source t.source halike.source
  rw [run_ask, run_ask, hreply]
  exact ⟨rfl, hsource, halike.log, halike.active⟩

theorem simulates_recordSubstitution (name : Text) :
    Simulates R (recordSubstitution name) (recordSubstitution name) := by
  intro s t halike
  refine ⟨rfl, halike.source, ?_, halike.active⟩
  show s.log ++ [_] = t.log ++ [_]
  rw [halike.log]

/-- Work on a body simulates other work on it if the work does. -/
theorem Simulates.within {x : Expansion σ α} {y : Expansion τ α} (h : Simulates R x y)
    (body : Text) : Simulates R (within body x) (within body y) := by
  intro s t halike
  by_cases hmem : body ∈ s.active
  · have hmem' : body ∈ t.active := halike.active ▸ hmem
    rw [run_within_of_mem hmem, run_within_of_mem hmem']
    exact ⟨rfl, halike⟩
  · have hmem' : body ∉ t.active := halike.active ▸ hmem
    have halike' : Alike R { s with active := body :: s.active }
        { t with active := body :: t.active } :=
      ⟨halike.source, halike.log, congrArg (body :: ·) halike.active⟩
    obtain ⟨hsame, hleft⟩ := h _ _ halike'
    rw [run_within_of_not_mem hmem, run_within_of_not_mem hmem']
    rcases hrun : x.run { s with active := body :: s.active } with ⟨outcome, s'⟩
    rcases hrun' : y.run { t with active := body :: t.active } with ⟨outcome', t'⟩
    rw [hrun, hrun'] at hsame hleft
    dsimp only at hsame hleft ⊢
    subst hsame
    cases outcome with
    | error failure => exact ⟨rfl, hleft⟩
    | ok a => exact ⟨rfl, hleft.source, hleft.log, congrArg (List.erase · body) hleft.active⟩

/-- The engine cannot tell two resolvers in step apart. -/
theorem simulates_expand (dialect : Dialect) {resolver : Resolver σ} {resolver' : Resolver τ}
    (hstep : Resolver.InStep R resolver resolver') (limit : Value) (room : Nat) (value : Text) :
    Simulates R (expand dialect resolver limit room value)
      (expand dialect resolver' limit room value) := by
  induction room generalizing value with
  | zero => exact (simulation R).rel_throw _
  | succ room ih =>
    rw [expand, expand, spliceFrom_zero, spliceFrom_zero]
    apply (simulation R).rel_walkFrom
    intro body start
    apply Simulates.within
    exact (simulation R).rel_fillIn (simulates_ask hstep) simulates_recordSubstitution ih value body
      start

end Expansion

namespace Expander

open Expansion

/-- Resolving a text with two resolvers in step comes to the same, makes the same log entries, and
leaves the states of the resolvers in step. -/
theorem replace_of_inStep (e : Expander) {resolver : Resolver σ} {resolver' : Resolver τ}
    (hstep : Resolver.InStep R resolver resolver') (text : Text) (ledger : Ledger σ)
    (ledger' : Ledger τ) (hsource : R ledger.source ledger'.source)
    (hlog : ledger.log = ledger'.log) :
    let run := (e.replace (.text text) (.usable resolver)).run ledger
    let run' := (e.replace (.text text) (.usable resolver')).run ledger'
    run.1 = run'.1 ∧ R run.2.source run'.2.source ∧ run.2.log = run'.2.log := by
  obtain ⟨houtcome, halike⟩ :=
    simulates_expand e.dialect hstep e.given (e.limit + 1) text ⟨ledger, []⟩ ⟨ledger', []⟩
      ⟨hsource, hlog, rfl⟩
  exact ⟨houtcome, halike.source, halike.log⟩

end Expander

end Interpolation
