import Interpolation.Expander
import Interpolation.Proofs.Lockstep

/-!
# Transcripts

A resolver whose answers are a function of the name has no say in when it is asked.  What a run with
such a resolver comes to is a *transcript*: the outcome, the names that were asked for, and the log
entries, in order.  Transcripts are a monad, in which a failure ends the transcript.

`Follows active` relates a computation of the engine, with a resolver that records the names, to its
transcript: whatever was recorded and logged before, the run has the outcome of the transcript and
adds its names and its entries; where it succeeds, the bodies that are being expanded are again
those of the start.
-/

set_option autoImplicit false

namespace Interpolation

/-- A sequence is run by running its parts. -/
theorem run_bind {ε σ α β : Type} (x : ExceptT ε (StateM σ) α) (f : α → ExceptT ε (StateM σ) β)
    (s : σ) :
    (x >>= f).run s = match x.run s with
      | (.ok a, s') => (f a).run s'
      | (.error e, s') => (.error e, s') := by
  rw [ExceptT.run_bind]
  show (StateT.bind x.run _ : StateM σ (Except ε β)) s = _
  unfold StateT.bind
  rcases x.run s with ⟨outcome, s'⟩
  cases outcome <;> rfl

/-- What a run with a resolver of fixed answers comes to. -/
structure Transcript (α : Type) where
  outcome : Except Failure α
  /-- The names that were asked for, in order. -/
  asked : List Text
  /-- The log entries, in order. -/
  log : List Log.Entry

namespace Transcript

instance : Monad Transcript where
  pure a := ⟨.ok a, [], []⟩
  bind x f :=
    match x.outcome with
    | .error failure => ⟨.error failure, x.asked, x.log⟩
    | .ok a => ⟨(f a).outcome, x.asked ++ (f a).asked, x.log ++ (f a).log⟩

instance : MonadExcept Failure Transcript where
  throw failure := ⟨.error failure, [], []⟩
  tryCatch x handle :=
    match x.outcome with
    | .error failure =>
      ⟨(handle failure).outcome, x.asked ++ (handle failure).asked, x.log ++ (handle failure).log⟩
    | .ok _ => x

/-- The question for a name, where the answers are a function of the name. -/
def ask (answer : Text → Reply) (name : Text) : Transcript (Option Text) :=
  ⟨(answer name).checked name, [name], []⟩

/-- The entry for a placeholder that has been replaced. -/
def recordSubstitution (name : Text) : Transcript Unit :=
  ⟨.ok (), [], [.substituted name]⟩

variable {α β : Type} {x : Transcript α} {f : α → Transcript β} {failure : Failure}

/-- A failure ends the transcript. -/
theorem bind_of_error (h : x.outcome = .error failure) :
    x >>= f = ⟨.error failure, x.asked, x.log⟩ := by
  show (match x.outcome with
    | .error failure => _
    | .ok a => _ : Transcript β) = _
  rw [h]

/-- A success is followed by what comes next. -/
theorem bind_of_ok {a : α} (h : x.outcome = .ok a) :
    x >>= f = ⟨(f a).outcome, x.asked ++ (f a).asked, x.log ++ (f a).log⟩ := by
  show (match x.outcome with
    | .error failure => _
    | .ok a => _ : Transcript β) = _
  rw [h]

theorem id_map_eq (x : Transcript α) : id <$> x = x := by
  rcases x with ⟨outcome | a, asked, log⟩
  · rfl
  · show Transcript.mk _ (asked ++ []) (log ++ []) = _
    rw [List.append_nil, List.append_nil]
    rfl

/-- Sequences may be put together in either order. -/
theorem bind_bind {γ : Type} (x : Transcript α) (f : α → Transcript β) (g : β → Transcript γ) :
    x >>= f >>= g = x >>= fun a => f a >>= g := by
  cases hx : x.outcome with
  | error failure => rw [bind_of_error hx, bind_of_error hx, bind_of_error rfl]
  | ok a =>
    rw [bind_of_ok hx, bind_of_ok hx]
    cases hf : (f a).outcome with
    | error failure => rw [bind_of_error hf, bind_of_error rfl]
    | ok b =>
      rw [bind_of_ok hf, bind_of_ok rfl]
      simp only [List.append_assoc]

instance : LawfulMonad Transcript :=
  .mk' Transcript id_map_eq (fun _ _ => rfl) bind_bind

/-- A sequence fails where its first part does, or where its second part does. -/
theorem outcome_bind_eq_error_iff :
    (x >>= f).outcome = .error failure ↔
      x.outcome = .error failure ∨ ∃ a, x.outcome = .ok a ∧ (f a).outcome = .error failure := by
  cases h : x.outcome with
  | error failure => simp [bind_of_error h]
  | ok a => simp [bind_of_ok h]

/-- A sequence succeeds where both parts do. -/
theorem outcome_bind_eq_ok_iff {b : β} :
    (x >>= f).outcome = .ok b ↔ ∃ a, x.outcome = .ok a ∧ (f a).outcome = .ok b := by
  cases h : x.outcome with
  | error failure => simp [bind_of_error h]
  | ok a => simp [bind_of_ok h]

end Transcript

namespace Expansion

variable {σ α β : Type}

/-! ## Runs of the engine -/

/-- A question changes nothing but the state of the resolver. -/
theorem run_ask (resolver : Resolver σ) (name : Text) (s : Session σ) :
    (ask resolver name).run s =
      ((resolver (.text name) s.source).1.checked name,
        { s with source := (resolver (.text name) s.source).2 }) := by
  rw [ask, run_bind]
  show (MonadExcept.ofExcept (Reply.checked name (resolver (.text name) s.source).1) :
    Expansion σ (Option Text)).run _ = _
  cases Reply.checked name (resolver (.text name) s.source).1 <;> rfl

section Within

variable {body : Text} {s : Session σ} {work : Expansion σ α}

/-- A body that is being expanded already is refused. -/
theorem run_within_of_mem (h : body ∈ s.active) :
    (within body work).run s = (.error (.circular (.text body)), s) := by
  have henter : (enter body).run s = (.error (.circular (.text body)), s) := by
    rw [enter, run_bind]
    show (ite (body ∈ s.active) _ _ : Expansion σ Unit).run s = _
    rw [if_pos h]
    rfl
  rw [within, run_bind, henter]

/-- Work on a body is done with the body marked, and the mark goes where the work succeeds. -/
theorem run_within_of_not_mem (h : body ∉ s.active) :
    (within body work).run s =
      match work.run { s with active := body :: s.active } with
      | (.ok a, s') => (.ok a, { s' with active := s'.active.erase body })
      | (.error failure, s') => (.error failure, s') := by
  have henter : (enter body).run s = (.ok (), { s with active := body :: s.active }) := by
    rw [enter, run_bind]
    show (ite (body ∈ s.active) _ _ : Expansion σ Unit).run s = _
    rw [if_neg h]
    rfl
  rw [within, run_bind, henter]
  dsimp only
  rw [run_bind]
  rcases work.run { s with active := body :: s.active } with ⟨outcome, s'⟩
  cases outcome <;> rfl

end Within

/-! ## Runs with a resolver of fixed answers -/

variable {active : List Text}

/-- A computation that, with such bodies being expanded, comes to a transcript. -/
def Follows (active : List Text) (x : Expansion (List Text) α) (t : Transcript α) : Prop :=
  ∀ ledger : Ledger (List Text), ∃ left : List Text,
    x.run ⟨ledger, active⟩ =
      (t.outcome, ⟨⟨ledger.source ++ t.asked, ledger.log ++ t.log⟩, left⟩) ∧
    ∀ a, t.outcome = .ok a → left = active

/-- A computation that adds nothing to the record and the log follows its outcome. -/
theorem follows_of_run {x : Expansion (List Text) α} {outcome : Except Failure α}
    (h : ∀ ledger, x.run ⟨ledger, active⟩ = (outcome, ⟨ledger, active⟩)) :
    Follows active x ⟨outcome, [], []⟩ := by
  intro ledger
  refine ⟨active, ?_, fun _ _ => rfl⟩
  rw [h, List.append_nil, List.append_nil]

/-- A sequence follows the sequence of the transcripts of its parts. -/
theorem follows_bind {x : Expansion (List Text) α} {t : Transcript α}
    {f : α → Expansion (List Text) β} {g : α → Transcript β} (hx : Follows active x t)
    (hf : ∀ a, Follows active (f a) (g a)) : Follows active (x >>= f) (t >>= g) := by
  intro ledger
  obtain ⟨left, hrun, hleft⟩ := hx ledger
  rw [run_bind, hrun]
  cases ht : t.outcome with
  | error failure =>
    rw [Transcript.bind_of_error ht]
    exact ⟨left, rfl, fun a ha => by cases ha⟩
  | ok a =>
    rw [Transcript.bind_of_ok ht, hleft a ht]
    obtain ⟨left', hrun', hleft'⟩ := hf a ⟨ledger.source ++ t.asked, ledger.log ++ t.log⟩
    refine ⟨left', ?_, hleft'⟩
    dsimp only
    rw [hrun', List.append_assoc, List.append_assoc]

/-- The engine in lockstep with the transcripts of its runs. -/
def following (active : List Text) : Lockstep (Expansion (List Text)) Transcript where
  Rel := Follows active
  rel_pure _ := follows_of_run fun _ => rfl
  rel_throw _ := follows_of_run fun _ => rfl
  rel_bind := follows_bind

/-- A question follows its transcript. -/
theorem follows_ask (answer : Text → Reply) (name : Text) :
    Follows active (ask (Resolver.recording answer) name) (Transcript.ask answer name) := by
  intro ledger
  refine ⟨active, ?_, fun _ _ => rfl⟩
  rw [run_ask, Transcript.ask, List.append_nil]
  rfl

/-- The entry for a placeholder follows its transcript. -/
theorem follows_recordSubstitution (name : Text) :
    Follows active (recordSubstitution name) (Transcript.recordSubstitution name) := by
  intro ledger
  refine ⟨active, ?_, fun _ _ => rfl⟩
  rw [Transcript.recordSubstitution, List.append_nil]
  rfl

/-- Work on a body follows the transcript of the work where the body is new, and else that of a
refusal. -/
theorem follows_within {body : Text} {work : Expansion (List Text) α} {t : Transcript α}
    (h : Follows (body :: active) work t) :
    Follows active (within body work)
      (if body ∈ active then throw (.circular (.text body)) else t) := by
  by_cases hmem : body ∈ active
  · rw [if_pos hmem]
    exact follows_of_run fun ledger => run_within_of_mem hmem
  · rw [if_neg hmem]
    intro ledger
    obtain ⟨left, hrun, hleft⟩ := h ledger
    rw [run_within_of_not_mem hmem, hrun]
    cases ht : t.outcome with
    | error failure => exact ⟨left, rfl, fun a ha => by cases ha⟩
    | ok a =>
      refine ⟨active, ?_, fun _ _ => rfl⟩
      rw [hleft a ht]
      dsimp only
      rw [List.erase_cons_head]

end Expansion

end Interpolation
