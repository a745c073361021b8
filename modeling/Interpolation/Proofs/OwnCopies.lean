import Interpolation.Proofs.Visits

/-!
# Every expansion with its own bodies

The engine keeps the bodies that are being expanded in one place for a whole run.  It adds a body
before it expands the body and its value, and takes it away behind them, unless one of them fails.
So an expansion that comes to an end leaves the bodies as it has found them, and a call of the
engine finds those of the calls that it stands in, no more and no less.

`expandCopying` is the engine without that place: every call is given its own bodies, and nothing is
taken away.  It works with nothing but the ledger.  `mirrors_expand` says that the two do the same,
with any resolver, also one whose answers change, and that the bodies are put back; and
`ensures_expandNoting_extends` says which bodies the calls find.
-/

set_option autoImplicit false

namespace Interpolation

variable {σ α β : Type}

/-! ## An engine that hands on copies -/

namespace Work

/-- The value that a resolver has for a name, asked where there is only a ledger. -/
def ask (resolver : Resolver σ) (name : Text) : Work Failure σ (Option Text) := do
  let reply ← modifyGet fun ledger =>
    let (reply, source) := resolver (.text name) ledger.source
    (reply, { ledger with source })
  MonadExcept.ofExcept (reply.checked name)

/-- Makes the entry for a placeholder that has been replaced, where there is only a ledger. -/
def recordSubstitution (name : Text) : Work Failure σ Unit :=
  modify fun ledger => { ledger with log := ledger.log ++ [.substituted name] }

theorem run_ask (resolver : Resolver σ) (name : Text) (ledger : Ledger σ) :
    (ask resolver name).run ledger =
      ((resolver (.text name) ledger.source).1.checked name,
        { ledger with source := (resolver (.text name) ledger.source).2 }) := by
  rw [ask, run_bind]
  show (MonadExcept.ofExcept (Reply.checked name (resolver (.text name) ledger.source).1) :
    Work Failure σ (Option Text)).run _ = _
  cases Reply.checked name (resolver (.text name) ledger.source).1 <;> rfl

end Work

namespace Expansion

/-- Expands a text as `expand` does, but every call is given the bodies that it stands in: a call
for a body or its value gets a copy of them with the body added. -/
def expandCopying (dialect : Dialect) (resolver : Resolver σ) (limit : Value) :
    (room : Nat) → (active : List Text) → Text → Work Failure σ Text
  | 0, _, value => throw (.tooDeep limit (.text value))
  | room + 1, active, value =>
    spliceFrom dialect (fun body start =>
      if body ∈ active then throw (.circular (.text body))
      else fillIn dialect (Work.ask resolver) Work.recordSubstitution
        (expandCopying dialect resolver limit room (body :: active)) value body start) value 0

/-! ## The bodies are put back -/

/-- An expansion that, with such bodies being expanded, does what work without them does, and puts
them back where it succeeds. -/
def Mirrors (active : List Text) (x : Expansion σ α) (work : Work Failure σ α) : Prop :=
  ∀ ledger : Ledger σ, ∃ left : List Text,
    x.run ⟨ledger, active⟩ = ((work.run ledger).1, ⟨(work.run ledger).2, left⟩) ∧
    ∀ a, (work.run ledger).1 = .ok a → left = active

variable {active : List Text} {dialect : Dialect} {resolver : Resolver σ} {limit : Value}

theorem Mirrors.bind {x : Expansion σ α} {work : Work Failure σ α} {f : α → Expansion σ β}
    {g : α → Work Failure σ β} (hx : Mirrors active x work)
    (hf : ∀ a, Mirrors active (f a) (g a)) : Mirrors active (x >>= f) (work >>= g) := by
  intro ledger
  obtain ⟨left, hrun, hleft⟩ := hx ledger
  rw [run_bind, run_bind, hrun]
  rcases hwork : work.run ledger with ⟨outcome, ledger'⟩
  rw [hwork] at hleft
  cases outcome with
  | error failure => exact ⟨left, rfl, fun a ha => by cases ha⟩
  | ok a =>
    rw [hleft a rfl]
    exact hf a ledger'

/-- Expansions in lockstep with work that knows of no bodies. -/
def mirroring (active : List Text) : Lockstep (Expansion σ) (Work Failure σ) where
  Rel := Mirrors active
  rel_pure _ := fun _ => ⟨active, rfl, fun _ _ => rfl⟩
  rel_throw _ := fun _ => ⟨active, rfl, fun _ _ => rfl⟩
  rel_bind := Mirrors.bind

theorem mirrors_ask (resolver : Resolver σ) (name : Text) :
    Mirrors active (ask resolver name) (Work.ask resolver name) := by
  intro ledger
  refine ⟨active, ?_, fun _ _ => rfl⟩
  rw [run_ask, Work.run_ask]

theorem mirrors_recordSubstitution (name : Text) :
    Mirrors active (recordSubstitution name : Expansion σ Unit) (Work.recordSubstitution name) :=
  fun _ => ⟨active, rfl, fun _ _ => rfl⟩

/-- Work on a body, with the body marked in between, does what the work does where the body is
new. -/
theorem Mirrors.within {body : Text} {x : Expansion σ α} {work : Work Failure σ α}
    (h : Mirrors (body :: active) x work) :
    Mirrors active (within body x)
      (if body ∈ active then throw (.circular (.text body)) else work) := by
  intro ledger
  by_cases hmem : body ∈ active
  · rw [if_pos hmem, run_within_of_mem hmem]
    exact ⟨active, rfl, fun _ _ => rfl⟩
  · rw [if_neg hmem, run_within_of_not_mem hmem]
    obtain ⟨left, hrun, hleft⟩ := h ledger
    rw [hrun]
    rcases hwork : work.run ledger with ⟨outcome, ledger'⟩
    rw [hwork] at hleft
    cases outcome with
    | error failure => exact ⟨left, rfl, fun a ha => by cases ha⟩
    | ok a =>
      refine ⟨active, ?_, fun _ _ => rfl⟩
      rw [hleft a rfl]
      dsimp only
      rw [List.erase_cons_head]

/-- The engine does what the engine does that hands on copies, and puts the bodies back. -/
theorem mirrors_expand (dialect : Dialect) (resolver : Resolver σ) (limit : Value) (room : Nat)
    (active : List Text) (value : Text) :
    Mirrors active (expand dialect resolver limit room value)
      (expandCopying dialect resolver limit room active value) := by
  induction room generalizing active value with
  | zero => exact (mirroring active).rel_throw _
  | succ room ih =>
    rw [expand, expandCopying, spliceFrom_zero, spliceFrom_zero]
    apply (mirroring active).rel_walkFrom
    intro body start
    apply Mirrors.within
    exact (mirroring (body :: active)).rel_fillIn (mirrors_ask resolver) mirrors_recordSubstitution
      (ih (body :: active)) value body start

end Expansion

/-! ## The bodies that a call finds -/

/-- A visit that finds certain bodies, and as many others as it is deeper than a depth: these are
different from each other and from the former. -/
def Visit.Extends (visit : Visit) (depth : Nat) (active : List Text) : Prop :=
  ∃ more, visit.active = more ++ active ∧ visit.depth = depth + more.length ∧
    more.Nodup ∧ ∀ body ∈ more, body ∉ active

variable {depth depth' : Nat} {active active' : List Text}

theorem Visit.extends_self (depth : Nat) (active : List Text) (value : Text) :
    (Visit.mk depth active value).Extends depth active :=
  ⟨[], rfl, rfl, List.nodup_nil, fun _ hmem => absurd hmem List.not_mem_nil⟩

/-- One level deeper, a visit finds one body more. -/
theorem Visit.Extends.cons {value body : Text}
    (h : (Visit.mk depth' active' value).Extends depth active) (hnew : body ∉ active')
    (value' : Text) : (Visit.mk (depth' + 1) (body :: active') value').Extends depth active := by
  obtain ⟨more, hactive, hdepth, hnodup, hother⟩ := h
  dsimp only at hactive hdepth
  rw [hactive, List.mem_append, not_or] at hnew
  refine ⟨body :: more, ?_, ?_, List.nodup_cons.mpr ⟨hnew.1, hnodup⟩,
    List.forall_mem_cons.mpr ⟨hnew.2, hother⟩⟩
  · rw [hactive, List.cons_append]
  · rw [hdepth, List.length_cons, Nat.add_assoc]

namespace Expansion

variable {dialect : Dialect} {resolver : Resolver σ} {limit : Value}

/-- All visits of an expansion extend the first one. -/
theorem ensures_expandNoting_extends (dialect : Dialect) (resolver : Resolver σ) (limit : Value)
    (depth room : Nat) (active : List Text) (value : Text) :
    Ensures (During active (AllNoted (·.Extends depth active)))
      (expandNoting dialect resolver limit depth room value)
      (fun _ => During active (AllNoted (·.Extends depth active)))
      (fun _ s => AllNoted (·.Extends depth active) s.toLedger) := by
  apply ensures_expandNoting_allNoted
  · intro depth' active' value body value' h hnew
    exact h.cons hnew value'
  · exact Visit.extends_self depth active value

/-- The bodies that are being expanded are put back by every expansion that comes to an end,
whatever the resolver does.  Each call of the engine, also in a run that fails, finds those of the
first call and one more for each level that it is deeper.  And the run has the outcome of the run in
which every call is given a copy of its own, with all that its failure holds; the resolver is asked
the same, so that it ends in the same state, and the log is the same. -/
theorem expand_copying (dialect : Dialect) (resolver : Resolver σ) (limit : Value)
    (depth room : Nat) (active : List Text) (value : Text) (ledger : Ledger σ) :
    let run := (expand dialect resolver limit room value).run ⟨ledger, active⟩
    let noted := (expandNoting dialect resolver limit depth room value).run
      ⟨⟨(ledger.source, []), ledger.log⟩, active⟩
    let copying := (expandCopying dialect resolver limit room active value).run ledger
    (∀ text, run.1 = .ok text → run.2.active = active) ∧
    (noted.1 = run.1 ∧ noted.2.source.1 = run.2.source ∧ noted.2.log = run.2.log ∧
      noted.2.active = run.2.active) ∧
    (∀ visit ∈ noted.2.source.2, visit.Extends depth active) ∧
    copying.1 = run.1 ∧ copying.2 = run.2.toLedger := by
  intro run noted copying
  obtain ⟨left, hrun, hleft⟩ := mirrors_expand dialect resolver limit room active value ledger
  have houtcome : copying.1 = run.1 := (congrArg Prod.fst hrun).symm
  have hledger : copying.2 = run.2.toLedger := (congrArg (·.2.toLedger) hrun).symm
  refine ⟨?_, ?_, ?_, houtcome, hledger⟩
  · intro text hok
    have hactive : run.2.active = left := congrArg (·.2.active) hrun
    exact hactive.trans (hleft text (houtcome.trans hok))
  · obtain ⟨hsame, halike⟩ :=
      simulates_expandNoting dialect resolver limit depth room value
        ⟨⟨(ledger.source, []), ledger.log⟩, active⟩ ⟨ledger, active⟩ ⟨rfl, rfl, rfl⟩
    exact ⟨hsame, halike.source, halike.log, halike.active⟩
  · have hvisits := ensures_expandNoting_extends dialect resolver limit depth room active value
      ⟨⟨(ledger.source, []), ledger.log⟩, active⟩
      ⟨rfl, fun visit hmem => absurd hmem List.not_mem_nil⟩
    rcases hpair : (expandNoting dialect resolver limit depth room value).run
      ⟨⟨(ledger.source, []), ledger.log⟩, active⟩ with ⟨outcome, s⟩
    rw [hpair] at hvisits
    rw [show noted = _ from hpair]
    cases outcome with
    | ok text => exact hvisits.2
    | error failure => exact hvisits

end Expansion

end Interpolation
