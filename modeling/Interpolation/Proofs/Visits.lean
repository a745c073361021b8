import Interpolation.Proofs.Interchange

/-!
# The visits of an expansion

An expansion calls itself for the bodies and the values of placeholders.  Each call is a *visit*: a
text that is expanded at some depth, while certain bodies are being expanded.  `expandNoting` is the
engine with one thing more: it begins every call with a note of the visit.  The notes are kept
beside the state of the resolver, where the engine does not look, so but for the notes it is the
engine (`runNoting_run`).

What holds of all visits is proved by going over the engine's parts.
`Ensures before x after failed` says that `x`, from a session of which `before` holds, ends in one
of which `after` holds, or fails in one of which `failed` holds; there is one rule for each part.
-/

set_option autoImplicit false

namespace Interpolation

/-! ## Noting visits -/

/-- A call of the engine: a text, how deep it stands, and the bodies that are being expanded. -/
structure Visit where
  depth : Nat
  active : List Text
  value : Text

variable {σ α β : Type}

/-- A resolver beside a list of notes, which it leaves alone. -/
def Resolver.besideNotes (resolver : Resolver σ) : Resolver (σ × List Visit) := fun name state =>
  ((resolver name state.1).1, ((resolver name state.1).2, state.2))

/-- A resolver beside notes is in step with the resolver. -/
theorem Resolver.inStep_besideNotes (resolver : Resolver σ) :
    Resolver.InStep (fun noted s => noted.1 = s) resolver.besideNotes resolver := by
  rintro name noted s rfl
  exact ⟨rfl, rfl⟩

namespace Expansion

/-- Notes a visit. -/
def noteVisit (depth : Nat) (value : Text) : Expansion (σ × List Visit) Unit :=
  modify fun s =>
    { s with source := (s.source.1, s.source.2 ++ [⟨depth, s.active, value⟩]) }

/-- Expands a text as `expand` does, at some depth, and notes every visit. -/
def expandNoting (dialect : Dialect) (resolver : Resolver σ) (limit : Value) :
    (depth room : Nat) → Text → Expansion (σ × List Visit) Text
  | depth, 0, value => do
    noteVisit depth value
    throw (.tooDeep limit (.text value))
  | depth, room + 1, value => do
    noteVisit depth value
    spliceFrom dialect (fun body start =>
      within body (fillIn dialect (ask resolver.besideNotes) recordSubstitution
        (expandNoting dialect resolver limit (depth + 1) room) value body start)) value 0

/-- A note is seen only in the notes. -/
theorem simulates_noteVisit_bind {x : Expansion (σ × List Visit) α} {y : Expansion σ α}
    (h : Simulates (fun noted s => noted.1 = s) x y) (depth : Nat) (value : Text) :
    Simulates (fun noted s => noted.1 = s) (noteVisit depth value >>= fun _ => x) y := by
  intro s t halike
  exact h { s with source := (s.source.1, s.source.2 ++ [⟨depth, s.active, value⟩]) } t
    ⟨halike.source, halike.log, halike.active⟩

/-- But for the notes, the engine that notes its visits is the engine. -/
theorem simulates_expandNoting (dialect : Dialect) (resolver : Resolver σ) (limit : Value)
    (depth room : Nat) (value : Text) :
    Simulates (fun noted s => noted.1 = s)
      (expandNoting dialect resolver limit depth room value)
      (expand dialect resolver limit room value) := by
  induction room generalizing depth value with
  | zero => exact simulates_noteVisit_bind ((simulation _).rel_throw _) depth value
  | succ room ih =>
    rw [expandNoting, expand, spliceFrom_zero, spliceFrom_zero]
    apply simulates_noteVisit_bind
    apply (simulation _).rel_walkFrom
    intro body start
    apply Simulates.within
    exact (simulation _).rel_fillIn (simulates_ask resolver.inStep_besideNotes)
      simulates_recordSubstitution (ih (depth + 1)) value body start

/-! ## What computations ensure -/

/-- From sessions of one kind, a computation ends in sessions of another, or fails in sessions of a
third. -/
def Ensures (before : Session σ → Prop) (x : Expansion σ α) (after : α → Session σ → Prop)
    (failed : Failure → Session σ → Prop) : Prop :=
  ∀ s, before s →
    match x.run s with
    | (.ok a, s') => after a s'
    | (.error failure, s') => failed failure s'

section Ensures

variable {before : Session σ → Prop} {failed : Failure → Session σ → Prop}

theorem ensures_pure {after : α → Session σ → Prop} {a : α} (h : ∀ s, before s → after a s) :
    Ensures before (pure a) after failed :=
  h

theorem ensures_throw {after : α → Session σ → Prop} {failure : Failure}
    (h : ∀ s, before s → failed failure s) : Ensures before (throw failure) after failed :=
  h

/-- In a sequence, the second part starts where the first one ends. -/
theorem Ensures.bind {between : α → Session σ → Prop} {after : β → Session σ → Prop}
    {x : Expansion σ α} {f : α → Expansion σ β} (hx : Ensures before x between failed)
    (hf : ∀ a, Ensures (between a) (f a) after failed) :
    Ensures before (x >>= f) after failed := by
  intro s hs
  have hfirst := hx s hs
  rw [run_bind]
  rcases hrun : x.run s with ⟨outcome, s'⟩
  rw [hrun] at hfirst
  cases outcome with
  | error failure => exact hfirst
  | ok a => exact hf a s' hfirst

/-- A computation ensures what follows from what it ensures. -/
theorem Ensures.mono {after after' : α → Session σ → Prop} {x : Expansion σ α}
    (h : Ensures before x after failed) (himp : ∀ a s, after a s → after' a s) :
    Ensures before x after' failed := by
  intro s hs
  have hx := h s hs
  rcases hrun : x.run s with ⟨outcome, s'⟩
  rw [hrun] at hx
  cases outcome with
  | error failure => exact hx
  | ok a => exact himp a s' hx

/-- A pass keeps what the bodies of the text keep. -/
theorem ensures_walkFrom {dialect : Dialect} {replacement : Text → Nat → Expansion σ (Option Text)}
    {emitted unread : Text}
    (h : ∀ body ∈ dialect.bodies unread, ∀ start,
      Ensures before (replacement body start) (fun _ => before) failed) :
    Ensures before (walkFrom dialect replacement emitted unread) (fun _ => before) failed := by
  induction unread using dialect.placeholder_induction generalizing emitted with
  | rest unread hp =>
    rw [walkFrom_of_none hp]
    exact ensures_pure fun s hs => hs
  | placeholder unread p hp ih =>
    rw [Dialect.bodies_of_some hp, List.forall_mem_cons] at h
    rw [walkFrom_of_some hp]
    exact (h.1 _).bind fun insertion => ih h.2

/-- A look-up keeps what its questions keep. -/
theorem ensures_lookUp {dialect : Dialect} {ask : Text → Expansion σ (Option Text)}
    (hask : ∀ name, Ensures before (ask name) (fun _ => before) failed) (name : Text) :
    Ensures before (lookUp dialect ask name) (fun _ => before) failed := by
  unfold lookUp
  apply (hask name).bind
  intro found
  cases found with
  | some value => exact ensures_pure fun s hs => hs
  | none =>
    dsimp only
    cases dialect.separator.bind (Text.cutAt? · name) with
    | none => exact ensures_pure fun s hs => hs
    | some parts =>
      apply (hask parts.1).bind
      intro found
      exact ensures_pure fun s hs => hs

/-- What fills in a placeholder keeps what its body, its look-up, the values that can be found and
its record keep. -/
theorem ensures_fillIn {dialect : Dialect} {ask : Text → Expansion σ (Option Text)}
    {record : Text → Expansion σ Unit} {expandInner : Text → Expansion σ Text} {value body : Text}
    {start : Nat} {found : Text → Prop}
    (hbody : Ensures before (expandInner body) (fun _ => before) failed)
    (hlookUp : ∀ name, Ensures before (lookUp dialect ask name)
      (fun given s => before s ∧ ∀ value, given = some value → found value) failed)
    (hvalue : ∀ value, found value → Ensures before (expandInner value) (fun _ => before) failed)
    (hrecord : ∀ name, Ensures before (record name) (fun _ => before) failed)
    (hunfound : dialect.lenient = false → ∀ name s, before s →
      failed (.unresolvable (.text name) (.text value) (.int start)) s) :
    Ensures before (fillIn dialect ask record expandInner value body start) (fun _ => before)
      failed := by
  unfold fillIn
  apply hbody.bind
  intro name
  apply (hlookUp name).bind
  rintro (_ | given)
  · dsimp only
    split
    · exact ensures_pure fun s hs => hs.1
    · rename_i hlenient
      exact ensures_throw fun s hs => hunfound (Bool.eq_false_iff.mpr hlenient) name s hs.1
  · rintro s ⟨hs, hfound⟩
    have hinsert : Ensures before
        (expandInner given >>= fun insertion => record name >>= fun _ => pure (some insertion))
        (fun _ => before) failed := by
      apply (hvalue given (hfound given rfl)).bind
      intro insertion
      apply (hrecord name).bind
      intro _
      exact ensures_pure fun s hs => hs
    exact hinsert s hs

/-- A session in which such bodies are being expanded, and of whose ledger something holds. -/
def During (active : List Text) (holds : Ledger σ → Prop) (s : Session σ) : Prop :=
  s.active = active ∧ holds s.toLedger

variable {active : List Text} {holds : Ledger σ → Prop} {body : Text} {work : Expansion σ α}

/-- Work on a body keeps what it keeps with the body marked, if the body is new. -/
theorem ensures_within
    (hold : body ∈ active → ∀ s, During active holds s → failed (.circular (.text body)) s)
    (hnew : body ∉ active →
      Ensures (During (body :: active) holds) work (fun _ => During (body :: active) holds)
        failed) :
    Ensures (During active holds) (within body work) (fun _ => During active holds) failed := by
  rintro s ⟨rfl, hs⟩
  by_cases hmem : body ∈ s.active
  · rw [run_within_of_mem hmem]
    exact hold hmem s ⟨rfl, hs⟩
  · have hwork := hnew hmem { s with active := body :: s.active } ⟨rfl, hs⟩
    rw [run_within_of_not_mem hmem]
    rcases hrun : work.run { s with active := body :: s.active } with ⟨outcome, s'⟩
    rw [hrun] at hwork
    cases outcome with
    | error failure => exact hwork
    | ok a =>
      refine ⟨?_, hwork.2⟩
      show s'.active.erase body = s.active
      rw [hwork.1, List.erase_cons_head]

end Ensures

/-! ## What holds of all visits -/

/-- All visits that have been noted are of a kind. -/
def AllNoted (kind : Visit → Prop) (ledger : Ledger (σ × List Visit)) : Prop :=
  ∀ visit ∈ ledger.source.2, kind visit

/-- A visit is noted among the others, and all of them are still of a kind if it is. -/
theorem ensures_noteVisit {kind : Visit → Prop} {depth : Nat} {active : List Text} {value : Text}
    {failed : Failure → Session (σ × List Visit) → Prop} (h : kind ⟨depth, active, value⟩) :
    Ensures (During active (AllNoted kind)) (noteVisit depth value)
      (fun _ s => During active (AllNoted kind) s ∧ ⟨depth, active, value⟩ ∈ s.source.2)
      failed := by
  rintro s ⟨rfl, hs⟩
  refine ⟨⟨rfl, ?_⟩, List.mem_append_right _ List.mem_cons_self⟩
  intro visit hmem
  rcases List.mem_append.mp hmem with hmem | hmem
  · exact hs visit hmem
  · rw [List.mem_singleton.mp hmem]
    exact h

/-- All visits of an expansion are of a kind if the first one is, and if with a visit the visits are
that stand one level deeper, with one more body being expanded. -/
theorem ensures_expandNoting_allNoted {kind : Visit → Prop}
    (hdeeper : ∀ depth active value body value', kind ⟨depth, active, value⟩ → body ∉ active →
      kind ⟨depth + 1, body :: active, value'⟩)
    (dialect : Dialect) (resolver : Resolver σ) (limit : Value) (room : Nat) {depth : Nat}
    {active : List Text} {value : Text} (h : kind ⟨depth, active, value⟩) :
    Ensures (During active (AllNoted kind)) (expandNoting dialect resolver limit depth room value)
      (fun _ => During active (AllNoted kind)) (fun _ s => AllNoted kind s.toLedger) := by
  -- on the levels that are left: what a call finds is of the kind before it calls again
  induction room generalizing depth active value with
  | zero =>
    rw [expandNoting]
    apply (ensures_noteVisit h).bind
    intro _
    exact ensures_throw fun s hs => hs.1.2
  | succ room ih =>
    rw [expandNoting, spliceFrom_zero]
    apply (ensures_noteVisit h).bind
    intro _ s hs
    refine ensures_walkFrom ?_ s hs.1
    intro body _ start
    apply ensures_within
    · exact fun _ s hs => hs.2
    · intro hnew
      have hinner := fun value' => ih (hdeeper depth active value body value' h hnew)
      refine ensures_fillIn (hinner body) (fun name => ?_) (fun found (_ : True) => hinner found)
        (fun name s hs => hs) (fun _ name s hs => hs.2)
      apply (ensures_lookUp ?_ name).mono
      · exact fun found s hs => ⟨hs, fun _ _ => trivial⟩
      · intro name s hs
        rw [run_ask]
        cases (resolver.besideNotes (.text name) s.source).1.checked name with
        | error failure => exact hs.2
        | ok found => exact hs

end Expansion

namespace Expander

open Expansion

/-- Expands a text as `run` does, and notes every visit. -/
def runNoting (e : Expander) (resolver : Resolver σ) (text : Text) :
    Work Failure (σ × List Visit) Text :=
  ExceptT.mk fun ledger =>
    let (outcome, session) :=
      expandNoting e.dialect resolver e.given 0 (e.limit + 1) text ⟨ledger, []⟩
    (outcome, session.toLedger)

/-- A run that notes its visits begins with no body being expanded. -/
theorem run_runNoting (e : Expander) (resolver : Resolver σ) (text : Text)
    (ledger : Ledger (σ × List Visit)) :
    (e.runNoting resolver text).run ledger =
      (((expandNoting e.dialect resolver e.given 0 (e.limit + 1) text).run ⟨ledger, []⟩).1,
        ((expandNoting e.dialect resolver e.given 0 (e.limit + 1) text).run
          ⟨ledger, []⟩).2.toLedger) :=
  rfl

/-- But for the notes, the run that notes its visits is the run. -/
theorem runNoting_run (e : Expander) (resolver : Resolver σ) (text : Text) (ledger : Ledger σ)
    (notes : List Visit) :
    let run := (e.replace (.text text) (.usable resolver)).run ledger
    let noted := (e.runNoting resolver text).run ⟨(ledger.source, notes), ledger.log⟩
    noted.1 = run.1 ∧ noted.2.source.1 = run.2.source ∧ noted.2.log = run.2.log := by
  obtain ⟨houtcome, halike⟩ :=
    simulates_expandNoting e.dialect resolver e.given 0 (e.limit + 1) text
      ⟨⟨(ledger.source, notes), ledger.log⟩, []⟩ ⟨ledger, []⟩ ⟨rfl, rfl, rfl⟩
  exact ⟨houtcome, halike.source, halike.log⟩

end Expander

end Interpolation
