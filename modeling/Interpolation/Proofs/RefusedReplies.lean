import Interpolation.Proofs.Outcome
import Interpolation.Proofs.Splicing
import Interpolation.Proofs.Visits

/-!
# Refused replies

A resolver may reply to a name with a value that is no text.  The engine refuses such a reply at
once: the run that has asked for the name fails with a bad argument.

`Resolver.noting` is a resolver that also notes what it is asked and what it replies.  The engine
does not look at the notes, so with it the run is the same but for them, and what the run has met
can be read off them.  `ensures_expand_noting` says that as long as a run goes on nothing that it
has noted is refused, and that where it fails it has noted such a reply if, and only if, it fails
with a bad argument.

From this `report_of_replace` tells bad arguments from other failures: those of the text and of the
resolver that are given, and the refused replies.  A report passes on the former and holds the
latter.
-/

set_option autoImplicit false

namespace Interpolation

variable {σ : Type}

/-! ## What is noted of a resolver -/

/-- A question to a resolver, with its reply. -/
structure Exchange where
  name : Text
  reply : Reply

/-- A resolver that also notes what it is asked and what it replies. -/
def Resolver.noting (resolver : Resolver σ) : Resolver (σ × List Exchange) := fun name state =>
  ((resolver name state.1).1,
    ((resolver name state.1).2, state.2 ++ [⟨name.plain, (resolver name state.1).1⟩]))

/-- But for its notes, a resolver that makes notes is in step with the resolver. -/
theorem Resolver.inStep_noting (resolver : Resolver σ) :
    Resolver.InStep (fun noted s => noted.1 = s) resolver.noting resolver := by
  rintro name noted s rfl
  exact ⟨rfl, rfl⟩

/-- A resolver that always replies, be it with nothing. -/
def Resolver.AlwaysReplies (resolver : Resolver σ) : Prop :=
  ∀ name s fault, (resolver (.text name) s).1 ≠ .fault fault

/-- A reply that the engine refuses. -/
def Reply.IsRefused (reply : Reply) : Prop :=
  ∃ value, reply = .other value

/-- No reply that has been noted is refused. -/
def NoneRefused (ledger : Ledger (σ × List Exchange)) : Prop :=
  ∀ exchange ∈ ledger.source.2, ¬ exchange.reply.IsRefused

/-! ## What a run fails with -/

/-- The failure of an argument that the engine cannot work with. -/
def Failure.IsBadArgument (failure : Failure) : Prop :=
  ∃ reason, failure = .badArgument reason

/-- The failures of runs in a dialect and under a limit, with a resolver that always replies. -/
inductive Failure.OfRun (dialect : Dialect) (limit : Value) : Failure → Prop
  | badArgument (reason : BadArgument) : OfRun dialect limit (.badArgument reason)
  /-- A body stands inside its own expansion. -/
  | circular (body : Text) : OfRun dialect limit (.circular (.text body))
  /-- A placeholder has no value and may not stay. -/
  | unresolvable (name value : Text) (start : Nat) : dialect.lenient = false →
    OfRun dialect limit (.unresolvable (.text name) (.text value) (.int start))
  /-- There are no levels left for a text. -/
  | tooDeep (value : Text) : OfRun dialect limit (.tooDeep limit (.text value))

namespace Expansion

variable {dialect : Dialect} {limit : Value} {active : List Text} {resolver : Resolver σ}

/-- A run fails in one of its ways, and with a bad argument where it has noted a refused reply. -/
def FailsNoted (dialect : Dialect) (limit : Value) (failure : Failure)
    (s : Session (σ × List Exchange)) : Prop :=
  failure.OfRun dialect limit ∧
    (failure.IsBadArgument ↔ ∃ exchange ∈ s.source.2, exchange.reply.IsRefused)

/-- A run that has noted no refused reply may fail in a way that is no bad argument. -/
theorem failsNoted_of_noneRefused {failure : Failure} (hway : failure.OfRun dialect limit)
    (hother : ¬ failure.IsBadArgument) {s : Session (σ × List Exchange)}
    (hs : NoneRefused s.toLedger) : FailsNoted dialect limit failure s := by
  refine ⟨hway, iff_of_false hother ?_⟩
  rintro ⟨exchange, hmem, hrefused⟩
  exact hs exchange hmem hrefused

/-- A question fails only where its reply is refused, and the reply is noted. -/
theorem ensures_ask_noting (hreplies : resolver.AlwaysReplies) (name : Text) :
    Ensures (During active NoneRefused) (ask resolver.noting name)
      (fun _ => During active NoneRefused) (FailsNoted dialect limit) := by
  rintro s ⟨hactive, hs⟩
  have hnoted : ∀ reply : Reply, (resolver (.text name) s.source.1).1 = reply →
      (resolver.noting (.text name) s.source).2.2 = s.source.2 ++ [⟨name, reply⟩] := by
    rintro reply rfl
    rfl
  have hkept : ∀ reply : Reply, (resolver (.text name) s.source.1).1 = reply →
      ¬ reply.IsRefused →
      ∀ exchange ∈ (resolver.noting (.text name) s.source).2.2, ¬ exchange.reply.IsRefused := by
    intro reply hreply haccepted
    rw [hnoted reply hreply, List.forall_mem_append]
    exact ⟨hs, List.forall_mem_singleton.mpr haccepted⟩
  rw [run_ask, show (resolver.noting (.text name) s.source).1 =
    (resolver (.text name) s.source.1).1 from rfl]
  cases hreply : (resolver (.text name) s.source.1).1 with
  | absent => exact ⟨hactive, hkept _ hreply nofun⟩
  | text value => exact ⟨hactive, hkept _ hreply nofun⟩
  | other value =>
    refine ⟨.badArgument _, iff_of_true ⟨_, rfl⟩ ⟨⟨name, .other value⟩, ?_, value, rfl⟩⟩
    show _ ∈ (resolver.noting (.text name) s.source).2.2
    rw [hnoted _ hreply]
    exact List.mem_append_right _ List.mem_cons_self
  | fault fault => exact absurd hreply (hreplies name s.source.1 fault)

/-- An expansion that has noted no refused reply goes on to note none, or it fails: with a bad
argument if it has noted one, and else in another way. -/
theorem ensures_expand_noting (hreplies : resolver.AlwaysReplies) (room : Nat)
    (active : List Text) (value : Text) :
    Ensures (During active NoneRefused) (expand dialect resolver.noting limit room value)
      (fun _ => During active NoneRefused) (FailsNoted dialect limit) := by
  induction room generalizing active value with
  | zero =>
    apply ensures_throw
    intro s hs
    exact failsNoted_of_noneRefused (.tooDeep value) (by rintro ⟨_, ⟨⟩⟩) hs.2
  | succ room ih =>
    rw [expand, spliceFrom_zero]
    apply ensures_walkFrom
    intro body _ start
    apply ensures_within
    · intro _ s hs
      exact failsNoted_of_noneRefused (.circular body) (by rintro ⟨_, ⟨⟩⟩) hs.2
    · intro _
      have hinner : ∀ text, Ensures (During (body :: active) NoneRefused)
          (expand dialect resolver.noting limit room text)
          (fun _ => During (body :: active) NoneRefused) (FailsNoted dialect limit) :=
        ih (body :: active)
      refine ensures_fillIn (hinner body) (fun name => ?_) (fun found (_ : True) => hinner found)
        ?_ ?_
      · apply (ensures_lookUp (ensures_ask_noting hreplies) name).mono
        exact fun found s hs => ⟨hs, fun _ _ => trivial⟩
      · exact fun name s hs => hs
      · intro hlenient name s hs
        exact failsNoted_of_noneRefused (.unresolvable name value start hlenient)
          (by rintro ⟨_, ⟨⟩⟩) hs.2

end Expansion

/-! ## Offers and reports -/

/-- The offer of what becomes of a resolver, where one is offered. -/
def Offer.map {ρ τ : Type} (f : ρ → τ) : Offer ρ → Offer τ
  | missing => missing
  | unusable kind => unusable kind
  | usable resolver => usable (f resolver)

namespace Expander

open Expansion

/-- A run that succeeds has noted no refused reply, and one that fails has noted one where it fails
with a bad argument. -/
theorem replace_noting (e : Expander) {resolver : Resolver σ} (hreplies : resolver.AlwaysReplies)
    (text : Text) (ledger : Ledger σ) :
    match (e.replace (.text text) (.usable resolver.noting)).run
      ⟨(ledger.source, []), ledger.log⟩ with
    | (.ok _, noted) => NoneRefused noted
    | (.error failure, noted) => failure.OfRun e.dialect e.given ∧
        (failure.IsBadArgument ↔ ∃ exchange ∈ noted.source.2, exchange.reply.IsRefused) := by
  have hexpand : Ensures (During [] NoneRefused)
      (expand e.dialect resolver.noting e.given (e.limit + 1) text)
      (fun _ => During [] NoneRefused) (FailsNoted e.dialect e.given) :=
    ensures_expand_noting hreplies (e.limit + 1) [] text
  have hrun := hexpand ⟨⟨(ledger.source, []), ledger.log⟩, []⟩
    ⟨rfl, fun exchange hmem => absurd hmem List.not_mem_nil⟩
  have hnoted : (e.replace (.text text) (.usable resolver.noting)).run
      ⟨(ledger.source, []), ledger.log⟩ =
      (((expand e.dialect resolver.noting e.given (e.limit + 1) text).run
          ⟨⟨(ledger.source, []), ledger.log⟩, []⟩).1,
        ((expand e.dialect resolver.noting e.given (e.limit + 1) text).run
          ⟨⟨(ledger.source, []), ledger.log⟩, []⟩).2.toLedger) :=
    rfl
  rw [hnoted]
  rcases hpair : (expand e.dialect resolver.noting e.given (e.limit + 1) text).run
    ⟨⟨(ledger.source, []), ledger.log⟩, []⟩ with ⟨outcome, s⟩
  rw [hpair] at hrun
  cases outcome with
  | ok result => exact hrun.2
  | error failure => exact hrun

/-- What a report comes to. -/
theorem run_report (e : Expander) (text : Value) (offer : Offer (Resolver σ)) (ledger : Ledger σ) :
    (e.report text offer).run ledger =
      match (e.replace text offer).run ledger with
      | (.ok result, left) => (.ok ⟨result, none, true⟩, left)
      | (.error (.badArgument reason), left) => (.error (.badArgument reason), left)
      | (.error (.sourceFault fault), left) => (.error (.sourceFault fault), left)
      | (.error failure, left) =>
        (.ok ⟨[], some failure.message, false⟩,
          { left with
            log := left.log ++ [⟨.debug, "Error in parse: ".text ++ failure.message⟩] }) := by
  rw [report, ExceptT.run_mk]
  show StateT.bind (e.replace text offer).run _ ledger = _
  unfold StateT.bind
  rcases (e.replace text offer).run ledger with ⟨outcome, left⟩
  cases outcome with
  | ok result => rfl
  | error failure => cases failure <;> rfl

/-- A run with a resolver that makes notes is the run with the resolver, but for the notes. -/
theorem replace_map_noting (e : Expander) (text : Value) (offer : Offer (Resolver σ))
    (ledger : Ledger σ) :
    let run := (e.replace text offer).run ledger
    let noted := (e.replace text (offer.map Resolver.noting)).run ⟨(ledger.source, []), ledger.log⟩
    noted.1 = run.1 ∧ noted.2.source.1 = run.2.source ∧ noted.2.log = run.2.log := by
  cases text <;> cases offer
  case text.usable text resolver =>
    exact e.replace_of_inStep resolver.inStep_noting text ⟨(ledger.source, []), ledger.log⟩ ledger
      rfl rfl
  all_goals exact ⟨rfl, rfl, rfl⟩

/-- What is bad in the arguments of a run, or in a reply that it has noted. -/
inductive MeetsBadArgument (text : Value) (offer : Offer (Resolver σ))
    (noted : Ledger (σ × List Exchange)) : Prop
  | text : (∀ t, text ≠ .text t) → MeetsBadArgument text offer noted
  | resolver : (∀ resolver, offer ≠ .usable resolver) → MeetsBadArgument text offer noted
  | reply (exchange : Exchange) : exchange ∈ noted.source.2 → exchange.reply.IsRefused →
    MeetsBadArgument text offer noted

/-- A run fails in one of its ways, and with a bad argument where it meets one. -/
theorem replace_fails (e : Expander) (text : Value) (offer : Offer (Resolver σ))
    (hreplies : ∀ resolver, offer = .usable resolver → resolver.AlwaysReplies)
    (ledger : Ledger σ) :
    let noted := (e.replace text (offer.map Resolver.noting)).run ⟨(ledger.source, []), ledger.log⟩
    (∀ failure, noted.1 = .error failure → failure.OfRun e.dialect e.given) ∧
    ((∃ reason, noted.1 = .error (.badArgument reason)) ↔
      MeetsBadArgument text offer noted.2) := by
  have hgiven : ∀ (reason : BadArgument) (left : Ledger (σ × List Exchange)),
      MeetsBadArgument text offer left →
      let noted : Except Failure Text × Ledger (σ × List Exchange) :=
        (.error (.badArgument reason), left)
      (∀ failure, noted.1 = .error failure → failure.OfRun e.dialect e.given) ∧
      ((∃ reason, noted.1 = .error (.badArgument reason)) ↔
        MeetsBadArgument text offer noted.2) := by
    intro reason left hwrong
    refine ⟨?_, iff_of_true ⟨reason, rfl⟩ hwrong⟩
    rintro _ ⟨⟩
    exact .badArgument reason
  cases text with
  | text text =>
    cases offer with
    | missing => exact hgiven _ _ (.resolver nofun)
    | unusable kind => exact hgiven _ _ (.resolver nofun)
    | usable resolver =>
      have hrun := e.replace_noting (hreplies resolver rfl) text ledger
      dsimp only [Offer.map]
      rcases hnoted : (e.replace (.text text) (.usable resolver.noting)).run
        ⟨(ledger.source, []), ledger.log⟩ with ⟨outcome, noted⟩
      rw [hnoted] at hrun
      -- the arguments are good, so what is bad can only be a reply
      have hmeets : MeetsBadArgument (.text text) (.usable resolver) noted ↔
          ∃ exchange ∈ noted.source.2, exchange.reply.IsRefused := by
        constructor
        · rintro (htext | hresolver | ⟨exchange, hmem, hrefused⟩)
          · exact absurd rfl (htext text)
          · exact absurd rfl (hresolver resolver)
          · exact ⟨exchange, hmem, hrefused⟩
        · rintro ⟨exchange, hmem, hrefused⟩
          exact .reply exchange hmem hrefused
      rw [hmeets]
      cases outcome with
      | ok result =>
        refine ⟨nofun, iff_of_false nofun ?_⟩
        rintro ⟨exchange, hmem, hrefused⟩
        exact hrun exchange hmem hrefused
      | error failure =>
        obtain ⟨hway, hbad⟩ := hrun
        refine ⟨?_, ?_⟩
        · rintro _ ⟨⟩
          exact hway
        · simp only [Except.error.injEq]
          exact hbad
  | _ => exact hgiven _ _ (.text nofun)

/-- What a report is of the run that it reports: it asks the same, passes on bad arguments only,
and holds what the run gives, or else the wording of the failure, which it puts into the log. -/
structure Reports (run : Except Failure Text × Ledger σ)
    (reported : Except Failure Report × Ledger σ) : Prop where
  source_eq : reported.2.source = run.2.source
  passes_on : ∀ failure, reported.1 = .error failure ↔
    failure.IsBadArgument ∧ run.1 = .error failure
  gives : ∀ result, reported.1 = .ok ⟨result, none, true⟩ ↔ run.1 = .ok result
  holds : ∀ failure, run.1 = .error failure → ¬ failure.IsBadArgument →
    reported.1 = .ok ⟨[], some failure.message, false⟩ ∧
    reported.2.log = run.2.log ++ [⟨.debug, "Error in parse: ".text ++ failure.message⟩]
  log_eq : (∀ failure, run.1 = .error failure → failure.IsBadArgument) →
    reported.2.log = run.2.log

/-- A report is of its run, where that fails in one of the ways of runs. -/
theorem reports_report (e : Expander) (text : Value) (offer : Offer (Resolver σ))
    (ledger : Ledger σ)
    (hways : ∀ failure, ((e.replace text offer).run ledger).1 = .error failure →
      failure.OfRun e.dialect e.given) :
    Reports ((e.replace text offer).run ledger) ((e.report text offer).run ledger) := by
  rw [run_report]
  rcases hrun : (e.replace text offer).run ledger with ⟨outcome, left⟩
  rw [hrun] at hways
  cases outcome with
  | ok result =>
    exact {
      source_eq := rfl
      passes_on := fun failure => iff_of_false nofun fun h => nomatch h.2
      gives := fun result' => by simp
      holds := nofun
      log_eq := fun _ => rfl }
  | error failure =>
    cases hways failure rfl with
    | badArgument reason =>
      refine ⟨rfl, fun failure => ⟨?_, ?_⟩, fun result => iff_of_false nofun nofun, ?_,
        fun _ => rfl⟩
      · rintro ⟨⟩
        exact ⟨⟨reason, rfl⟩, rfl⟩
      · rintro ⟨-, ⟨⟩⟩
        rfl
      · rintro _ ⟨⟩ hother
        exact absurd ⟨reason, rfl⟩ hother
    | circular | unresolvable | tooDeep =>
      refine ⟨rfl, fun failure => iff_of_false nofun ?_, fun result => by simp, ?_, fun hbad => ?_⟩
      · rintro ⟨⟨reason, rfl⟩, ⟨⟩⟩
      · rintro _ ⟨⟩ -
        exact ⟨rfl, rfl⟩
      · obtain ⟨reason, ⟨⟩⟩ := hbad _ rfl

/-- With a resolver that always replies, a run gives a text or fails in one of its ways: with a bad
argument where no text is given, or no resolver, or where it meets a refused reply.  The report of
the run fails with its bad arguments only. -/
theorem report_of_replace (e : Expander) (text : Value) (offer : Offer (Resolver σ))
    (hreplies : ∀ resolver, offer = .usable resolver → resolver.AlwaysReplies)
    (ledger : Ledger σ) :
    let run := (e.replace text offer).run ledger
    let noted := (e.replace text (offer.map Resolver.noting)).run ⟨(ledger.source, []), ledger.log⟩
    (noted.1 = run.1 ∧ noted.2.source.1 = run.2.source ∧ noted.2.log = run.2.log) ∧
    (∀ failure, run.1 = .error failure → failure.OfRun e.dialect e.given) ∧
    ((∃ reason, run.1 = .error (.badArgument reason)) ↔ MeetsBadArgument text offer noted.2) ∧
    Reports run ((e.report text offer).run ledger) := by
  have hnotes := e.replace_map_noting text offer ledger
  obtain ⟨hways, hbad⟩ := e.replace_fails text offer hreplies ledger
  dsimp only at hnotes hways hbad ⊢
  rw [hnotes.1] at hways hbad
  exact ⟨hnotes, hways, hbad, e.reports_report text offer ledger hways⟩

/-- Of a placeholder whose name is answered with a number, the run meets that answer. -/
theorem report_of_replace_number :
    let e : Expander := ⟨.shell, 64, by decide, by decide, .int 64⟩
    let text := Dialect.shell.written "a".text
    let offer := Offer.usable (Resolver.recording fun _ => .other (.int 5))
    (∀ resolver, offer = .usable resolver → resolver.AlwaysReplies) ∧
    ((e.replace (.text text) offer).run ⟨[], []⟩).1 =
      .error (.badArgument (.answerOfKind "int" "a".text)) ∧
    MeetsBadArgument (.text text) offer
      ((e.replace (.text text) (offer.map Resolver.noting)).run ⟨([], []), []⟩).2 := by
  intro e text offer
  have hreplies : ∀ resolver, offer = .usable resolver → resolver.AlwaysReplies := by
    intro resolver h
    cases Offer.usable.inj h
    exact nofun
  have htext : Dialect.shell.firstPlaceholder? text = some ⟨[], "a".text, []⟩ :=
    by with_unfolding_all rfl
  have hname : Dialect.shell.firstPlaceholder? "a".text = none := by rfl
  have hrun : ((e.replace (.text text) offer).run ⟨[], []⟩).1 =
      .error (.badArgument (.answerOfKind "int" "a".text)) := by
    rw [replace_run]
    dsimp only
    rw [transcript, guarded_succ, walkFrom_of_some htext, fillInGuarded, if_neg List.not_mem_nil,
      Transcript.outcome_bind_eq_error_iff]
    refine .inl ?_
    rw [fillIn, Transcript.bind_of_ok (congrArg Transcript.outcome (singlePass_of_none hname)),
      Transcript.bind_of_error rfl]
    rfl
  have h := e.report_of_replace (.text text) offer hreplies ⟨[], []⟩
  exact ⟨hreplies, hrun, h.2.2.1.mp ⟨_, hrun⟩⟩

end Expander

end Interpolation
