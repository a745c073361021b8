import Interpolation.Proofs.SourceAnswers

/-!
# Chains that grow

A chain may be extended any number of times, and a call that extends it may be refused because of
one of its offers.  It has then appended those before it.  `acceptAll_eq` says which these are, for
one call, and `extendAll_chain` goes on to any sequence of calls: what a chain holds is only ever
added to at its end, so what it has had an answer to it answers the same.
-/

set_option autoImplicit false

namespace Interpolation

namespace Offer

variable {ρ : Type}

/-- What is offered, if it can answer names. -/
def usable? : Offer ρ → Option ρ
  | usable resolver => some resolver
  | _ => none

/-- What is offered before the first offer that cannot be used: all of it, if there is none. -/
def leading (offers : List (Offer ρ)) : List ρ :=
  (offers.takeWhile (·.usable?.isSome)).filterMap usable?

/-- Why an offer cannot be used, unless it can. -/
def refusal? : Offer ρ → Option BadArgument
  | missing => some .noSource
  | unusable kind => some (.sourceOfKind kind)
  | usable _ => none

/-- Offers are accepted up to the first that cannot be used, and refused because of that one. -/
theorem acceptAll_eq (offers : List (Offer ρ)) :
    acceptAll offers =
      (leading offers,
        match offers.findSome? refusal? with
        | none => .ok ()
        | some reason => .error reason) := by
  induction offers with
  | nil => rfl
  | cons offer rest ih =>
    cases offer with
    | missing => rfl
    | unusable kind => rfl
    | usable resolver =>
      have hleading : leading (usable resolver :: rest) = resolver :: leading rest := rfl
      have hrefusal : (usable resolver :: rest).findSome? refusal? = rest.findSome? refusal? := rfl
      rw [hleading, hrefusal, acceptAll, accept, ih]

end Offer

namespace Source

/-- A source after one call after the other that offers it more sources, and how the calls have
ended. -/
def extendAll (source : Source) :
    (calls : List (List (Offer Source))) → Source × List (Except ExtensionProblem Unit)
  | [] => (source, [])
  | offers :: calls =>
    let (extended, outcome) := source.extend offers
    let (final, outcomes) := extendAll extended calls
    (final, outcome :: outcomes)

/-- How a call ends that offers more sources to a chain. -/
def extensionOutcome (offers : List (Offer Source)) : Except ExtensionProblem Unit :=
  match offers.findSome? Offer.refusal? with
  | none => .ok ()
  | some reason => .error (.badOffer reason)

variable {sources : List Source}

/-- A call appends to a chain what is offered before the first offer that cannot be used. -/
theorem extend_chain (sources : List Source) (offers : List (Offer Source)) :
    (chain sources).extend offers =
      (chain (sources ++ Offer.leading offers), extensionOutcome offers) := by
  rw [extend, Offer.acceptAll_eq, extensionOutcome]
  cases offers.findSome? Offer.refusal? <;> rfl

theorem extendAll_chain_eq (sources : List Source) (calls : List (List (Offer Source))) :
    (chain sources).extendAll calls =
      (chain (sources ++ calls.flatMap Offer.leading), calls.map extensionOutcome) := by
  induction calls generalizing sources with
  | nil => rw [extendAll, List.flatMap_nil, List.append_nil, List.map_nil]
  | cons offers calls ih =>
    rw [extendAll, extend_chain]
    dsimp only
    rw [ih, List.flatMap_cons, List.append_assoc, List.map_cons]

/-- After any calls that extend a chain, whether or not they are refused, it holds what it has held,
and then, for one call after the other, what was offered before the first offer that could not be
used.  A call is refused exactly because of that offer.  A name that has had an answer at any time
has the same answer at the end, and the same sources are asked for it. -/
theorem extendAll_chain (sources : List Source) (calls : List (List (Offer Source))) :
    let after := (chain sources).extendAll calls
    after.1 = chain (sources ++ calls.flatMap Offer.leading) ∧
    after.2 = calls.map extensionOutcome ∧
    ∀ earlier, earlier <+: calls → ∀ (environment : Environment) (name : Value),
      let before := ((chain sources).extendAll earlier).1
      before.answer environment name ≠ .absent →
        after.1.answer environment name = before.answer environment name ∧
        after.1.lookups environment name = before.lookups environment name := by
  intro after
  have hafter : after = _ := extendAll_chain_eq sources calls
  rw [hafter]
  refine ⟨rfl, rfl, ?_⟩
  rintro earlier ⟨later, rfl⟩ environment name before hanswer
  have hbefore : before = chain (sources ++ earlier.flatMap Offer.leading) :=
    congrArg Prod.fst (extendAll_chain_eq sources earlier)
  rw [hbefore] at hanswer ⊢
  rw [List.flatMap_append, ← List.append_assoc]
  exact answer_chain_append_of_ne_absent hanswer

/-- The first of two calls is refused at its second offer, and so is not the end of the chain's
growth: it has appended its first offer, and the second call appends its own. -/
theorem extendAll_chain_refused :
    let table (value : Text) := table [("a".text, .text value)]
    let calls := [[Offer.usable (table "2".text), .missing, .usable (table "3".text)],
      [.usable (table "4".text)]]
    let after := (chain [table "1".text]).extendAll calls
    after.1 = chain [table "1".text, table "2".text, table "4".text] ∧
    after.2 = [.error (.badOffer .noSource), .ok ()] ∧
    after.1.answer [] (.text "a".text) = .text "1".text := by
  intro table calls after
  obtain ⟨hafter, houtcomes, hanswers⟩ := extendAll_chain [table "1".text] calls
  have hanswer : (chain [table "1".text]).answer [] (.text "a".text) = .text "1".text := rfl
  refine ⟨hafter, houtcomes, ?_⟩
  have hkept := hanswers [] List.nil_prefix [] (.text "a".text) (by
    show (chain [table "1".text]).answer [] (.text "a".text) ≠ .absent
    rw [hanswer]
    nofun)
  exact hkept.1.trans hanswer

end Source

end Interpolation
