import Interpolation.Expansion
import Interpolation.Offer

/-!
# Expanders

An expander is a dialect with a limit on nesting.  It resolves a text against a resolver in one of
two ways: `replace` gives the text or fails, and `report` gives a report that holds the text or the
wording of the failure, and fails only where its arguments are bad or the resolver fails.

The work keeps the resolver's state and the log, also where it fails.
-/

set_option autoImplicit false

namespace Interpolation

/-- Work with a resolver that may fail; it keeps its ledger also where it fails. -/
abbrev Work (ε σ α : Type) := ExceptT ε (StateM (Ledger σ)) α

/-- The greatest limit on nesting. -/
def greatestLimit : Nat := 200

/-- The limit on nesting where none is given. -/
def defaultLimit : Nat := 64

/-- A dialect with a limit on nesting. -/
structure Expander where
  dialect : Dialect
  /-- The deepest nesting that is allowed. -/
  limit : Nat
  limit_pos : 0 < limit
  limit_le : limit ≤ greatestLimit
  /-- The limit as it has been given, for messages. -/
  given : Value := .int limit

/-- Why a value cannot be a limit on nesting. -/
inductive LimitProblem
  | notANumber (problem : ArgumentProblem)
  | outOfRange (given : Value)

/-- The wording of a problem with a limit. -/
def LimitProblem.message : LimitProblem → Text
  | notANumber problem => problem.message
  | outOfRange given =>
    s!"max_depth must be between 1 and {greatestLimit}, got ".text ++ given.plain

/-- A resolved text, or why a text could not be resolved. -/
structure Report where
  text : Text
  error : Option Text
  success : Bool
deriving DecidableEq

namespace Expander

variable {σ : Type}

/-- The expander of a dialect and a limit, if the limit is a number in range.  Of a limit with a
fraction only the whole part has an effect. -/
def ofLimit (dialect : Dialect) (given : Value) : Except LimitProblem Expander :=
  match given.atMost? greatestLimit, given.floor? with
  | none, _ => .error (.notANumber (.noOrder "<=" "int" given.kind))
  | some true, some limit =>
    if h : 1 ≤ limit ∧ limit ≤ greatestLimit then
      .ok ⟨dialect, limit.toNat, by omega, by omega, given⟩
    else .error (.outOfRange given)
  | _, _ => .error (.outOfRange given)

/-- Expands a text with no body being expanded yet. -/
def run (e : Expander) (resolver : Resolver σ) (text : Text) : Work Failure σ Text :=
  ExceptT.mk fun ledger =>
    let (outcome, session) :=
      Expansion.expand e.dialect resolver e.given (e.limit + 1) text ⟨ledger, []⟩
    (outcome, session.toLedger)

/-- Resolves what stands for a text against what is offered as a resolver. -/
def replace (e : Expander) (text : Value) (offer : Offer (Resolver σ)) : Work Failure σ Text := do
  match text with
  | .null => throw (.badArgument .noText)
  | .text text =>
    match offer.accept with
    | .error reason => throw (.badArgument reason)
    | .ok resolver => e.run resolver text
  | other => throw (.badArgument (.textOfKind other.kind))

/-- Resolves as `replace` does, and reports a failure to resolve placeholders. -/
def report (e : Expander) (text : Value) (offer : Offer (Resolver σ)) :
    Work Failure σ Report :=
  ExceptT.mk do
    match ← (e.replace text offer).run with
    | .ok text => return .ok ⟨text, none, true⟩
    | .error (.badArgument reason) => return .error (.badArgument reason)
    | .error (.sourceFault fault) => return .error (.sourceFault fault)
    | .error failure =>
      modify fun ledger =>
        { ledger with
          log := ledger.log ++ [⟨.debug, "Error in parse: ".text ++ failure.message⟩] }
      return .ok ⟨[], some failure.message, false⟩

end Expander

end Interpolation
