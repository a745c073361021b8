import Interpolation.Failure

/-!
# Offers

Where a resolver is wanted, a caller may offer one, or nothing, or a value that is none.  An offer
is accepted if there is a resolver in it, and is else a bad argument.
-/

set_option autoImplicit false

namespace Interpolation

/-- What a caller gives where something is wanted that can answer names. -/
inductive Offer (ρ : Type)
  | missing
  /-- A value of a kind that cannot answer names. -/
  | unusable (kind : String)
  | usable (resolver : ρ)

namespace Offer

variable {ρ : Type}

/-- What is offered, if it can answer names. -/
def accept : Offer ρ → Except BadArgument ρ
  | missing => .error .noSource
  | unusable kind => .error (.sourceOfKind kind)
  | usable resolver => .ok resolver

/-- The offers accepted before the first one that is not, and why that one is not. -/
def acceptAll : List (Offer ρ) → List ρ × Except BadArgument Unit
  | [] => ([], .ok ())
  | offer :: rest =>
    match offer.accept with
    | .error reason => ([], .error reason)
    | .ok resolver =>
      let (resolvers, outcome) := acceptAll rest
      (resolver :: resolvers, outcome)

end Offer

end Interpolation
