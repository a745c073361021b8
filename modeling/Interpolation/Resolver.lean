import Interpolation.Failure

/-!
# Resolvers

A resolver answers names.  A placeholder's name is a text, and a property may be asked for under any
value.  An answer is a value, or nothing, or the resolver fails; only a text is a value that can
stand in the place of a placeholder.  A resolver may have a state, so that it can
keep a record of what it has been asked, or change its answers from one time to the next.

Several resolvers in a chain are asked in order, and the first answer counts.  An answer that is
empty or not a text is an answer like any other.
-/

set_option autoImplicit false

namespace Interpolation

/-- What a resolver says to a name. -/
inductive Reply
  | absent
  | text (t : Text)
  /-- A value that is not a text. -/
  | other (value : Value)
  /-- The resolver has failed. -/
  | fault (f : SourceFault)

/-- The reply that gives a value; null gives nothing. -/
def Reply.ofValue : Value → Reply
  | .null => .absent
  | .text t => .text t
  | value => .other value

/-- The reply that gives a value, if there is one. -/
def Reply.ofValue? : Option Value → Reply
  | some value => .ofValue value
  | none => .absent

/-- A resolver with a state. -/
abbrev Resolver (σ : Type) := Value → StateM σ Reply

namespace Resolver

variable {σ : Type}

/-- The resolver that asks several resolvers in order, until one has an answer. -/
def chain : List (Resolver σ) → Resolver σ
  | [], _ => pure .absent
  | first :: rest, name => do
    match ← first name with
    | .absent => chain rest name
    | reply => pure reply

/-- The resolver whose answers are a function of the name as it is printed, and which keeps the
names in order. -/
def recording (answer : Text → Reply) : Resolver (List Text) := fun name asked =>
  (answer name.plain, asked ++ [name.plain])

end Resolver

end Interpolation
