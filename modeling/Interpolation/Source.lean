import Interpolation.Offer
import Interpolation.Resolver

/-!
# Sources

A source says where the values of names come from: a table of values, the environment, a function,
or a chain of sources of which the first with an answer counts.  A table may hold values that are
not texts; the environment is read when a name is asked for, with a stem put before the name.

A source may carry a tag.  It then keeps a record of the names that it is asked for.
-/

set_option autoImplicit false

namespace Interpolation

/-- The environment: names with their values. -/
abbrev Environment := List (Text × Text)

namespace Environment

/-- The value of a name. -/
def get? (environment : Environment) (name : Text) : Option Text :=
  (environment.find? (·.1 = name)).map (·.2)

/-- The environment with the value of a name set. -/
def set (environment : Environment) (name value : Text) : Environment :=
  environment.filter (·.1 ≠ name) ++ [(name, value)]

/-- The environment without a name. -/
def unset (environment : Environment) (name : Text) : Environment :=
  environment.filter (·.1 ≠ name)

/-- The environment as members of an object. -/
def members (environment : Environment) : List (Text × Value) :=
  environment.map fun (name, value) => (name, .text value)

end Environment

/-- A name that a tagged source has been asked for. -/
structure Lookup where
  tag : Text
  name : Text
deriving DecidableEq

/-- Where the values of names come from. -/
inductive Source
  /-- A table of values. -/
  | table (entries : List (Text × Value))
  /-- A given environment, or the one of the program, with a stem before every name. -/
  | environment (stem : Value) (given : Option (List (Text × Value)))
  /-- A function of the name. -/
  | function (answer : Text → Reply)
  /-- A resolver of some other kind, whose answers are a function of the name. -/
  | custom (kind : String) (answer : Text → Reply)
  /-- A source that keeps a record under a tag. -/
  | tagged (tag : Text) (inner : Source)
  /-- Several sources, of which the first with an answer counts. -/
  | chain (sources : List Source)

namespace Source

/-! ## Answers -/

/-- What the entries of a table say to a name. -/
def entryOf (entries : List (Text × Value)) (name : Value) : Reply :=
  match name with
  | .text name => .ofValue? (Value.member? entries name)
  | other => if other.isNoName then .fault (.badName (.noName other.kind)) else .absent

mutual

/-- The resolver of a source, in the environment of the program. -/
def resolver (environment : Environment) : Source → Resolver (List Lookup)
  | table entries => fun name => pure (entryOf entries name)
  | .environment stem given => fun name =>
    pure (.ofValue? (Value.member? (given.getD environment.members) (stem.plain ++ name.plain)))
  | function answer => fun name => pure (answer name.plain)
  | custom _ answer => fun name => pure (answer name.plain)
  | tagged tag inner => fun name => do
    modify (· ++ [⟨tag, name.plain⟩])
    resolver environment inner name
  | chain sources => Resolver.chain (resolvers environment sources)

/-- The resolvers of several sources. -/
def resolvers (environment : Environment) : List Source → List (Resolver (List Lookup))
  | [] => []
  | first :: rest => resolver environment first :: resolvers environment rest

end

/-! ## Descriptions -/

mutual

/-- A source as messages write it. -/
def describe : Source → Text
  | table entries => s!"MappingResolver({entries.length} entries)".text
  | .environment stem _ => "EnvironmentResolver(prefix=".text ++ stem.quoted ++ ")".text
  | function _ => "<function>".text
  | custom kind _ => "<".text ++ kind.text ++ ">".text
  | tagged _ inner => describe inner
  | chain sources => "ChainResolver(".text ++ describeAll sources ++ ")".text

/-- Several sources, with commas between them. -/
def describeAll : List Source → Text
  | [] => []
  | [source] => describe source
  | source :: rest => describe source ++ ", ".text ++ describeAll rest

end

/-- The name of a source's kind. -/
def kind : Source → String
  | table _ => "MappingResolver"
  | .environment .. => "EnvironmentResolver"
  | function _ => "_CallableResolver"
  | custom kind _ => kind
  | tagged .. => "Tagged"
  | chain _ => "ChainResolver"

/-! ## Growing a chain -/

/-- The sources of a chain; no other source has any. -/
def parts : Source → Except ArgumentProblem (List Source)
  | chain sources => .ok sources
  | other => .error (.noPart other.kind "sources")

/-- The chain of the sources offered, if all of them can be used. -/
def ofOffers (offers : List (Offer Source)) : Except BadArgument Source :=
  match Offer.acceptAll offers with
  | (sources, .ok _) => .ok (chain sources)
  | (_, .error reason) => .error reason

/-- Why a source cannot be extended. -/
inductive ExtensionProblem
  | notAChain (problem : ArgumentProblem)
  | badOffer (reason : BadArgument)
deriving DecidableEq

/-- Appends to a chain the sources offered before the first one that cannot be used; any other
source stays as it is. -/
def extend (source : Source) (offers : List (Offer Source)) :
    Source × Except ExtensionProblem Unit :=
  match source with
  | chain sources =>
    let (more, outcome) := Offer.acceptAll offers
    (chain (sources ++ more), outcome.mapError .badOffer)
  | other => (other, .error (.notAChain (.noPart other.kind "sources_extend")))

end Source

end Interpolation
