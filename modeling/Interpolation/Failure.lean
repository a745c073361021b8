import Interpolation.Argument
import Interpolation.Value.Printed

/-!
# Failures

Why a text could not be resolved, or a property not be read.  A failure is a cause with what it is
about; its wording is in one place, `Failure.message`.  A failure that is met in a text is about
texts and numbers; one that is made from given arguments may be about any values.
-/

set_option autoImplicit false

namespace Interpolation

/-- An argument that the engine cannot work with. -/
inductive BadArgument
  /-- There is no text. -/
  | noText
  /-- What stands for the text is of another kind. -/
  | textOfKind (kind : String)
  /-- There is no source. -/
  | noSource
  /-- What stands for the source is of another kind. -/
  | sourceOfKind (kind : String)
  /-- A source has answered a name with a value of another kind. -/
  | answerOfKind (kind : String) (name : Text)
  /-- The wording is given. -/
  | stated (message : Text)
deriving DecidableEq

/-- The wording of an argument that the engine cannot work with. -/
def BadArgument.message : BadArgument → Text
  | noText => "'text' must not be None".text
  | textOfKind kind => s!"'text' must be a string, not {kind}".text
  | noSource => "Placeholder resolver must not be None".text
  | sourceOfKind kind => s!"Unsupported placeholder resolver type: {kind}".text
  | answerOfKind kind name =>
    s!"Resolver returned {kind} for placeholder '".text ++ name ++
      "'; expected str or None".text
  | stated message => message

/-- Why a source has failed instead of answering. -/
inductive SourceFault
  /-- The wording is given. -/
  | stated (message : Text)
  /-- A name is no name to the source. -/
  | badName (problem : ArgumentProblem)
deriving DecidableEq

/-- The wording of a source's fault. -/
def SourceFault.message : SourceFault → Text
  | stated message => message
  | badName problem => problem.message

/-- Why placeholders could not be resolved. -/
inductive Failure
  /-- Some failure, of which only the wording is known. -/
  | general (message : Text)
  | badArgument (reason : BadArgument)
  /-- The body of a placeholder stands inside its own expansion. -/
  | circular (name : Value)
  /-- A placeholder of a text has no value, and no default. -/
  | unresolvable (name text position : Value)
  /-- The expansion of a text would nest deeper than the limit. -/
  | tooDeep (limit text : Value)
  /-- Required properties have no value. -/
  | missingProperties (names : List Value)
  /-- A source has failed instead of answering. -/
  | sourceFault (fault : SourceFault)

namespace Failure

/-- The wording of a failure. -/
def message : Failure → Text
  | general message => message
  | badArgument reason => reason.message
  | circular name =>
    "Circular placeholder reference '".text ++ name.plain ++ "' in property definitions".text
  | unresolvable name text position =>
    "Could not resolve placeholder '".text ++ name.plain ++ "' in value \"".text ++
      text.plain ++ "\"".text ++
      if position.atLeast? 0 = some true then " at index ".text ++ position.plain else []
  | tooDeep limit text =>
    "Placeholder nesting exceeds maximum depth of ".text ++ limit.plain ++
      " while resolving \"".text ++ text.plain ++ "\"".text
  | missingProperties names =>
    "The following properties were declared as required but could not be resolved: ".text ++
      (Value.list names).quoted
  | sourceFault fault => fault.message

/-! ## Failures from arguments -/

/-- The kinds of failures that are made from arguments. -/
inductive Kind
  | general
  | badArgument
  | circular
  | unresolvable
  | tooDeep
  | missingProperties
deriving DecidableEq

namespace Kind

/-- All kinds. -/
def all : List Kind :=
  [general, badArgument, circular, unresolvable, tooDeep, missingProperties]

/-- The name of a kind. -/
def name : Kind → String
  | general => "PlaceholderError"
  | badArgument => "InvalidPlaceholderArgument"
  | circular => "CircularPlaceholderReference"
  | unresolvable => "UnresolvablePlaceholder"
  | tooDeep => "PlaceholderDepthExceeded"
  | missingProperties => "MissingRequiredProperties"

/-- The names of the arguments that a failure of a kind has to have. -/
def needed : Kind → List String
  | general | badArgument => []
  | circular => ["name"]
  | unresolvable => ["name", "text"]
  | tooDeep => ["depth", "text"]
  | missingProperties => ["missing"]

/-- The number of arguments that a failure of a kind may have beside those that it has to have. -/
def optional : Kind → Nat
  | unresolvable => 1
  | _ => 0

/-- Why arguments are too few or too many for a failure of a kind. -/
def countProblem (kind : Kind) (given : Nat) : ArgumentProblem :=
  let function := s!"{kind.name}.__init__()"
  let needed := kind.needed
  if given < needed.length then .missing function (needed.drop given)
  else .tooMany function (needed.length + 1) (needed.length + 1 + kind.optional) (given + 1)

end Kind

/-- The wording that is made from any arguments. -/
def statedMessage : List Value → Text
  | [] => []
  | [argument] => argument.plain
  | arguments => .char '(' :: Value.quotedItems arguments ++ ")".text

/-- The failure of a kind that arguments make. -/
def ofArguments (kind : Kind) (arguments : List Value) : Except ArgumentProblem Failure :=
  match kind, arguments with
  | .general, _ => .ok (general (statedMessage arguments))
  | .badArgument, _ => .ok (badArgument (.stated (statedMessage arguments)))
  | .circular, [name] => .ok (circular name)
  | .unresolvable, [name, text] => .ok (unresolvable name text (.int (-1)))
  | .unresolvable, [name, text, position] =>
    match position.atLeast? 0 with
    | some _ => .ok (unresolvable name text position)
    | none => .error (.noOrder ">=" position.kind "int")
  | .tooDeep, [limit, text] => .ok (tooDeep limit text)
  | .missingProperties, [names] => names.elements.map missingProperties
  | _, _ => .error (kind.countProblem arguments.length)

end Failure

end Interpolation
