import Interpolation.Settings

/-!
# Properties

A property is a name with a value in a source; any value may be asked for as a name.  Properties are
read with the placeholders of their values resolved against the same source, and converted to the
type that is asked for.

How placeholders are written can be changed at any time.  What it is changed to is not looked at
until an expander is needed; a dialect that cannot be made is rejected then.  The two expanders, one
of them lenient, are kept once they are made, and are dropped when the dialect changes.
-/

set_option autoImplicit false

namespace Interpolation

namespace Properties

/-! ## The state of a reader -/

/-- How properties are read. -/
structure Reader where
  /-- What was given as the opening delimiter. -/
  opening : Value
  /-- What was given as the closing delimiter. -/
  closing : Value
  /-- What was given as the separator, or null if that counts as false. -/
  separator : Value
  /-- Whether placeholders without a value may stay in the values of properties. -/
  lenientNested : Value
  /-- The limit on nesting. -/
  limit : { n : Nat // 0 < n ∧ n ≤ greatestLimit }
  /-- The names of the properties that must have a value. -/
  required : List Value
  /-- The expander that fails at a placeholder without a value, once it is made. -/
  strictExpander : Option Expander
  /-- The expander that keeps a placeholder without a value, once it is made. -/
  lenientExpander : Option Expander

/-- The reader that settings start with. -/
def Reader.ofSettings (s : Settings) : Reader where
  opening := .text s.opening
  closing := .text s.closing
  separator := (s.dialect.separator.map Value.text).getD .null
  lenientNested := .bool false
  limit := ⟨s.limit, s.limit_pos, s.limit_le⟩
  required := []
  strictExpander := none
  lenientExpander := none

/-- The parts of a reader that can be set. -/
inductive Part
  | opening
  | closing
  | separator
  | lenientNested
deriving DecidableEq

/-- The reader without the expanders that it has kept. -/
def Reader.dropExpanders (r : Reader) : Reader :=
  { r with strictExpander := none, lenientExpander := none }

/-- The reader with one of its parts set. -/
def Reader.set (r : Reader) (part : Part) (value : Value) : Reader :=
  match part with
  | .opening => { r with opening := value }.dropExpanders
  | .closing => { r with closing := value }.dropExpanders
  | .separator =>
    { r with separator := if value.isTruthy then value else .null }.dropExpanders
  | .lenientNested => { r with lenientNested := value }

/-- The fields of the dialect that a reader describes. -/
def Reader.fields (r : Reader) (lenient : Bool) : List (Text × Value) :=
  [("open_delimiter".text, r.opening), ("close_delimiter".text, r.closing),
    ("value_separator".text, r.separator), ("ignore_unresolvable".text, .bool lenient)]

/-- The expander that a reader describes. -/
def Reader.makeExpander (r : Reader) (lenient : Bool) : Except Rejection Expander :=
  (Dialect.ofFields (r.fields lenient)).map fun dialect =>
    { dialect, limit := r.limit.val, limit_pos := r.limit.property.1,
      limit_le := r.limit.property.2 }

/-- The expander that a reader has kept. -/
def Reader.keptExpander (r : Reader) (lenient : Bool) : Option Expander :=
  if lenient then r.lenientExpander else r.strictExpander

/-- The reader with an expander kept. -/
def Reader.keep (r : Reader) (lenient : Bool) (expander : Expander) : Reader :=
  if lenient then { r with lenientExpander := some expander }
  else { r with strictExpander := some expander }

/-! ## Work with a reader -/

/-- Why an operation on properties fails. -/
inductive Problem
  | failure (f : Failure)
  | rejected (r : Rejection)

/-- The wording of a problem. -/
def Problem.message : Problem → Text
  | failure f => f.message
  | rejected r => r.message

/-- What operations on properties read and change. -/
structure Session (σ : Type) extends Ledger σ where
  reader : Reader

/-- An operation on properties. -/
abbrev Task (σ α : Type) := ExceptT Problem (StateM (Session σ)) α

variable {σ : Type}

/-- Does work with a resolver. -/
def withLedger {α : Type} (work : Work Failure σ α) : Task σ α :=
  ExceptT.mk fun s =>
    let (outcome, ledger) := work.run s.toLedger
    (outcome.mapError .failure, { s with toLedger := ledger })

/-- Makes a log entry. -/
def makeEntry (entry : Log.Entry) : Task σ Unit :=
  modify fun s => { s with log := s.log ++ [entry] }

/-- The kept expander, which is made if there is none. -/
def keptExpander (lenient : Bool) : Task σ Expander := do
  let reader := (← get).reader
  match reader.keptExpander lenient with
  | some expander => return expander
  | none =>
    match reader.makeExpander lenient with
    | .error rejection => throw (.rejected rejection)
    | .ok expander =>
      modify fun s => { s with reader := s.reader.keep lenient expander }
      return expander

/-- The value of a name; null if there is none. -/
def rawValue (resolver : Resolver σ) (name : Value) : Task σ Value := do
  let reply ← modifyGet fun s =>
    let (reply, source) := resolver name s.source
    (reply, { s with source })
  match reply with
  | .absent => return .null
  | .text value => return .text value
  | .other value => return value
  | .fault f => throw (.failure (.sourceFault f))

/-! ## Conversion -/

/-- The type that a property is converted to. -/
inductive Target
  | text
  | int
  | float
  | bool
  | intList
  | optionalInt
deriving DecidableEq

/-- The name of a type in rejections. -/
def Target.title : Target → String
  | text => "str"
  | int => "int"
  | float => "float"
  | bool => "bool"
  | intList => "list[int]"
  | optionalInt => "nullable[int]"

/-- Reads a text as a value of a type. -/
def Target.read (target : Target) (t : Text) : Except Issue Value :=
  match target with
  | text => .ok (.text t)
  | int => (Field.intOfText t).map .int
  | float => (Field.floatOfText t).map .float
  | bool => (Field.bool (.text t)).map .bool
  | intList => .error .listType
  | optionalInt => (Field.intOfText t).map .int

/-- Converts a text to a type. -/
def Target.convert (target : Target) (t : Text) : Except Rejection Value :=
  (target.read t).mapError fun issue => ⟨target.title, [⟨[], issue, .text t⟩]⟩

/-! ## Operations -/

/-- What can be done with properties. -/
inductive Operation
  /-- Whether a property has a value. -/
  | contains (name : Value)
  /-- The value of a property, converted, or else a default as it is. -/
  | get (name default : Value) (target : Target)
  /-- The value of a property that must have one, converted. -/
  | getRequired (name : Value) (target : Target)
  /-- A text with its placeholders resolved, where those without a value stay. -/
  | resolve (text : Value)
  /-- A text with its placeholders resolved, all of which must have a value. -/
  | resolveRequired (text : Value)
  /-- Declares properties that must have a value. -/
  | require (names : List Value)
  /-- Fails if a property that must have a value has none. -/
  | validate
  /-- Sets a part of the reader. -/
  | set (part : Part) (value : Value)

section

variable (expanderFor : Bool → Task σ Expander) (resolver : Resolver σ)

/-- Whether a property has a value. -/
def contains (name : Value) : Task σ Bool := do
  match ← rawValue resolver name with
  | .null => return false
  | _ => return true

/-- A text with its placeholders resolved by an expander. -/
def resolveWith (lenient : Bool) (text : Value) : Task σ Text := do
  let expander ← expanderFor lenient
  withLedger (expander.replace text (.usable resolver))

/-- The value of a property, converted, or else the default as it is. -/
def get (name default : Value) (target : Target) : Task σ Value := do
  match ← rawValue resolver name with
  | .null =>
    makeEntry ⟨.debug, "Property '".text ++ name.plain ++ "' not found; using default".text⟩
    return default
  | raw =>
    let lenient := (← MonadState.get).reader.lenientNested.isTruthy
    let text ← resolveWith expanderFor resolver lenient raw
    match target.convert text with
    | .ok value => return value
    | .error rejection => throw (.rejected rejection)

/-- The value of a property that must have one, converted. -/
def getRequired (name : Value) (target : Target) : Task σ Value := do
  if ← contains resolver name then get expanderFor resolver name .null target
  else throw (.failure (.missingProperties [name]))

/-- The names, of those given, that have no value. -/
def missing : List Value → Task σ (List Value)
  | [] => return []
  | name :: rest => do
    let found ← contains resolver name
    let others ← missing rest
    return if found then others else name :: others

/-- Fails if a property that must have a value has none. -/
def validate : Task σ Unit := do
  match ← missing resolver (← MonadState.get).reader.required with
  | [] => return ()
  | names =>
    makeEntry ⟨.debug, "Missing required properties: ".text ++ (Value.list names).quoted⟩
    throw (.failure (.missingProperties names))

/-- Does an operation, with expanders from a given place; the result is null where there is none. -/
def performWith : Operation → Task σ Value
  | .contains name => return .bool (← contains resolver name)
  | .get name default target => get expanderFor resolver name default target
  | .getRequired name target => getRequired expanderFor resolver name target
  | .resolve text => return .text (← resolveWith expanderFor resolver true text)
  | .resolveRequired text => return .text (← resolveWith expanderFor resolver false text)
  | .require names => do
    modify fun s => { s with reader.required := s.reader.required ++ names }
    return .null
  | .validate => do
    validate resolver
    return .null
  | .set part value => do
    modify fun s => { s with reader := s.reader.set part value }
    return .null

end

/-- Does an operation, with the expanders that the reader keeps. -/
def perform (resolver : Resolver σ) : Operation → Task σ Value :=
  performWith keptExpander resolver

end Properties

end Interpolation
