import Interpolation.Log.Template.Problem
import Interpolation.Text.Numerals
import Interpolation.Value.Printed

/-!
# Subjects of places

What a template puts into a place is an argument or a part of one.  A part is reached by a name
behind a point, or by an index or a name in brackets.  Every value has its kind as a part, and a
kind has a name and the kinds that it is a special case of; so a subject is a value, a kind, or a
row of kinds.
-/

set_option autoImplicit false

namespace Interpolation

namespace Log

/-- What can be put into a place. -/
inductive Subject
  | value (v : Value)
  /-- The kind of values that has a name. -/
  | kind (name : String)
  /-- Several kinds in order. -/
  | kinds (names : List String)

namespace Subject

/-! ## Kinds -/

/-- The kinds that a kind is a special case of, the nearest first. -/
def wider (kind : String) : List String :=
  if kind = "object" then []
  else if kind = "bool" then ["int", "object"]
  else ["object"]

/-- A kind as it is printed. -/
def kindText (name : String) : Text :=
  s!"<class '{name}'>".text

/-- The name of a subject's own kind. -/
def kindName : Subject → String
  | value v => v.kind
  | kind _ => "type"
  | kinds _ => "tuple"

/-! ## Printing -/

/-- A subject as it is printed, texts between quotes. -/
def quoted : Subject → Text
  | value v => v.quoted
  | kind name => kindText name
  | kinds [name] => .char '(' :: kindText name ++ ",)".text
  | kinds names => .char '(' :: (", ".text).intercalate (names.map kindText) ++ ")".text

/-- A subject as it is printed, a text without quotes. -/
def plain : Subject → Text
  | value v => v.plain
  | other => other.quoted

/-! ## Parts -/

/-- The index that a text is, if it is one. -/
def index? (text : Text) : Except TemplateProblem (Option Nat) :=
  match text.takeDecimal with
  | (c :: digits, []) =>
    let number := Characters.decimalNumber (c :: digits)
    if greatestNumber < number then .error .tooManyDigits else .ok (some number)
  | _ => .ok none

/-- The part of a number that a name leads to: a number is its own real part, and a whole number its
own numerator. -/
def numberPart? (v : Value) (name : String) : Option Value :=
  let ofInt (n : Int) : Option Value :=
    if name ∈ ["real", "numerator"] then some (.int n)
    else if name = "imag" then some (.int 0)
    else if name = "denominator" then some (.int 1)
    else none
  match v with
  | .int n => ofInt n
  | .bool b => ofInt (if b then 1 else 0)
  | .float x =>
    if name = "real" then some (.float x)
    else if name = "imag" then some (.float (.zero false))
    else none
  | _ => none

/-- The part of a kind that a name leads to. -/
def kindPart? (kind : String) (name : String) : Option Subject :=
  if name ∈ ["__name__", "__qualname__"] then some (.value (.text kind.text))
  else if name = "__module__" then some (.value (.text "builtins".text))
  else if name = "__mro__" then some (.kinds (kind :: wider kind))
  else if name = "__bases__" then some (.kinds ((wider kind).take 1))
  else if name = "__base__" then
    some ((((wider kind).head?).map Subject.kind).getD (.value .null))
  else none

/-- The part of a subject that a name behind a point leads to. -/
def feature (subject : Subject) (name : Text) : Except TemplateProblem Subject :=
  let word := String.ofList name.shown
  if name = "__class__".text then .ok (.kind subject.kindName)
  else
    match subject with
    | .value .null =>
      if word = "__doc__" then .ok (.value .null) else .error (.noAttribute "NoneType" name)
    | .value v =>
      match numberPart? v word with
      | some part => .ok (.value part)
      | none => .error (.noAttribute v.kind name)
    | .kind own =>
      match kindPart? own word with
      | some part => .ok part
      | none => .error (.noAttributeOfKind own name)
    | .kinds _ => .error (.noAttribute "tuple" name)

/-- The item at an index, of a subject of a kind. -/
def itemAt {α : Type} (kind : String) (items : List α) (index : Nat) :
    Except TemplateProblem α :=
  match items[index]? with
  | some item => .ok item
  | none => .error (.noPart kind)

/-- The part of a subject that an index or a name in brackets leads to. -/
def item (subject : Subject) (name : Text) : Except TemplateProblem Subject := do
  match ← index? name, subject with
  | none, .value (.object members) =>
    match Value.member? members name with
    | some v => return .value v
    | none => throw (.noMember name.quoted)
  | some index, .value (.object _) => throw (.noMember (.ofInt index))
  | some index, .value (.list items) => return .value (← itemAt subject.kindName items index)
  | some index, .value (.text text) =>
    return .value (.text [← itemAt subject.kindName text index])
  | some index, .kinds names => return .kind (← itemAt subject.kindName names index)
  | none, .value (.list _) | none, .value (.text _) | none, .kinds _ =>
    throw (.partNotNumbered subject.kindName)
  | _, .kind name => throw (.kindHasNoParts name)
  | _, .value v => throw (.hasNoParts v.kind)

end Subject

end Log

end Interpolation
