import Interpolation.Text.Search
import Interpolation.Decimal.Binary64
import Interpolation.Validation.Issue

/-!
# Dynamic values

A source may answer, a setting may be given, and a variables file may hold, any value of a small
family: nothing, a truth value, a number, a text, a list, or an object whose members keep their
order.  Of any other value all is known that is asked of it: how messages name and write it, whether
it counts as true and may be a name, and what the fields of a record read it as.
-/

set_option autoImplicit false

namespace Interpolation

/-- What is known of a value of some other kind. -/
structure Foreign where
  kind : String
  /-- How messages write it. -/
  written : Text
  isTruthy : Bool
  /-- Whether something may be looked up under it. -/
  isName : Bool
  /-- What it is read as where a field is a text. -/
  text : Except Issue Text
  /-- What it is read as where a field is a truth value. -/
  bool : Except Issue Bool
  /-- What it is read as where a field is a whole number. -/
  int : Except Issue Int

/-- A value whose kind is known only when it is looked at. -/
inductive Value
  | null
  | bool (b : Bool)
  | int (n : Int)
  | float (x : Binary64)
  | text (t : Text)
  | list (items : List Value)
  | object (members : List (Text × Value))
  | foreign (f : Foreign)
deriving Inhabited

namespace Value

/-- The name of a value's kind. -/
def kind : Value → String
  | null => "NoneType"
  | bool _ => "bool"
  | int _ => "int"
  | float _ => "float"
  | text _ => "str"
  | list _ => "list"
  | object _ => "dict"
  | foreign f => f.kind

/-- Whether a value counts as true: nothing, zero and what is empty do not, and
a value of another kind says so itself. -/
def isTruthy : Value → Bool
  | null => false
  | bool b => b
  | int n => n ≠ 0
  | float (.finite _ significand _) => significand ≠ 0
  | float _ => true
  | text t => !t.isEmpty
  | list items => !items.isEmpty
  | object members => !members.isEmpty
  | foreign f => f.isTruthy

/-- The member of a name, in a list of members. -/
def member? (members : List (Text × Value)) (name : Text) : Option Value :=
  (members.find? (·.1 = name)).map (·.2)

/-- The members with one set: in the place of the member of that name, or else at the end. -/
def setMember {κ α : Type} [DecidableEq κ] (members : List (κ × α)) (name : κ) (value : α) :
    List (κ × α) :=
  if members.any (·.1 = name) then
    members.map fun m => if m.1 = name then (name, value) else m
  else members ++ [(name, value)]

/-- The members, of those that are written, that count: of several with one name the last value, in
the place of the first. -/
def lastOfEach {κ α : Type} [DecidableEq κ] (written : List (κ × α)) : List (κ × α) :=
  written.foldl (fun members m => setMember members m.1 m.2) []

end Value

end Interpolation
