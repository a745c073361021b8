import Interpolation.Value

/-!
# Arguments

An operation that takes any values as its arguments may find that they do not fit: some are missing
or too many, or one is of a kind that the operation cannot work with.  This file holds the problems
with their wording, the elements that a value has if it has any, and the order of numbers.
-/

set_option autoImplicit false

namespace Interpolation

/-! ## Problems -/

/-- Why the arguments of an operation do not fit. -/
inductive ArgumentProblem
  /-- Arguments with these names are not given. -/
  | missing (function : String) (names : List String)
  /-- More arguments are given than the function takes; it itself counts as one. -/
  | tooMany (function : String) (least most given : Nat)
  /-- An argument is given under a name that the function does not know. -/
  | unexpected (function : String) (name : Text)
  /-- A value has no elements. -/
  | noElements (kind : String)
  /-- Values of two kinds have no order. -/
  | noOrder (relation left right : String)
  /-- Nothing can be looked up under a value of a kind. -/
  | noName (kind : String)
  /-- A value of a kind has no part of a name. -/
  | noPart (kind name : String)
deriving DecidableEq

namespace ArgumentProblem

/-- Names between quotes as they are listed in a sentence. -/
def listed (names : List String) : String :=
  match names.map fun name => s!"'{name}'" with
  | [] => ""
  | [name] => name
  | [first, second] => s!"{first} and {second}"
  | names => ", ".intercalate names.dropLast ++ ", and " ++ names.getLastD ""

/-- The wording of a problem. -/
def message : ArgumentProblem → Text
  | missing function names =>
    let arguments := if names.length = 1 then "argument" else "arguments"
    (s!"{function} missing {names.length} required positional {arguments}: " ++
      listed names).text
  | tooMany function least most given =>
    let taken := if least = most then s!"{most}" else s!"from {least} to {most}"
    s!"{function} takes {taken} positional arguments but {given} were given".text
  | unexpected function name =>
    s!"{function} got an unexpected keyword argument '".text ++ name ++ "'".text
  | noElements kind => s!"'{kind}' object is not iterable".text
  | noOrder relation left right =>
    s!"'{relation}' not supported between instances of '{left}' and '{right}'".text
  | noName kind => s!"unhashable type: '{kind}'".text
  | noPart kind name => s!"'{kind}' object has no attribute '{name}'".text

end ArgumentProblem

namespace Value

/-! ## Elements -/

/-- The elements of a value: the characters of a text, the items of a list, the names of an object's
members. -/
def elements : Value → Except ArgumentProblem (List Value)
  | text t => .ok (t.map fun c => text [c])
  | list items => .ok items
  | object members => .ok (members.map fun m => text m.1)
  | other => .error (.noElements other.kind)

/-- Whether nothing can be looked up under a value. -/
def isNoName : Value → Bool
  | list _ | object _ => true
  | foreign f => !f.isName
  | _ => false

/-! ## Order -/

/-- Whether a value is at least a whole number, if it is a number. -/
def atLeast? (n : Int) : Value → Option Bool
  | bool b => some (n ≤ if b then 1 else 0)
  | int m => some (n ≤ m)
  | float x => some (x.isAtLeast n)
  | _ => none

/-- Whether a value is at most a whole number, if it is a number. -/
def atMost? (n : Int) : Value → Option Bool
  | bool b => some ((if b then 1 else 0) ≤ n)
  | int m => some (m ≤ n)
  | float x => some (x.isAtMost n)
  | _ => none

/-- The greatest whole number that is not above a value, if it is a number. -/
def floor? : Value → Option Int
  | bool b => some (if b then 1 else 0)
  | int n => some n
  | float x => x.floor?
  | _ => none

end Value

end Interpolation
