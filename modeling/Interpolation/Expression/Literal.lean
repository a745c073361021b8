import Interpolation.Expression.Reader

/-!
# Literals

A literal is an expression whose value can be told without names: a constant, a number with a sign,
a complex number, or a tuple, a set or a dictionary of literals.  Sets and dictionaries cannot be
members of a set or keys of a dictionary, nor can tuples that hold them.
-/

set_option autoImplicit false

namespace Interpolation

namespace Expression

/-- The values of literals, as far as it counts where they may stand. -/
inductive Literal
  | real
  | imaginary
  | constant
  /-- A value of which a part of this kind cannot be found by its content. -/
  | unhashable (kind : String)
deriving DecidableEq

/-- Why an expression is no literal. -/
inductive LiteralProblem
  | unhashable (kind : String)
  /-- The entries of another dictionary are taken over. -/
  | unpacked
  /-- An expression that begins on this line is none of the forms of literals. -/
  | malformed (line : Nat)
deriving DecidableEq

/-- The wording of a problem. -/
def LiteralProblem.message : LiteralProblem → Characters
  | unhashable kind => s!"unhashable type: '{kind}'".toList
  | unpacked => "malformed node or string: None".toList
  | malformed line => "malformed node or string on line ".toList ++ Characters.ofNat line

namespace Tree

mutual

/-- The line of the first token of a tree. -/
def line : Tree → Nat
  | token t => t.line
  | node _ children => firstLine children

/-- The line of the first token of some trees. -/
def firstLine : List Tree → Nat
  | [] => 1
  | first :: _ => line first

end

/-- Whether a number is imaginary. -/
def isImaginary (written : Characters) : Bool :=
  written.getLast? == some 'j' || written.getLast? == some 'J'

/-- The number that a tree is. -/
def number? (tree : Tree) : Option Literal :=
  match tree.core with
  | token t =>
    if t.kind = .number then some (if isImaginary t.text then .imaginary else .real) else none
  | node _ _ => none

/-- The number, maybe with a sign, that a tree is. -/
def signedNumber? (tree : Tree) : Option Literal :=
  match tree.core with
  | node .factor [sign, operand] => if sign.isSymbol "~" then none else operand.number?
  | _ => tree.number?

/-- The value of what can stand where it is found by its content. -/
def hashed (value : Literal) : Except LiteralProblem Unit :=
  match value with
  | .unhashable kind => .error (.unhashable kind)
  | _ => .ok ()

mutual

/-- The value of a literal. -/
def literal : Tree → Except LiteralProblem Literal
  | token t =>
    match t.kind with
    | .number => .ok (if isImaginary t.text then .imaginary else .real)
    | .symbol => .ok .constant
    | _ => .error (.malformed t.line)
  | node rule children =>
    match rule with
    | .quotations =>
      if (quotations children).any (·.isFormatted) then
        .error (.malformed (node rule children).line)
      else .ok .constant
    | .yielded | .starExpression | .generator | .setComprehension | .dictionaryComprehension =>
      .error (.malformed (node rule children).line)
    | .group | .element =>
      match children with
      | [inner] => literal inner
      | [_, inner, _] => literal inner
      | _ => .error (.malformed (node rule children).line)
    | .whole => firstOf children
    | .tuple => tupleOf children
    | .set => do
      setOf children
      return .unhashable "set"
    | .dictionary => do
      dictionaryOf children
      return .unhashable "dict"
    | .sum =>
      match children with
      | [only] => literal only
      | [left, _, right] =>
        match left.signedNumber?, right.number? with
        | some .real, some .imaginary => .ok .constant
        | _, _ => .error (.malformed (node rule children).line)
      | _ => .error (.malformed (node rule children).line)
    | .factor =>
      match children with
      | [only] => literal only
      | _ =>
        match signedNumber? (node rule children) with
        | some value => .ok value
        | none => .error (.malformed (node rule children).line)
    | .primary =>
      match children with
      | [only] => literal only
      | [function, node .callWith [_, _]] =>
        if function.name? = some "set".toList then .ok (.unhashable "set")
        else .error (.malformed function.line)
      | _ => .error (.malformed (node rule children).line)
    | .expressions => if children.length = 1 then firstOf children else tupleOf children
    | _ =>
      match children with
      | [only] => literal only
      | _ => .error (.malformed (node rule children).line)

/-- The value of the literal that the first of some trees is. -/
def firstOf : List Tree → Except LiteralProblem Literal
  | [] => .ok .constant
  | first :: _ => literal first

/-- The value of a tuple of the literals among some trees. -/
def tupleOf : List Tree → Except LiteralProblem Literal
  | [] => .ok .constant
  | token t :: rest =>
    if t.kind = .symbol then tupleOf rest
    else do
      let _ ← literal (token t)
      tupleOf rest
  | node .elements children :: rest => do
    let first ← tupleOf children
    let others ← tupleOf rest
    return if first = .constant then others else first
  | node rule children :: rest => do
    let first ← literal (node rule children)
    let others ← tupleOf rest
    return match first with
      | .unhashable _ => first
      | _ => others

/-- Nothing, if the literals among some trees can be the members of a set. -/
def setOf : List Tree → Except LiteralProblem Unit
  | [] => .ok ()
  | token _ :: rest => setOf rest
  | node .elements children :: rest => do
    setOf children
    setOf rest
  | node rule children :: rest => do
    hashed (← literal (node rule children))
    setOf rest

/-- Nothing, if some trees can be the entries of a dictionary. -/
def dictionaryOf : List Tree → Except LiteralProblem Unit
  | [] => .ok ()
  | token _ :: rest => dictionaryOf rest
  | node .entry [node .pair [key, _, value]] :: rest => do
    let key ← literal key
    let _ ← literal value
    hashed key
    dictionaryOf rest
  | node _ _ :: _ => .error .unpacked

end

end Tree

end Expression

end Interpolation
