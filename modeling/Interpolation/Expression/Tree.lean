import Interpolation.Expression.Grammar
import Interpolation.Expression.Quotation

/-!
# Trees of expressions

A tree says how the rules of the grammar match tokens.  It is of some kind of expression, which
complaints name, and it may be something that cannot be set.
-/

set_option autoImplicit false

namespace Interpolation

namespace Expression

/-- How rules match tokens. -/
inductive Tree
  | token (token : Token)
  | node (rule : Rule) (children : List Tree)

namespace Tree

/-- Whether a tree is a symbol. -/
def isSymbol (text : String) : Tree → Bool
  | token t => t.kind = .symbol && t.text = text.toList
  | node _ _ => false

/-- A tree without the nodes above it that have no other child. -/
def core : Tree → Tree
  | node .group [_, inner, _] => inner.core
  | node .yielded children => node .yielded children
  | node .quotations children => node .quotations children
  | node _ [only] => only.core
  | tree => tree

/-- The name that a tree is. -/
def name? (tree : Tree) : Option Characters :=
  match tree.core with
  | token t => if t.kind = .name then some t.text else none
  | node _ _ => none

/-- The quotations that a node for quotations holds. -/
def quotations (children : List Tree) : List Quotation :=
  children.filterMap fun
    | token t => some (.ofToken t.text)
    | node _ _ => none

/-- The kind of the expression that a tree without single nodes above it is. -/
def coreKind : Tree → String
  | token t =>
    match t.kind with
    | .name => "name"
    | .symbol => if t.text = "...".toList then "ellipsis" else String.ofList t.text
    | _ => "literal"
  | node rule children =>
    match rule with
    | .expression | .plainExpression => "conditional expression"
    | .comparison => "comparison"
    | .awaited => "await expression"
    | .primary =>
      match children.getLast? with
      | some (node .attributeOf _) => "attribute"
      | _ => "function call"
    | .quotations =>
      if (quotations children).any (·.isFormatted) then "f-string expression" else "literal"
    | .tuple | .expressions | .starExpressions => "tuple"
    | .generator => "generator expression"
    | .set => "set display"
    | .setComprehension => "set comprehension"
    | .dictionary => "dict literal"
    | .dictionaryComprehension => "dict comprehension"
    | .function => "lambda"
    | .yielded => "yield expression"
    | .naming => "named expression"
    | .starExpression | .element | .starred => "starred"
    | _ => "expression"

/-- The kind of the expression that a tree is. -/
def kind (tree : Tree) : String :=
  tree.core.coreKind

mutual

/-- The kind of the first part of a tree that cannot be set, where the tree stands for what is
taken from something. -/
def unsettable? : Tree → Option String
  | token t => if t.kind = .name then none else some (token t).coreKind
  | node rule children =>
    match rule with
    | .tuple | .starExpressions | .elements | .group => unsettableOf? children
    | .comparison => firstUnsettable? children
    | .primary =>
      match children with
      | [only] => unsettable? only
      | _ => if (node rule children).coreKind = "attribute" then none else some "function call"
    | .starExpression | .element =>
      match children with
      | [only] => unsettable? only
      | [_, inner] => unsettable? inner
      | _ => none
    | .quotations | .yielded => some (node rule children).coreKind
    | _ =>
      match children with
      | [only] => unsettable? only
      | _ => some (node rule children).coreKind

/-- The same for the first of several trees, between which symbols may stand. -/
def unsettableOf? : List Tree → Option String
  | [] => none
  | token t :: rest =>
    if t.kind = .symbol then unsettableOf? rest else unsettable? (token t) <|> unsettableOf? rest
  | node rule children :: rest => unsettable? (node rule children) <|> unsettableOf? rest

/-- The same for what is compared: only what is sought in something else is of interest. -/
def firstUnsettable? : List Tree → Option String
  | [] => none
  | [only] => unsettable? only
  | first :: second :: _ => if second.isSymbol "in" then unsettable? first else none

end

/-- The number of values without names in a tree for the values of a call. -/
def positional : List Tree → Nat
  | [] => 0
  | node .positionalValues children :: rest =>
    children.countP (fun child => !child.isSymbol ",") + positional rest
  | node .namedValues children :: rest =>
    children.countP (fun
      | node .namedOrStarred [node .starred _] => true
      | _ => false) + positional rest
  | _ :: rest => positional rest

/-- Whether the values of a call end with those of a dictionary. -/
def unpacksNames : List Tree → Bool
  | [] => false
  | node .namedValues children :: rest =>
    children.any (fun
      | node .namedOrDoubleStarred (star :: _) => star.isSymbol "**"
      | _ => false) || unpacksNames rest
  | _ :: rest => unpacksNames rest

/-- The children of a tree. -/
def children : Tree → List Tree
  | token _ => []
  | node _ children => children

end Tree

/-! ## Complaints -/

/-- The names of statements that once needed no parentheses. -/
def statementNames : List String :=
  ["print", "exec"]

/-- Whether a tree is the name of a statement. -/
def isStatementName (tree : Tree) : Bool :=
  tree.name?.any fun name => statementNames.any fun s => s.toList = name

/-- The problem that a complaint sees in matched trees, where so many parentheses are open behind
the last one. -/
def Complaint.problem? (complaint : Complaint) (trees : List Tree) (level : Nat) : Option Problem :=
  match complaint, trees with
  | always problem, _ => some problem
  | missingComma, first :: _ =>
    if isStatementName first ∨ level = 0 then none else some .missingComma
  | missingParentheses, first :: _ =>
    if isStatementName first then first.name?.map .missingParentheses else none
  | namesUnnamed, first :: _ => some (.namesUnnamed first.kind)
  | setsByMistake, first :: _ => some (.setsByMistake first.kind)
  | setsConstant, first :: _ => some (.setsUnsettable first.kind)
  | setsTarget, _ => (trees.getLast?.bind Tree.unsettable?).map .setsUnsettable
  | bareGenerator, first :: _ =>
    if Tree.positional first.children ≤ 1 then none else some .bareGenerator
  | positionalBehind, first :: _ =>
    some (if Tree.unpacksNames first.children then .positionalBehindUnpacking
      else .positionalBehindNamed)
  | _, [] => none

end Expression

end Interpolation
