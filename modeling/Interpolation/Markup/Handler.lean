import Interpolation.Expression.Literal
import Interpolation.Text.Blank

/-!
# Handlers

A tag whose name begins with an at sign says what is to be done with the text it encloses.  It has
parameters: a literal, or the name of a handler with a literal in parentheses, or such a name alone.
-/

set_option autoImplicit false

namespace Interpolation

namespace Markup

namespace Handler

/-- Why parameters cannot be read. -/
inductive Problem
  /-- What should be a literal is no expression. -/
  | expression (written given : Characters) (problem : Expression.Problem)
  /-- What should be a literal is another expression. -/
  | literal (given : Characters) (problem : Expression.LiteralProblem)
deriving DecidableEq

/-- The wording of a problem. -/
def Problem.message : Problem → Characters
  | expression written given problem =>
    "error parsing ".toList ++ Characters.quoted written ++ " in ".toList ++
      Characters.quoted given ++
      "; ".toList ++ problem.message
  | literal given problem =>
    "error parsing ".toList ++ Characters.quoted given ++ "; ".toList ++ problem.message

/-- What should be a literal in parameters. -/
def literalOf (parameters : Characters) : Characters :=
  let trimmed := parameters.trimBy Characters.isSpacing
  let behind := trimmed.dropWhile fun c => Characters.isLetterOrNumber c || c = '_' || c = '.'
  if behind = [] then "()".toList
  else if behind.head? = some '(' ∧ behind.getLast? = some ')' ∧ '\n' ∉ behind then behind
  else trimmed

/-- The problem with parameters. -/
def problem? (parameters : Characters) : Option Problem :=
  if parameters = [] then none
  else
    match Expression.read (literalOf parameters) with
    | .error problem => some (.expression (literalOf parameters) parameters problem)
    | .ok tree =>
      match tree.literal with
      | .error problem => some (.literal parameters problem)
      | .ok _ => none

end Handler

end Markup

end Interpolation
