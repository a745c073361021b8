import Interpolation.Expression.Tree
import Std.Data.HashMap

/-!
# Reading expressions

The grammar is matched against the tokens of a text.  What some rules match at a place is
remembered, so that it is found once.  A text that is no expression is read a second time with
diagnoses, for what was probably meant; if none applies, it is just no expression.

A fault in the division of the text counts when its place is reached.  By its weight it may also
count where a problem with the tokens before it has been found.
-/

set_option autoImplicit false

namespace Interpolation

namespace Expression

/-- What a pattern matches at a place. -/
inductive Match
  /-- The trees, and the index of the next token. -/
  | found (trees : List Tree) (next : Nat)
  | failed
  /-- Not matched, and not to be matched by a later alternative. -/
  | abandoned

/-- Why reading stops. -/
inductive Halt
  /-- The fault at the end of the tokens has been reached. -/
  | fault (fault : Fault)
  | problem (problem : Problem)

/-- What is known while tokens are read. -/
structure Memory where
  known : Std.HashMap (Rule × Nat) Match
  /-- The number of tokens that have been looked at. -/
  reached : Nat

/-- Reading, which may stop with a problem. -/
abbrev Reading := ExceptT Halt (StateM Memory)

/-- The tokens of a text and the fault that they end with. -/
structure Division where
  tokens : Array Token
  fault : Option Fault

namespace Division

/-- The token at an index. -/
def token (d : Division) (i : Nat) : Reading Token :=
  match d.tokens[i]? with
  | some t => do
    modify fun m => { m with reached := max m.reached (i + 1) }
    return t
  | none => throw <| match d.fault with
    | some fault => .fault fault
    | none => .problem .invalid

/-- The match of a token of a class. -/
def matchToken (d : Division) (i : Nat) (p : Token → Bool) : Reading Match := do
  let t ← d.token i
  return if p t then .found [.token t] (i + 1) else .failed

/-- The names that are keywords in some statements. -/
def softKeywords : List String :=
  ["_", "case", "match"]

/-- The problem with the trees that an alternative of a rule matches. -/
def problem? (rule : Rule) (trees : List Tree) : Option Problem :=
  match rule, trees with
  | .quotations, _ => quotationsProblem? none (Tree.quotations trees)
  | .atom, [.token t] => if t.kind = .number then numberProblem? t.text else none
  | _, _ => none

mutual

/-- The match of a pattern at an index, with or without diagnoses; `depth` bounds the work. -/
def read (d : Division) (isDiagnosing : Bool) : Nat → Pattern → Nat → Reading Match
  | 0, _, _ => throw (.problem .invalid)
  | depth + 1, pattern, i =>
    match pattern with
    | .symbol text => d.matchToken i fun t => t.kind = .symbol ∧ t.text = text.toList
    | .name => d.matchToken i (·.kind = .name)
    | .softKeyword => d.matchToken i fun t =>
      t.kind = .name ∧ softKeywords.any fun s => s.toList = t.text
    | .number => d.matchToken i (·.kind = .number)
    | .quotation => d.matchToken i (·.kind = .quotation)
    | .newline => d.matchToken i (·.kind = .newline)
    | .finish => d.matchToken i (·.kind = .finish)
    | .rule rule => d.readRule isDiagnosing depth rule i
    | .diagnosis rule => if isDiagnosing then d.readRule true depth rule i else return .failed
    | .plain rule => d.readRule false depth rule i
    | .all patterns => d.readAll isDiagnosing depth patterns i
    | .any patterns => d.readAny isDiagnosing depth patterns i
    | .optional pattern => do
      match ← d.read isDiagnosing depth pattern i with
      | .failed => return .found [] i
      | result => return result
    | .many pattern => do
      match ← d.read isDiagnosing depth pattern i with
      | .found first next =>
        match ← d.read isDiagnosing depth (.many pattern) next with
        | .found others next => return .found (first ++ others) next
        | result => return result
      | .failed => return .found [] i
      | .abandoned => return .abandoned
    | .ahead pattern => do
      match ← d.read isDiagnosing depth pattern i with
      | .found _ _ => return .found [] i
      | result => return result
    | .notAhead pattern => do
      match ← d.read isDiagnosing depth pattern i with
      | .found _ _ => return .failed
      | _ => return .found [] i
    | .committed patterns => do
      match ← d.readAll isDiagnosing depth patterns i with
      | .failed => return .abandoned
      | result => return result

/-- The match of several patterns one behind the other. -/
def readAll (d : Division) (isDiagnosing : Bool) : Nat → List Pattern → Nat → Reading Match
  | 0, _, _ => throw (.problem .invalid)
  | _, [], i => return .found [] i
  | depth + 1, pattern :: rest, i => do
    match ← d.read isDiagnosing depth pattern i with
    | .found first next =>
      match ← d.readAll isDiagnosing depth rest next with
      | .found others next => return .found (first ++ others) next
      | result => return result
    | result => return result

/-- The first match of several patterns. -/
def readAny (d : Division) (isDiagnosing : Bool) : Nat → List Pattern → Nat → Reading Match
  | 0, _, _ => throw (.problem .invalid)
  | _, [], _ => return .failed
  | depth + 1, pattern :: rest, i => do
    match ← d.read isDiagnosing depth pattern i with
    | .failed => d.readAny isDiagnosing depth rest i
    | result => return result

/-- The match of a rule, which may be known already. -/
def readRule (d : Division) (isDiagnosing : Bool) : Nat → Rule → Nat → Reading Match
  | 0, _, _ => throw (.problem .invalid)
  | depth + 1, rule, i => do
    match (← get).known[(rule, i)]? with
    | some result => return result
    | none =>
      let result ← d.readAlternatives isDiagnosing depth rule rule.alternatives i
      if rule.isRemembered then modify fun m => { m with known := m.known.insert (rule, i) result }
      return result

/-- The match of a rule by the first of some alternatives. -/
def readAlternatives (d : Division) (isDiagnosing : Bool) :
    Nat → Rule → List Alternative → Nat → Reading Match
  | 0, _, _, _ => throw (.problem .invalid)
  | _, _, [], _ => return .failed
  | depth + 1, rule, alternative :: rest, i => do
    match ← d.readAll isDiagnosing depth alternative.patterns i with
    | .failed => d.readAlternatives isDiagnosing depth rule rest i
    | .abandoned => return .failed
    | .found trees next =>
      match alternative.complaint with
      | none =>
        match problem? rule trees with
        | some problem => throw (.problem problem)
        | none => return .found [.node rule trees] next
      | some complaint =>
        let last ← d.token (next - 1)
        match complaint.problem? trees last.level with
        | some problem => throw (.problem problem)
        | none => return .failed

end

/-- A depth that is enough for so many tokens. -/
def depthFor (tokens : Nat) : Nat :=
  1000 * (tokens + 1)

/-- One reading of all tokens, and the number of tokens that it has looked at. -/
def attempt (d : Division) (isDiagnosing : Bool) : Except Halt Match × Nat :=
  let (result, memory) :=
    (d.read isDiagnosing (depthFor d.tokens.size) (.rule .whole) 0).run.run ⟨∅, 0⟩
  (result, memory.reached)

/-- The problem that counts where one has been found after so many tokens; `isExplained` says that
it is known what was meant. -/
def weighed (d : Division) (isExplained : Bool) (problem : Problem) (reached : Nat) : Problem :=
  match d.fault with
  | none => problem
  | some fault =>
    match fault.weight with
    | .light => problem
    | .grave => fault.problem
    | .pending opening line isSeen =>
      let isBehind := d.tokens[reached - 1]?.any fun last => line < last.line
      if isBehind && !(isExplained && isSeen && reached = d.tokens.size) then .unclosed opening
      else problem

/-- The tree of an expression, or why there is none. -/
def tree (d : Division) : Except Problem Tree :=
  match d.attempt false with
  | (.ok (.found (tree :: _) _), _) => .ok tree
  | (.error (.fault fault), _) => .error fault.problem
  | (.error (.problem problem), reached) => .error (d.weighed true problem reached)
  | (.ok _, reached) =>
    match d.attempt true with
    | (.error (.fault fault), _) => .error fault.problem
    | (.error (.problem problem), reached) => .error (d.weighed true problem reached)
    | (.ok _, furthest) =>
      if (d.tokens[reached - 1]?).any (·.kind = .indent) then .error .unexpectedIndent
      else .error (d.weighed false .invalid furthest)

end Division

/-- The tree of an expression, or why a text is none. -/
def read (text : Characters) : Except Problem Tree :=
  let (tokens, fault) := tokens text
  Division.tree ⟨tokens.toArray, fault⟩

end Expression

end Interpolation
