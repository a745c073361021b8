import Interpolation.Expression.Problem

/-!
# The grammar of expressions

A grammar gives each rule its alternatives in order, and an alternative is a pattern of tokens and
rules.  The first alternative that matches counts, and a pattern that is repeated is repeated as
often as possible.

Some rules match what is no expression but is written in place of one.  These diagnoses are only
tried when a text is known to be no expression; what they match is the reason for a complaint.
-/

set_option autoImplicit false

namespace Interpolation

namespace Expression

/-- The rules of the grammar. -/
inductive Rule
  | whole
  | expressions
  | expression
  | plainExpression
  | starExpressions
  | starExpression
  | elements
  | element
  | yielded
  | naming
  | named
  | disjunction
  | conjunction
  | inversion
  | comparison
  | union
  | difference
  | intersection
  | shift
  | sum
  | product
  | factor
  | power
  | awaited
  | primary
  | attributeOf
  | callWith
  | atom
  | quotations
  | tuple
  | group
  | generator
  | set
  | setComprehension
  | dictionary
  | dictionaryComprehension
  | entry
  | pair
  | clauses
  | clause
  | targets
  | target
  | targetWithin
  | targetAtom
  | targetPrimary
  | arguments
  | values
  | positionalValues
  | namedValues
  | starred
  | namedOrStarred
  | namedOrDoubleStarred
  | function
  | parameters
  | parametersBeforeSlash
  | defaultsBeforeSlash
  | parametersBehindStar
  | doubleStarParameter
  | bareParameter
  | defaultParameter
  | anyParameter
  | default
  | expressionDiagnosis
  | statementDiagnosis
  | namedDiagnosis
  | groupDiagnosis
  | comprehensionDiagnosis
  | dictionaryComprehensionDiagnosis
  | entriesDiagnosis
  | pairDiagnosis
  | clauseDiagnosis
  | argumentsDiagnosis
  | namedValueDiagnosis
  | parametersDiagnosis
  | starDiagnosis
  | doubleStarDiagnosis
  | defaultDiagnosis
deriving DecidableEq, Hashable

/-- Patterns of tokens. -/
inductive Pattern
  | symbol (text : String)
  | name
  /-- A name that is a keyword in some statements. -/
  | softKeyword
  | number
  | quotation
  | newline
  | finish
  | rule (rule : Rule)
  /-- A rule that is only tried to find what was meant. -/
  | diagnosis (rule : Rule)
  /-- A rule within which nothing is diagnosed. -/
  | plain (rule : Rule)
  | all (patterns : List Pattern)
  | any (patterns : List Pattern)
  | optional (pattern : Pattern)
  | many (pattern : Pattern)
  | ahead (pattern : Pattern)
  | notAhead (pattern : Pattern)
  /-- Patterns without which the rule in hand does not match by a later alternative either. -/
  | committed (patterns : List Pattern)

instance : Coe Rule Pattern := ⟨.rule⟩

instance : Coe String Pattern := ⟨.symbol⟩

/-- A pattern at least once. -/
def Pattern.some (pattern : Pattern) : Pattern :=
  .all [pattern, .many pattern]

/-- A pattern at least once, with commas between. -/
def Pattern.list (pattern : Pattern) : Pattern :=
  .all [pattern, .many (.all [",", pattern])]

/-- The complaints about what a diagnosis matches. -/
inductive Complaint
  /-- A fixed problem. -/
  | always (problem : Problem)
  | missingComma
  | missingParentheses
  | namesUnnamed
  | setsByMistake
  | setsConstant
  | setsTarget
  | bareGenerator
  | positionalBehind

/-- An alternative of a rule; where it has a complaint, it is not to match. -/
structure Alternative where
  patterns : List Pattern
  complaint : Option Complaint

/-- An alternative that is to match. -/
def form (patterns : List Pattern) : Alternative :=
  ⟨patterns, none⟩

/-- An alternative that is the reason for a complaint. -/
def complaint (patterns : List Pattern) (complaint : Complaint) : Alternative :=
  ⟨patterns, some complaint⟩

/-- An alternative that has always the same problem. -/
def problem (patterns : List Pattern) (problem : Problem) : Alternative :=
  ⟨patterns, some (.always problem)⟩

open Pattern in
/-- Operands of a rule with operators between. -/
def operation (operand : Rule) (operators : List Pattern) : List Alternative :=
  [form [operand, many (all [any operators, operand])]]

open Rule Pattern in
/-- The alternatives of a rule. -/
def Rule.alternatives : Rule → List Alternative
  | whole => [form [expressions, many newline, finish]]
  | expressions =>
    [form [expression, some (all [",", expression]), optional ","], form [expression, ","],
      form [expression]]
  | expression =>
    [form [diagnosis expressionDiagnosis], form [diagnosis statementDiagnosis],
      form [disjunction, "if", disjunction, "else", expression], form [disjunction],
      form [function]]
  | plainExpression =>
    [form [disjunction, "if", disjunction, "else", expression], form [disjunction],
      form [function]]
  | starExpressions =>
    [form [starExpression, some (all [",", starExpression]), optional ","],
      form [starExpression, ","], form [starExpression]]
  | starExpression => [form ["*", union], form [expression]]
  | elements => [form [list element, optional ","]]
  | element => [form ["*", union], form [named]]
  | yielded =>
    [form ["yield", "from", expression], form ["yield", optional starExpressions]]
  | naming => [form [name, ":=", committed [expression]]]
  | named =>
    [form [naming], form [diagnosis namedDiagnosis], form [expression, notAhead ":="]]
  | disjunction => operation conjunction ["or"]
  | conjunction => operation inversion ["and"]
  | inversion => [form ["not", inversion], form [comparison]]
  | comparison =>
    operation union
      ["==", "!=", "<=", "<", ">=", ">", all ["not", "in"], "in", all ["is", "not"], "is"]
  | union => operation difference ["|"]
  | difference => operation intersection ["^"]
  | intersection => operation shift ["&"]
  | shift => operation sum ["<<", ">>"]
  | sum => operation product ["+", "-"]
  | product => operation factor ["*", "/", "//", "%", "@"]
  | factor => [form [any ["+", "-", "~"], factor], form [power]]
  | power => [form [awaited, "**", factor], form [awaited]]
  | awaited => [form ["await", primary], form [primary]]
  | primary => [form [atom, many (any [attributeOf, generator, callWith])]]
  | attributeOf => [form [".", name]]
  | callWith => [form ["(", optional arguments, ")"]]
  | atom =>
    [form [name], form ["True"], form ["False"], form ["None"], form [ahead quotation, quotations],
      form [number], form [ahead "(", any [tuple, group, generator]],
      form [ahead "\x7b", any [dictionary, set, dictionaryComprehension, setComprehension]],
      form ["..."]]
  | quotations => [form [some quotation]]
  | tuple => [form ["(", optional (all [element, ",", optional elements]), ")"]]
  | group => [form ["(", any [yielded, named], ")"], form [diagnosis groupDiagnosis]]
  | generator =>
    [form ["(", any [naming, all [expression, notAhead ":="]], clauses, ")"],
      form [diagnosis comprehensionDiagnosis]]
  | set => [form ["\x7b", elements, "\x7d"]]
  | setComprehension =>
    [form ["\x7b", named, clauses, "\x7d"], form [diagnosis comprehensionDiagnosis]]
  | dictionary =>
    [form ["\x7b", optional (all [list entry, optional ","]), "\x7d"],
      form ["\x7b", entriesDiagnosis, "\x7d"]]
  | dictionaryComprehension =>
    [form ["\x7b", pair, clauses, "\x7d"], form [diagnosis dictionaryComprehensionDiagnosis]]
  | entry => [form ["**", union], form [pair]]
  | pair => [form [expression, ":", expression]]
  | clauses => [form [some clause]]
  | clause =>
    [form [optional "async", "for", targets, "in",
        committed [disjunction, many (all ["if", disjunction])]],
      form [diagnosis clauseDiagnosis]]
  | targets =>
    [form [target, notAhead ","], form [target, many (all [",", target]), optional ","]]
  | target => [form ["*", notAhead "*", target], form [targetWithin]]
  | targetWithin =>
    [form [targetPrimary, ".", name, notAhead (any ["(", "."])], form [targetAtom]]
  | targetAtom =>
    [form [name], form ["(", targetWithin, ")"],
      form ["(", optional (any [all [target, some (all [",", target]), optional ","],
        all [target, ","]]), ")"]]
  | targetPrimary =>
    [form [atom, ahead (any ["(", "."]),
      many (all [any [attributeOf, generator, callWith], ahead (any ["(", "."])])]]
  | arguments =>
    [form [values, optional ",", ahead ")"], form [diagnosis argumentsDiagnosis]]
  | values =>
    [form [positionalValues, optional (all [",", namedValues])], form [namedValues]]
  | positionalValues =>
    [form [list (any [starred, all [any [naming, all [expression, notAhead ":="]], notAhead "="]])]]
  | namedValues =>
    [form [list namedOrStarred, ",", list namedOrDoubleStarred], form [list namedOrStarred],
      form [list namedOrDoubleStarred]]
  | starred => [form ["*", expression], problem ["*"] .starAlone]
  | namedOrStarred =>
    [form [diagnosis namedValueDiagnosis], form [name, "=", expression], form [starred]]
  | namedOrDoubleStarred =>
    [form [diagnosis namedValueDiagnosis], form [name, "=", expression], form ["**", expression]]
  | function => [form ["lambda", optional parameters, ":", expression]]
  | parameters =>
    [form [diagnosis parametersDiagnosis],
      form [parametersBeforeSlash, many bareParameter, many defaultParameter,
        optional parametersBehindStar],
      form [defaultsBeforeSlash, many defaultParameter, optional parametersBehindStar],
      form [some bareParameter, many defaultParameter, optional parametersBehindStar],
      form [some defaultParameter, optional parametersBehindStar], form [parametersBehindStar]]
  | parametersBeforeSlash =>
    [form [some bareParameter, "/", any [",", ahead ":"]]]
  | defaultsBeforeSlash =>
    [form [many bareParameter, some defaultParameter, "/", any [",", ahead ":"]]]
  | parametersBehindStar =>
    [form [diagnosis starDiagnosis],
      form ["*", bareParameter, many anyParameter, optional doubleStarParameter],
      form ["*", ",", some anyParameter, optional doubleStarParameter],
      form [doubleStarParameter]]
  | doubleStarParameter => [form [diagnosis doubleStarDiagnosis], form ["**", bareParameter]]
  | bareParameter => [form [name, any [",", ahead ":"]]]
  | defaultParameter => [form [name, default, any [",", ahead ":"]]]
  | anyParameter => [form [name, optional default, any [",", ahead ":"]]]
  | default => [form ["=", expression], form [diagnosis defaultDiagnosis]]
  | expressionDiagnosis =>
    [complaint [notAhead (any [all [name, quotation], softKeyword]), disjunction,
        plain plainExpression] .missingComma,
      problem [disjunction, "if", disjunction, notAhead (any ["else", ":"])] .missingElse]
  | statementDiagnosis => [complaint [name, notAhead "(", starExpressions] .missingParentheses]
  | namedDiagnosis =>
    [complaint [expression, ":=", expression] .namesUnnamed,
      problem [name, "=", union, notAhead (any ["=", ":="])] .singleEquals,
      complaint [notAhead (any [tuple, generator, "True", "None", "False"]), union, "=", union,
        notAhead (any ["=", ":="])] .setsByMistake]
  | groupDiagnosis =>
    [problem ["(", starred, ")"] .starredGroup,
      problem ["(", "**", expression, ")"] .doubleStarredGroup]
  | comprehensionDiagnosis =>
    [problem [any ["(", "\x7b"], starred, clauses] .starredTarget,
      problem ["\x7b", element, ",", elements, clauses] .bareTarget,
      problem ["\x7b", element, ",", clauses] .bareTarget]
  | dictionaryComprehensionDiagnosis =>
    [problem ["\x7b", "**", union, clauses, "\x7d"] .doubleStarredTarget]
  | entriesDiagnosis =>
    [form [list entry, ",", pairDiagnosis],
      problem [expression, ":", "*", union] .starredValue,
      problem [expression, ":", ahead (any ["\x7d", ","])] .missingValue]
  | pairDiagnosis =>
    [problem [expression, notAhead ":"] .missingColon,
      problem [expression, ":", "*", union] .starredValue,
      problem [expression, ":", ahead (any ["\x7d", ","])] .missingValue]
  | clauseDiagnosis => [complaint [optional "async", "for", starExpressions] .setsTarget]
  | argumentsDiagnosis =>
    [problem [any [all [positionalValues, ",", namedValues], namedValues], ",",
        list (all [starred, notAhead "="])] .unpackingBehindNames,
      problem [expression, clauses, ",", optional (any [values, all [expression, clauses]])]
        .bareGenerator,
      problem [name, "=", expression, clauses] .singleEquals,
      complaint [values, clauses] .bareGenerator,
      problem [values, ",", expression, clauses] .bareGenerator,
      complaint [values, ",", values] .positionalBehind]
  | namedValueDiagnosis =>
    [complaint [any ["True", "False", "None"], "="] .setsConstant,
      problem [name, "=", expression, clauses] .singleEquals,
      problem [notAhead (all [name, "="]), expression, "="] .setsInCall]
  | parametersDiagnosis =>
    [problem [many bareParameter, any [defaultsBeforeSlash, some defaultParameter], bareParameter]
        .noDefaultBehindDefault,
      problem [many bareParameter, "(", list name, optional ",", ")"] .parenthesizedParameters,
      problem ["/", ","] .nothingBeforeSlash,
      problem [any [parametersBeforeSlash, defaultsBeforeSlash], many anyParameter, "/"]
        .secondSlash,
      problem [optional (any [parametersBeforeSlash, defaultsBeforeSlash]), many anyParameter, "*",
        any [",", bareParameter], many anyParameter, "/"] .slashBehindStar,
      problem [some anyParameter, "/", "*"] .missingCommaAtStar]
  | starDiagnosis =>
    [problem ["*", any [":", all [",", any [":", "**"]]]] .bareStar,
      problem ["*", name, "="] .starWithDefault,
      problem ["*", any [bareParameter, ","], many anyParameter, "*", any [bareParameter, ","]]
        .secondStar]
  | doubleStarDiagnosis =>
    [problem ["**", name, "="] .doubleStarWithDefault,
      problem ["**", name, ",", name] .behindDoubleStar,
      problem ["**", name, ",", any ["*", "**", "/"]] .behindDoubleStar]
  | defaultDiagnosis => [problem ["=", ahead (any [")", ","])] .missingDefault]

/-- Whether what a rule matches at a place is remembered. -/
def Rule.isRemembered : Rule → Bool
  | .starExpression | .expression | .disjunction | .conjunction | .inversion | .factor | .awaited
  | .arguments | .quotations | .target | .targetWithin | .union | .difference | .intersection
  | .shift | .sum | .product | .primary | .targetPrimary | .namedDiagnosis => true
  | _ => false

end Expression

end Interpolation
