import Interpolation.Log
import Interpolation.Log.Template.Written

/-!
# Message templates

A log message may be a template: braces hold the place of an argument, which is the next one, or one
given by its index, or one given by its name, or a part of such an argument.  Two braces of a kind
stand for one. Behind an exclamation mark a letter says how the argument is made a text, and behind
a colon stands how it is put into its place.

A message that comes without arguments is no template and is written as it is.
-/

set_option autoImplicit false

namespace Interpolation

namespace Log

/-! ## Reading a template -/

/-- The place of an argument in a template. -/
structure Place where
  /-- The name or the index of the argument, and the names of its parts. -/
  name : Text
  /-- How the argument is made a text, if that is said. -/
  conversion : Option CodePoint
  /-- What is said about the place; it may hold places of its own. -/
  placement : Text
deriving DecidableEq

/-- A part of a template. -/
inductive Piece
  | code (c : CodePoint)
  | place (p : Place)
deriving DecidableEq

/-- The number of characters of the name that a text begins with: up to a brace, a colon or an
exclamation mark that does not stand in brackets. -/
def nameLength (inBrackets : Bool) : Text → Nat
  | [] => 0
  | c :: rest =>
    if inBrackets then 1 + nameLength (c ≠ .char ']') rest
    else if c ∈ "\x7b\x7d:!".text then 0
    else 1 + nameLength (c = .char '[') rest

/-- What is said about a place, up to the brace that closes it, and the text behind; the number
tells how many braces are open. -/
def readPlacement : Nat → Text → Option (Text × Text)
  | _, [] => none
  | depth, c :: rest =>
    if c = .char '\x7d' then
      match depth with
      | 0 => some ([], rest)
      | depth + 1 => (readPlacement depth rest).map fun (text, rest) => (c :: text, rest)
    else
      (readPlacement (if c = .char '\x7b' then depth + 1 else depth) rest).map
        fun (text, rest) => (c :: text, rest)

/-- The place that ends a name, and the text behind it. -/
def readEnd (name : Text) (conversion : Option CodePoint) (text : Text) :
    Except TemplateProblem (Place × Text) :=
  match readPlacement 0 text with
  | none => .error .unclosedPlacement
  | some (placement, rest) => .ok (⟨name, conversion, placement⟩, rest)

/-- The place that a text behind an opening brace begins with, and the text behind the place. -/
def readPlace (text : Text) : Except TemplateProblem (Place × Text) :=
  let length := nameLength false text
  let name := text.take length
  match text.drop length with
  | .char '\x7d' :: rest => .ok (⟨name, none, []⟩, rest)
  | .char ':' :: rest => readEnd name none rest
  | [.char '!'] => .error .noConversion
  | [.char '!', _] => .error .unclosedPlacement
  | .char '!' :: c :: .char '\x7d' :: rest => .ok (⟨name, some c, []⟩, rest)
  | .char '!' :: c :: .char ':' :: rest => readEnd name (some c) rest
  | .char '!' :: _ => .error .longConversion
  | .char '\x7b' :: _ => .error .braceInName
  | _ => .error .unclosed

/-- The parts of a template, and what is wrong behind them.  Every part takes a character at least,
so as many steps as there are characters are enough. -/
def pieces : Nat → Text → List Piece × Option TemplateProblem
  | 0, _ | _, [] => ([], none)
  | steps + 1, c :: rest =>
    let go (piece : Piece) (rest : Text) :=
      let (more, problem) := pieces steps rest
      (piece :: more, problem)
    if c ≠ .char '\x7b' ∧ c ≠ .char '\x7d' then go (.code c) rest
    else if rest.head? = some c then go (.code c) (rest.drop 1)
    else if c = .char '\x7d' then ([], some .loneClosingBrace)
    else if rest = [] then ([], some .loneOpeningBrace)
    else
      match readPlace rest with
      | .error problem => ([], some problem)
      | .ok (place, rest) => go (.place place) rest

/-! ## Parts of arguments -/

/-- The part of a subject that names behind it lead to; every name takes a character at least. -/
def partOf : Nat → Subject → Text → Except TemplateProblem Subject
  | 0, subject, _ | _, subject, [] => .ok subject
  | steps + 1, subject, c :: rest =>
    if c = .char '.' then do
      let name := rest.takeWhile fun c => c ≠ .char '.' ∧ c ≠ .char '['
      if name = [] then throw .noPartName
      partOf steps (← subject.feature name) (rest.drop name.length)
    else if c = .char '[' then do
      let name := rest.takeWhile (· ≠ .char ']')
      if name = [] then throw .noPartName
      partOf steps (← subject.item name) (rest.drop (name.length + 1))
    else .error .strayBehindPart

/-! ## Filling a template -/

/-- How the places of a template have been numbered so far. -/
inductive Numbering
  | undecided
  | counting (next : Nat)
  | byIndex
deriving DecidableEq

/-- The arguments of a message. -/
structure Arguments where
  positional : List Value
  named : List (Text × Value)

/-- The argument at an index. -/
def Arguments.at (arguments : Arguments) (index : Nat) : Except TemplateProblem Value :=
  match arguments.positional[index]? with
  | some value => .ok value
  | none => .error (.noArgument index)

/-- The argument for the name of a place, and the numbering behind it. -/
def Arguments.lookUp (arguments : Arguments) (numbering : Numbering) (name : Text) :
    Except TemplateProblem (Value × Numbering) := do
  match ← Subject.index? name, numbering with
  | some _, .counting _ => throw .indexAfterCount
  | some index, _ => return (← arguments.at index, .byIndex)
  | none, numbering =>
    if name = [] then
      match numbering with
      | .undecided => return (← arguments.at 0, .counting 1)
      | .counting next => return (← arguments.at next, .counting (next + 1))
      | .byIndex => throw .countAfterIndex
    else
      match Value.member? arguments.named name with
      | some value => return (value, numbering)
      | none => throw (.noNamedArgument name)

/-- A subject made a text as a letter asks. -/
def converted (subject : Subject) : Option CodePoint → Except TemplateProblem Subject
  | none => .ok subject
  | some (.char 's') => .ok (.value (.text subject.plain))
  | some (.char 'r') => .ok (.value (.text subject.quoted))
  | some (.char 'a') =>
    .ok <| .value <| .text <| subject.quoted.flatMap fun c =>
      if c.toNat < 0x80 then [c] else Text.ofCharacters (numericEscape c.toNat)
  | some c => .error (.unknownConversion c)

/-- The text of a template, given what has been numbered before it. -/
abbrev Filler := Numbering → Text → Except TemplateProblem (Text × Numbering)

/-- The text at a place, and the numbering behind it; what is said about the place may be a
template. -/
def Arguments.fillPlace (arguments : Arguments) (nested : Filler) (numbering : Numbering)
    (p : Place) : Except TemplateProblem (Text × Numbering) := do
  let name := p.name.takeWhile fun c => c ≠ .char '.' ∧ c ≠ .char '['
  let (argument, numbering) ← arguments.lookUp numbering name
  let subject ← partOf p.name.length (.value argument) (p.name.drop name.length)
  let subject ← converted subject p.conversion
  let (placement, numbering) ←
    if .char '\x7b' ∈ p.placement then nested numbering p.placement
    else pure (p.placement, numbering)
  return (← written placement subject, numbering)

/-- The text of the parts of a template, and the numbering behind them. -/
def Arguments.fillPieces (arguments : Arguments) (nested : Filler) :
    Numbering → List Piece → Except TemplateProblem (Text × Numbering)
  | numbering, [] => .ok ([], numbering)
  | numbering, .code c :: rest =>
    (arguments.fillPieces nested numbering rest).map fun (text, numbering) => (c :: text, numbering)
  | numbering, .place p :: rest => do
    let (text, numbering) ← arguments.fillPlace nested numbering p
    let (more, numbering) ← arguments.fillPieces nested numbering rest
    return (text ++ more, numbering)

/-- The text of a template in which places may be nested so many times. -/
def Arguments.fill (arguments : Arguments) : Nat → Filler
  | 0, _, _ => .error .tooDeep
  | nesting + 1, numbering, template =>
    let (parts, problem) := pieces template.length template
    match arguments.fillPieces (arguments.fill nesting) numbering parts, problem with
    | .ok filled, none => .ok filled
    | .ok _, some problem => .error problem
    | .error problem, _ => .error problem

/-- The text of a template; a place may hold places, which hold none. -/
def Arguments.fillTemplate (arguments : Arguments) (template : Text) :
    Except TemplateProblem Text :=
  (arguments.fill 2 .undecided template).map (·.1)

/-- The text of a message, which is a template if it comes with arguments. -/
def messageText (message : Value) (arguments : Arguments) : Except TemplateProblem Text :=
  if arguments.positional.isEmpty ∧ arguments.named.isEmpty then .ok message.plain
  else
    match message with
    | .text template => arguments.fillTemplate template
    | other => .error (.notText other.kind)

/-! ## Logs -/

/-- A request to make an entry. -/
structure Request where
  level : Level
  /-- The message, if one is given. -/
  message : Option Value
  arguments : Arguments

/-- The entry that a request makes, if a log with a least level keeps it; the arguments of a message
are looked at only then. -/
def Request.entry? (least : Level) (request : Request) :
    Except TemplateProblem (Option Entry) :=
  match request.message with
  | none => .error (.noMessage request.level.function)
  | some message =>
    if least.rank ≤ request.level.rank then
      (messageText message request.arguments).map fun text => some ⟨request.level, text⟩
    else .ok none

/-- The entries that requests make in a log with a least level, up to the first request that cannot
be met, and why it cannot. -/
def keptEntries (least : Level) : List Request → List Entry × Option TemplateProblem
  | [] => ([], none)
  | request :: rest =>
    match request.entry? least with
    | .error problem => ([], some problem)
    | .ok entry =>
      let (entries, problem) := keptEntries least rest
      (entry.toList ++ entries, problem)

end Log

end Interpolation
