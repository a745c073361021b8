import Interpolation.CommandLine.Reading
import Interpolation.Program.Commands
import Interpolation.Program.Sources

/-!
# What a command line asks for

The options of the group give the origins of values; the words behind them are a command with its
own options and arguments.  A command line that asks for a help page or for the version asks for
nothing else: such an option comes before every complaint but the one about words that cannot be
read.
-/

set_option autoImplicit false

namespace Interpolation

namespace Program

open CommandLine

/-- What ends the reading of a command line before there is something to do. -/
inductive Ending
  /-- A help page is asked for. -/
  | page
  /-- The version is asked for. -/
  | version
  | problem (p : UsageProblem)
  /-- What stands for a path is none. -/
  | brokenPath (fault : PathFault)
deriving DecidableEq

/-- Reads words, and ends at the first option that asks for a help page or for the version. -/
def readWords (parameters : List Parameter) (mixed : Bool) (words : List Text) :
    Except Ending Reading :=
  match read (parameters ++ [helpOption]) mixed words with
  | .error problem => .error (.problem problem)
  | .ok reading =>
    match reading.given.find? fun g => g.key = helpKey ∨ g.key = "version".toList with
    | none => .ok reading
    | some g => .error (if g.key = helpKey then .page else .version)

/-! ## The options of the group -/

/-- Why options of the group give no origins. -/
inductive OriginProblem
  | usage (p : UsageProblem)
  /-- What stands for a path is none. -/
  | brokenPath (fault : PathFault)
deriving DecidableEq

/-- The path of a variables file, if there is a file at it. -/
def variablesFile (files : Files) (path : Text) : Except OriginProblem Text :=
  match pathFault? path, files.lookUp path with
  | some fault, _ => .error (.brokenPath fault)
  | none, .nothing | none, .nameTooLong => .error (.usage (.fileMissing path))
  | none, .entry .directory => .error (.usage (.fileIsDirectory path))
  | none, .entry (.file _) => .ok path

/-- The definitions among the options of the group. -/
def givenDefinitions (reading : Reading) : Except OriginProblem (List (Text × Text)) :=
  (definitionsOf [] (reading.values "define")).mapError fun item => .usage (.badDefinition item)

/-- The variables file among the options of the group. -/
def givenFile (files : Files) (reading : Reading) : Except OriginProblem (Option Text) :=
  match reading.value? "vars" with
  | none => .ok none
  | some path => (variablesFile files path).map some

/-- Whether a variables file is given before any definition. -/
def givesFileFirst (reading : Reading) : Bool :=
  (reading.given.find? fun g => g.key ∈ ["define".toList, "vars".toList]).any
    fun g => g.key = "vars".toList

/-- The origins that the options of the group give.  Of two options with bad values the one that is
given first is complained about. -/
def origins (files : Files) (reading : Reading) : Except OriginProblem Origins :=
  match givenDefinitions reading, givenFile files reading with
  | .ok definitions, .ok file =>
    .ok {
      definitions, file
      fromEnvironment := (reading.switch? "env").getD false
      stem := (reading.value? "env_prefix").getD [] }
  | .error definition, .ok _ => .error definition
  | .ok _, .error file => .error file
  | .error definition, .error file =>
    .error (if givesFileFirst reading then file else definition)

/-- How the reading of a command line ends where its options give no origins. -/
def OriginProblem.ending : OriginProblem → Ending
  | usage p => .problem p
  | brokenPath fault => .brokenPath fault

/-- The origins that the words of a command line give, and the words from the command on. -/
def readOrigins (files : Files) (words : List Text) : Except Ending (Origins × List Text) :=
  match readWords group.parameters false words with
  | .error ending => .error ending
  | .ok reading =>
    match origins files reading with
    | .error problem => .error problem.ending
    | .ok origins => .ok (origins, reading.others)

/-! ## The command -/

/-- The verb that the next word names, and the words behind it.  If there is no such command and the
word looks like an option, it is read as one of the group first. -/
def chooseVerb (files : Files) : List Text → Except Ending (Verb × List Text)
  | [] => .error (.problem .commandMissing)
  | word :: rest =>
    match Verb.ofName? word with
    | some verb => .ok (verb, rest)
    | none =>
      let similar := Text.closest offeredWords word
        (Verb.all.map fun verb => .ofCharacters verb.command.name)
      let unknown : Except Ending (Verb × List Text) :=
        .error (.problem (.noSuchCommand word similar))
      if word.head? = some (.char '-') then
        match readOrigins files (word :: rest) with
        | .error ending => .error ending
        | .ok _ => unknown
      else unknown

/-- What the options of a command say about the dialect. -/
structure Overrides where
  opening : Option Text
  closing : Option Text
  separator : Option Text
  strict : Option Bool
deriving DecidableEq

/-- What is to be done. -/
inductive Action
  /-- The placeholders in a text are resolved; without a text, those in the input. -/
  | resolve (text : Option Text) (overrides : Overrides)
  | get (name : Text)
  | validate (names : List Text)
deriving DecidableEq

/-- The verb of an action. -/
def Action.verb : Action → Verb
  | resolve _ _ => .resolve
  | get _ => .get
  | validate _ => .validate

/-- The only argument of a command, if it has one. -/
def onlyArgument (reading : Reading) : Except UsageProblem (Option Text) :=
  match reading.others with
  | [] => .ok none
  | [word] => .ok (some word)
  | _ :: extra => .error (.argumentsUnwanted extra)

/-- The action that the options and arguments of a verb's command give. -/
def Verb.action (verb : Verb) (reading : Reading) : Except UsageProblem Action :=
  match verb with
  | resolve => do
    let text ← onlyArgument reading
    return .resolve (text.filter (· ≠ "-".text))
      ⟨reading.value? "prefix", reading.value? "suffix", reading.value? "separator",
        reading.switch? "strict"⟩
  | get => do
    match ← onlyArgument reading with
    | none => throw (.argumentMissing "NAME".text)
    | some name => return .get name
  | validate =>
    if reading.others = [] then .error (.argumentMissing "NAMES...".text)
    else .ok (.validate reading.others)

/-- The action that words give to a verb. -/
def Verb.read (verb : Verb) (words : List Text) : Except Ending Action :=
  match readWords verb.command.parameters true words with
  | .error ending => .error ending
  | .ok reading => (verb.action reading).mapError .problem

/-! ## What has to be read -/

/-- The paths of variables files that words may mention. -/
def mentionedFiles : List Text → List Text
  | [] => []
  | word :: rest =>
    let attached :=
      if "--vars=".text <+: word then [word.drop 7]
      else if word = "--vars".text then rest.take 1
      else []
    attached ++ mentionedFiles rest

/-- Whether words ask for the placeholders in the input. -/
def asksForInput (files : Files) (words : List Text) : Bool :=
  let action := do
    let (_, rest) ← readOrigins files words
    let (verb, rest) ← chooseVerb files rest
    verb.read rest
  action matches .ok (.resolve none _)

end Program

end Interpolation
