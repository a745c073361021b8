import Interpolation.Program.Action

/-!
# The program

The program reads its settings from the environment and its words from the command line.  Bad
settings keep it from starting; everything else has an outcome: an exit status, what is printed on
the two outputs, and the log entries, of which there are none if the settings ask for quiet.
-/

set_option autoImplicit false

namespace Interpolation

namespace Program

open CommandLine

/-- What a program finds when it is started. -/
structure World where
  environment : Environment
  files : Files
  /-- The path of the variables file where none is given. -/
  defaultFile : Text
  /-- What can be read from the input. -/
  input : Characters
  outlet : Outlet

/-! ## Outcomes without an action -/

/-- The outcome of printing a help page that was asked for, with an empty line behind it. -/
def ofPage (page : Page) (log : List Log.Entry) : Outcome :=
  ⟨0, .ofCharacters page.text ++ "\n".text, [], log ++ page.log⟩

/-- The outcome of calling the program without any words. -/
def withoutWords (log : List Log.Entry) : Outcome :=
  let page := group.page name
  ⟨2, .ofCharacters page.text, "\n".toList, log ++ page.log⟩

/-- The outcome of a command line that ends early, in a command that is called by a path of names.
-/
def ofEnding (path manner : Characters) (page : Page) (log : List Log.Entry) :
    Ending → Except Breakdown Outcome
  | .page => .ok (ofPage page log)
  | .version =>
    .ok ⟨0, .ofCharacters name ++ ", version ".text ++ .ofCharacters version ++ "\n".text, [], log⟩
  | .problem p => .ok ⟨2, [], (p.report path manner).withoutSequences.shown, log⟩
  | .brokenPath fault => .error (.brokenPath fault)

/-- The outcome of a command line that ends early in the group. -/
def ofGroupEnding (log : List Log.Entry) (ending : Ending) : Except Breakdown Outcome :=
  ofEnding name groupManner (group.page name) log ending

/-- The outcome of a command line that ends early in the command of a verb. -/
def ofVerbEnding (verb : Verb) (log : List Log.Entry) (ending : Ending) :
    Except Breakdown Outcome :=
  ofEnding verb.path verb.manner (verb.command.page verb.path) log ending

/-! ## Running -/

/-- The log entry for the start of the program. -/
def startEntry (words : List Text) : Log.Entry :=
  ⟨.debug, .ofCharacters name ++ " invoked with ".text ++ (Value.list (words.map .text)).quoted⟩

/-- The log entry for the source of the values. -/
def sourceEntry (source : Source) : Log.Entry :=
  ⟨.debug, "Property sources: ".text ++ source.describe⟩

/-- Does what words tell a verb, with the values of a source. -/
def runVerb (world : World) (s : Settings) (source : Source) (log : List Log.Entry) (verb : Verb)
    (words : List Text) : Except Breakdown Outcome :=
  match verb.read words with
  | .error ending => ofVerbEnding verb log ending
  | .ok action =>
    (action.perform world.outlet s (source.resolver world.environment) world.input).map
      fun outcome => { outcome with log := log ++ outcome.log }

/-- Does what words ask for, with values of certain origins. -/
def runFrom (world : World) (s : Settings) (origins : Origins) (log : List Log.Entry) (verb : Verb)
    (words : List Text) : Except Breakdown Outcome :=
  match Variables.load world.files (shortPath (origins.file.getD world.defaultFile)) with
  | .error problem =>
    if problem.isInContent then ofGroupEnding log (.problem (.badVariables problem.message))
    else .error (.file problem)
  | .ok (fileEntries, entry) =>
    let source := origins.source fileEntries
    runVerb world s source (log ++ [entry, sourceEntry source]) verb words

/-- Does what words ask for. -/
def runWords (world : World) (s : Settings) (words : List Text) : Except Breakdown Outcome :=
  let log := [startEntry words]
  if words = [] then .ok (withoutWords log)
  else
    match readOrigins world.files words with
    | .error ending => ofGroupEnding log ending
    | .ok (origins, rest) =>
      match chooseVerb world.files rest with
      | .error ending => ofGroupEnding log ending
      | .ok (verb, rest) => runFrom world s origins log verb rest

/-- Runs the program. -/
def run (world : World) (words : List Text) : Except Breakdown Outcome :=
  match Settings.read world.environment [] with
  | .error rejection => .error (.settings rejection)
  | .ok s =>
    match Log.Level.ofName s.level with
    | .error unknown => .error (.level unknown)
    | .ok _ =>
      (runWords world s words).map fun outcome =>
        if s.quiet then { outcome with log := [] } else outcome

/-- The entries of a log that are shown in an environment. -/
def shownEntries (environment : Environment) (log : List Log.Entry) : List Log.Entry :=
  match (Settings.read environment []).toOption.map fun s => Log.Level.ofName s.level with
  | some (.ok least) => log.filter (Log.Entry.isKept least)
  | _ => []

/-! ## Interruption -/

/-- The outcome of an interruption by the user. -/
def interrupted : Outcome :=
  ⟨130, [], "\nInterrupted by user. Exiting.\n".toList, []⟩

end Program

end Interpolation
