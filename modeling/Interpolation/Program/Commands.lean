import Interpolation.CommandLine.Page

/-!
# The commands of the program

The program is a group of three commands: one resolves the placeholders in a text, one shows a
property, and one checks that properties are defined.  The options of the group say where the values
of names come from.
-/

set_option autoImplicit false

namespace Interpolation

namespace Program

open CommandLine

/-- The name of the program. -/
def name : Characters := "phres".toList

/-- The version of the program. -/
def version : Characters := "0.1.0".toList

/-! ## Resolving a text -/

/-- The command that resolves the placeholders in a text. -/
def resolve : Command where
  name := "resolve".toList
  help := some <| helpText "Resolve the placeholders in a piece of text.".toList
    "phres -D NAME=VALUE resolve <text>".toList
    [("<text>".toList, "Text to resolve; '-' or nothing reads standard input.".toList),
      ("--prefix".toList, "Opening delimiter (default from settings).".toList),
      ("--suffix".toList, "Closing delimiter (default from settings).".toList),
      ("--separator".toList, "Default-value separator; '' disables defaults.".toList),
      ("--strict".toList, "Fail on unresolvable placeholders.".toList)]
  shortHelp := some "Resolve placeholders in text".toList
  parameters := [
    .argument "text".toList,
    .option "prefix".toList ["--prefix".toList] [] true "Opening delimiter.".toList,
    .option "suffix".toList ["--suffix".toList] [] true "Closing delimiter.".toList,
    .option "separator".toList ["--separator".toList] [] true "Default-value separator.".toList,
    .option "strict".toList ["--strict".toList] ["--lenient".toList] false
      "Fail on unresolvable placeholders.".toList]
  offersHelp := true
  isHidden := false

/-! ## Showing a property -/

/-- The command that shows a property. -/
def get : Command where
  name := "get".toList
  help := some <| helpText "Show a property with its placeholders resolved.".toList
    "phres -D NAME=VALUE get <name>".toList
    [("<name>".toList, "The name of the property to show.".toList)]
  shortHelp := some "Show one resolved property".toList
  parameters := [.argument "name".toList]
  offersHelp := true
  isHidden := false

/-! ## Checking properties -/

/-- The command that checks that properties are defined. -/
def validate : Command where
  name := "validate".toList
  help := some <| helpText "Check that every named property is defined.".toList
    "phres --vars FILE validate <name>...".toList
    [("<name>...".toList, "Names of the required properties.".toList)]
  shortHelp := some "Check required properties".toList
  parameters := [.argument "names".toList]
  offersHelp := true
  isHidden := false

/-! ## The group -/

/-- What the program does. -/
def purpose : Characters :=
  "phres Placeholder Resolver\n\n".toList ++
    "    Resolve $\x7bname\x7d placeholders against -D definitions, the environment,\n".toList ++
    "    and a JSON variables file, in that order of precedence.".toList

/-- The group of the commands. -/
def group : Group where
  name := name
  help := some purpose
  shortHelp := none
  parameters := [
    .option "define".toList ["-D".toList, "--define".toList] [] true
      "Define a property as NAME=VALUE (repeatable).".toList,
    .option "env".toList ["--env".toList] ["--no-env".toList] false
      "Resolve from the environment.".toList,
    .option "env_prefix".toList ["--env-prefix".toList] [] true
      "Prefix added to environment lookups.".toList,
    .option "vars".toList ["--vars".toList] [] true
      "JSON object of variables (default: user config vars.json).".toList,
    .option "version".toList ["--version".toList] [] false "Show the version and exit.".toList]
  offersHelp := true
  isHidden := false
  commands := [resolve, get, validate]

/-- How the group is used. -/
def groupManner : Characters := "[OPTIONS] COMMAND [ARGS]...".toList

/-! ## Verbs -/

/-- What the program can be told to do. -/
inductive Verb
  | resolve
  | get
  | validate
deriving DecidableEq

namespace Verb

/-- All verbs. -/
def all : List Verb := [resolve, get, validate]

/-- The command of a verb. -/
def command : Verb → Command
  | resolve => Program.resolve
  | get => Program.get
  | validate => Program.validate

/-- How the command of a verb is used. -/
def manner : Verb → Characters
  | resolve => "[OPTIONS] [TEXT]".toList
  | get => "[OPTIONS] NAME".toList
  | validate => "[OPTIONS] NAMES...".toList

/-- The path of names that calls the command of a verb. -/
def path (verb : Verb) : Characters :=
  name ++ ' ' :: verb.command.name

/-- The verb whose command has a name. -/
def ofName? (name : Text) : Option Verb :=
  all.find? fun verb => Text.ofCharacters verb.command.name = name

end Verb

end Program

end Interpolation
