import Interpolation.Text.Digits
import Interpolation.Text.Order
import Interpolation.Text.Quoted

/-!
# Usage problems

Why a command line cannot be followed.  A problem is reported below the usage line of the command
that it arose in and a hint at its help page; the two problems with the value of an option are
reported alone.  Where a word means nothing, the report names the words that are similar to it.
-/

set_option autoImplicit false

namespace Interpolation

namespace CommandLine

/-- Why a command line cannot be followed. -/
inductive UsageProblem
  /-- A flag means nothing; some flags that do are similar to it. -/
  | noSuchOption (flag : Text) (similar : List Text)
  /-- The value of an option is missing. -/
  | valueMissing (flag : Text)
  /-- A value is given for an option that takes none. -/
  | valueUnwanted (flag : Text)
  | argumentMissing (label : Text)
  | argumentsUnwanted (words : List Text)
  | commandMissing
  /-- A name is no command's; the names of some commands are similar to it. -/
  | noSuchCommand (name : Text) (similar : List Text)
  /-- A definition has no equals sign or no name. -/
  | badDefinition (item : Text)
  | fileMissing (path : Text)
  | fileIsDirectory (path : Text)
  /-- The variables file cannot be read. -/
  | badVariables (message : Text)
deriving DecidableEq

namespace UsageProblem

/-- What follows a word that means nothing: the words that may have been meant, in their order. -/
def guess (similar : List Text) : Text :=
  match similar.mergeSort Text.isAtMost with
  | [] => []
  | [word] => " Did you mean ".text ++ word.quoted ++ "?".text
  | words =>
    " (Did you mean one of: ".text ++ (", ".text).intercalate (words.map Text.quoted) ++
      "?)".text

/-- The wording of a problem. -/
def message : UsageProblem → Text
  | noSuchOption flag similar =>
    "No such option ".text ++ flag.quoted ++ ".".text ++ guess similar
  | valueMissing flag => "Option ".text ++ flag.quoted ++ " requires an argument.".text
  | valueUnwanted flag => "Option ".text ++ flag.quoted ++ " does not take a value.".text
  | argumentMissing label => "Missing argument '".text ++ label ++ "'.".text
  | argumentsUnwanted words =>
    "Got unexpected extra argument".text ++ (if words.length = 1 then [] else "s".text) ++
      " (".text ++ " ".text.intercalate words ++ ")".text
  | commandMissing => "Missing command.".text
  | noSuchCommand name similar =>
    "No such command ".text ++ name.quoted ++ ".".text ++ guess similar
  | badDefinition item =>
    "Invalid value for '-D' / '--define': expected NAME=VALUE, got '".text ++ item ++
      "'".text
  | fileMissing path =>
    "Invalid value for '--vars': File ".text ++ path.quoted ++ " does not exist.".text
  | fileIsDirectory path =>
    "Invalid value for '--vars': File ".text ++ path.quoted ++ " is a directory.".text
  | badVariables message => "Invalid value for --vars: ".text ++ message

/-- Whether a problem is reported without the usage line. -/
def isBare : UsageProblem → Bool
  | valueMissing _ | valueUnwanted _ => true
  | _ => false

/-- The report of a problem in a command, which is called by a path of names and is used in a
certain way. -/
def report (path manner : Characters) (problem : UsageProblem) : Text :=
  (if problem.isBare then []
    else
      "Usage: ".text ++ .ofCharacters path ++ " ".text ++ .ofCharacters manner ++ "\nTry '".text ++
        .ofCharacters path ++ " --help' for help.\n\n".text) ++
    "Error: ".text ++ problem.message ++ "\n".text

end UsageProblem

end CommandLine

end Interpolation
