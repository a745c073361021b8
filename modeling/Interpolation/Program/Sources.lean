import Interpolation.Source
import Interpolation.Variables

/-!
# The sources of the program

The values of names come from definitions on the command line, then from the environment if that is
asked for, and then from a variables file.  A definition is a name, an equals sign and a value; of
several definitions of a name the last one counts.
-/

set_option autoImplicit false

namespace Interpolation

namespace Program

/-! ## Definitions -/

/-- The name and the value of a definition. -/
def definition? (item : Text) : Option (Text × Text) :=
  match Text.cutAt? [.char '='] item with
  | none | some ([], _) => none
  | some (name, value) => some (name, value)

/-- The definitions that items write, added to those before, where a definition takes the place of
one for its name; or the first item that writes none. -/
def definitionsOf (before : List (Text × Text)) : List Text → Except Text (List (Text × Text))
  | [] => .ok before
  | item :: rest =>
    match definition? item with
    | none => .error item
    | some (name, value) => definitionsOf (Value.setMember before name value) rest

/-! ## The chain -/

/-- Where values are asked for to come from. -/
structure Origins where
  definitions : List (Text × Text)
  /-- Whether the environment is looked at. -/
  fromEnvironment : Bool
  /-- What stands before a name in the environment. -/
  stem : Text
  /-- The variables file, if one is given. -/
  file : Option Text
deriving DecidableEq

/-- A table of texts. -/
def tableOf (entries : List (Text × Text)) : Source :=
  .table (entries.map fun (name, value) => (name, .text value))

/-- The source of the values: what comes first counts first. -/
def Origins.source (origins : Origins) (fileEntries : List (Text × Text)) : Source :=
  .chain <| [tableOf origins.definitions] ++
    (if origins.fromEnvironment then [.environment (.text origins.stem) none] else []) ++
    [tableOf fileEntries]

end Program

end Interpolation
