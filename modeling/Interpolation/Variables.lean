import Interpolation.Files
import Interpolation.Json.Reader
import Interpolation.Json.Writer
import Interpolation.Log
import Interpolation.Text.Utf8

/-!
# Variables files

A variables file holds a JSON object.  A member whose value is a text gives that text to its name; a
member with another value gives the JSON text of the value; a null member gives nothing.  A file
that does not exist holds no variables.
-/

set_option autoImplicit false

namespace Interpolation

/-- Characters in which every line ends with a line feed: a carriage return ends a line too, alone
or before a line feed. -/
def Characters.withLineFeeds : Characters → Characters
  | [] => []
  | '\r' :: '\n' :: rest => '\n' :: withLineFeeds rest
  | '\r' :: rest => '\n' :: withLineFeeds rest
  | c :: rest => c :: withLineFeeds rest

namespace Variables

/-! ## Reading -/

/-- Why variables cannot be read. -/
inductive Problem
  | directory (path : Text)
  | nameTooLong (path : Text)
  | encoding (f : Utf8.Fault)
  | json (f : Json.Fault)
  | notAnObject (path : Text)

/-- The wording of a problem. -/
def Problem.message : Problem → Text
  | directory path => "[Errno 21] Is a directory: ".text ++ path.quoted
  | nameTooLong path => "[Errno 36] File name too long: ".text ++ path.quoted
  | encoding f => f.message.text
  | json f => f.message.text
  | notAnObject path =>
    "Variables file ".text ++ path ++ " must contain a JSON object".text

/-- Whether a problem is a fault in what a file holds. -/
def Problem.isInContent : Problem → Bool
  | encoding _ | notAnObject _ => true
  | json f => match f.problem with
    | .tooDeep _ => false
    | _ => true
  | _ => false

/-- How many lists and objects may stand in each other in a variables file. -/
def depthLimit : Nat := 985

/-- The text of a value that is a variable's, if it is one. -/
def textOf? : Value → Option Text
  | .null => none
  | .text t => some t
  | value => some (.ofCharacters (Json.write value))

/-- The variable that a member of an object gives. -/
def ofMember? (member : Text × Value) : Option (Text × Text) :=
  (textOf? member.2).map (member.1, ·)

/-- The variables that the members of an object give. -/
def ofMembers (members : List (Text × Value)) : List (Text × Text) :=
  members.filterMap ofMember?

/-- The members of the object that a text holds. -/
def membersOf (path : Text) (text : Characters) : Except Problem (List (Text × Value)) :=
  match Json.read Characters.digitLimit depthLimit text with
  | .error fault => .error (.json fault)
  | .ok (.object members) => .ok members
  | .ok _ => .error (.notAnObject path)

/-- The members of the object in the file that a path leads to, if it leads to a file. -/
def membersAt? (files : Files) (path : Text) :
    Except Problem (Option (List (Text × Value))) :=
  match files.lookUp path with
  | .nothing => .ok none
  | .nameTooLong => .error (.nameTooLong path)
  | .entry .directory => .error (.directory path)
  | .entry (.file content) =>
    match Utf8.decode content with
    | .error fault => .error (.encoding fault)
    | .ok text => (membersOf path text.withLineFeeds).map some

/-- The variables in the file that a path leads to, and the log entry for them. -/
def load (files : Files) (path : Text) : Except Problem (List (Text × Text) × Log.Entry) :=
  (membersAt? files path).map fun
    | none => ([], ⟨.debug, "No variables file at ".text ++ path⟩)
    | some members =>
      (ofMembers members,
        ⟨.debug, s!"Loaded {members.length} variable(s) from ".text ++ path⟩)

end Variables

end Interpolation
