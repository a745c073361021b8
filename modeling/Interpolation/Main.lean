import Interpolation.Program

/-!
# The command line program

This is all that reads and writes: it gathers what the program finds when it is started, runs the
program, and prints the outcome.
-/

set_option autoImplicit false

namespace Interpolation

namespace Program

/-- The string of a text; half of a surrogate pair is written as its escape. -/
def stringOf (text : Text) : String :=
  String.ofList text.shown

/-- The content of a file, or that there is a directory. -/
def readEntry (path : Text) : IO (Option FileEntry) := do
  try
    let content ← IO.FS.readBinFile (stringOf path)
    return some (.file content.toList)
  catch
    | .inappropriateType .. => return some .directory
    | _ => return none

/-- The environment that the program has been started in. -/
def readEnvironment : IO Environment := do
  let content ← IO.FS.readBinFile "/proc/self/environ"
  let items := (content.toList.splitOn 0).filterMap fun bytes => (Utf8.decode bytes).toOption
  return items.filterMap fun item => definition? (.ofCharacters item)

/-- The path of the variables file of the user. -/
def userFile (environment : Environment) : Text :=
  let home := (environment.get? "HOME".text).getD []
  let directory := (environment.get? "XDG_CONFIG_HOME".text).getD (home ++ "/.config".text)
  directory ++ "/phres/vars.json".text

/-- A path, after the paths of the directories on the way to it. -/
def pathsTo (path : Text) : List Text :=
  let parts := path.splitOn (.char '/')
  (List.range parts.length).map fun n => "/".text.intercalate (parts.take (n + 1))

/-- The files that words mention, and the one of the user, with the directories on the way. -/
def readFiles (default : Text) (words : List Text) : IO Files := do
  let mut files : Files := []
  for path in (default :: mentionedFiles words).flatMap pathsTo do
    if let some entry ← readEntry path then
      files := files ++ [(placeOf path, entry)]
  return files

/-- The text that can be read from the input. -/
def readInput : IO Characters := do
  let content ← (← IO.getStdin).readBinToEnd
  match Utf8.decode content.toList with
  | .ok text => return text
  | .error fault => throw (IO.userError fault.message)

end Program

end Interpolation

open Interpolation in
/-- Runs the program on the words of the command line. -/
def main (arguments : List String) : IO UInt32 := do
  let words := arguments.map String.text
  let environment ← Program.readEnvironment
  let defaultFile := Program.userFile environment
  let files ← Program.readFiles defaultFile words
  let input ← if Program.asksForInput files words then Program.readInput else pure []
  let outlet := ⟨← (← IO.getStdout).isTty, .utf8⟩
  match Program.run ⟨environment, files, defaultFile, input, outlet⟩ words with
  | .error breakdown =>
    IO.eprintln (Program.stringOf breakdown.message)
    return 1
  | .ok outcome =>
    for entry in Program.shownEntries environment outcome.log do
      IO.eprintln s!"{entry.level.name} {Program.stringOf entry.message}"
    IO.print (Program.stringOf outcome.output)
    IO.eprint (String.ofList outcome.errors)
    return outcome.status.toUInt32
