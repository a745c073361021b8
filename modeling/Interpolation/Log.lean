import Interpolation.Text.Capitals
import Interpolation.Text.Lines
import Interpolation.Text.Quoted

/-!
# The log

A log entry has a level and a message.  A log keeps the entries at or above a least level, and a
quiet program makes no entries at all.
-/

set_option autoImplicit false

namespace Interpolation

namespace Log

/-! ## Levels -/

/-- How weighty an entry is. -/
inductive Level
  | trace
  | debug
  | info
  | success
  | warning
  | error
  | critical
deriving DecidableEq

namespace Level

/-- All levels, from the least to the greatest. -/
def all : List Level :=
  [trace, debug, info, success, warning, error, critical]

/-- The name of a level. -/
def name : Level → String
  | trace => "TRACE"
  | debug => "DEBUG"
  | info => "INFO"
  | success => "SUCCESS"
  | warning => "WARNING"
  | error => "ERROR"
  | critical => "CRITICAL"

/-- The name of the function that makes entries of a level. -/
def function (level : Level) : String :=
  level.name.toLower

/-- The place of a level in their order. -/
def rank : Level → Nat
  | trace => 5
  | debug => 10
  | info => 20
  | success => 25
  | warning => 30
  | error => 40
  | critical => 50

/-- A level that does not exist; its name is in upper case. -/
structure Unknown where
  name : Text
deriving DecidableEq

/-- The wording of an unknown level. -/
def Unknown.message (u : Unknown) : Text :=
  "Level '".text ++ u.name ++ "' does not exist".text

/-- The level of a name, in which the case of letters does not count. -/
def ofName (name : Text) : Except Unknown Level :=
  let upper := name.capitals
  match all.find? fun level => level.name.text = upper with
  | some level => .ok level
  | none => .error ⟨upper⟩

end Level

/-! ## Entries -/

/-- One entry of a log. -/
structure Entry where
  level : Level
  message : Text
deriving DecidableEq

namespace Entry

/-- The entry for a placeholder that has been replaced by its value. -/
def substituted (name : Text) : Entry :=
  ⟨.trace, "Resolved placeholder '".text ++ name ++ "'".text⟩

/-- An entry at debug level. -/
def debug (message : String) : Entry :=
  ⟨.debug, message.text⟩

/-- Whether a log with a least level keeps an entry. -/
def isKept (least : Level) (entry : Entry) : Bool :=
  least.rank ≤ entry.level.rank

/-- An entry as it is printed. -/
def printed (entry : Entry) : Characters :=
  entry.level.name.toList ++ '|' :: entry.message.shown ++ ['\n']

end Entry

/-- The lines of several printed entries; an entry may be printed on several lines. -/
def printedLines (entries : List Entry) : List Characters :=
  Characters.lines (entries.flatMap Entry.printed)

end Log

end Interpolation
