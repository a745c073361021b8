import Interpolation.Layout.Lines
import Interpolation.Markup
import Interpolation.Program.Request
import Interpolation.Properties
import Interpolation.Text.ControlSequence

/-!
# Doing what is asked for

An action is done with the settings and the source of the values.  It gives everything that it has
to print, or it fails and prints nothing but the reason: there is no partial output.

The output goes to an outlet.  One that is no terminal does not get the control sequences of a text,
and no outlet gets a text that its encoding cannot write.  A text that cannot be written is a reason
for resolving a text to fail; showing a property breaks off then, without an outcome.
-/

set_option autoImplicit false

namespace Interpolation

namespace Program

/-! ## Outlets -/

/-- Where the output of the program goes. -/
structure Outlet where
  isTerminal : Bool
  encoding : Encoding

/-- What an outlet is given of a text: on a terminal the text as it is, and else the text without
its control sequences. -/
def Outlet.shown (outlet : Outlet) (text : Text) : Text :=
  if outlet.isTerminal then text else text.withoutSequences

/-- Writes a text, or says why it cannot be written. -/
def Outlet.write (outlet : Outlet) (text : Text) : Except Encoding.Fault Text :=
  match outlet.encoding.fault? (outlet.shown text) with
  | none => .ok (outlet.shown text)
  | some fault => .error fault

/-! ## Outcomes -/

/-- What is left when a program has ended. -/
structure Outcome where
  /-- The exit status. -/
  status : Nat
  output : Text
  errors : Characters
  log : List Log.Entry
deriving DecidableEq

namespace Outcome

/-- The outcome of an action that has printed all of its output. -/
def done (output : Text) (log : List Log.Entry) : Outcome :=
  ⟨0, output, [], log⟩

/-- A reason for a failure as it is printed: on lines of any length. -/
def errorText (message : Text) : Characters :=
  Layout.printed <|
    (("Error: ".toList ++ Markup.shownAsIs message.shown).splitOn '\n').map Layout.expandTabs

/-- The outcome of an action that has failed. -/
def failed (verb : Verb) (message : Text) (log : List Log.Entry) : Outcome :=
  ⟨1, [], errorText message,
    log ++ [⟨.debug, .ofCharacters verb.command.name ++ " failed: ".text ++ message⟩]⟩

end Outcome

/-- Why the program breaks off without an outcome. -/
inductive Breakdown
  | settings (r : Rejection)
  | level (u : Log.Level.Unknown)
  /-- The variables cannot be read, for a reason that is not the user's. -/
  | file (p : Variables.Problem)
  /-- What stands for a path is none. -/
  | brokenPath (fault : PathFault)
  /-- The output cannot be written in the encoding of the outlet. -/
  | unwritable (encoding : Encoding) (fault : Encoding.Fault)

/-- The wording of a breakdown. -/
def Breakdown.message : Breakdown → Text
  | settings r => r.explanation
  | level u => u.message
  | file p => p.message
  | brokenPath fault => fault.message.text
  | unwritable encoding fault => (encoding.message fault).text

/-! ## Resolving a text -/

/-- The fields of a dialect that options take the place of. -/
def Overrides.fields (o : Overrides) : List (Text × Value) :=
  let text (t : Option Text) := (t.map Value.text).getD .null
  [("open_delimiter".text, text o.opening), ("close_delimiter".text, text o.closing),
    ("value_separator".text, text o.separator),
    ("ignore_unresolvable".text, (o.strict.map fun strict => Value.bool !strict).getD .null)]

/-- Resolves the placeholders in a text and prints the result. -/
def resolveText (outlet : Outlet) (s : Settings) (resolver : Resolver (List Lookup)) (text : Text)
    (o : Overrides) : Outcome :=
  match s.expander o.fields with
  | .error rejection => .failed .resolve rejection.explanation []
  | .ok expander =>
    match (expander.replace (.text text) (.usable resolver)).run ⟨[], []⟩ with
    | (.ok result, ledger) =>
      match outlet.write result with
      | .ok output => .done output ledger.log
      | .error fault => .failed .resolve (outlet.encoding.message fault).text ledger.log
    | (.error failure, ledger) => .failed .resolve failure.message ledger.log

/-! ## Properties -/

/-- Does operations on properties one after the other, and gives what the last one gives. -/
def performAll (resolver : Resolver (List Lookup)) :
    List Properties.Operation → Properties.Task (List Lookup) Value
  | [] => return .null
  | [operation] => Properties.perform resolver operation
  | operation :: rest => do
    let _ ← Properties.perform resolver operation
    performAll resolver rest

/-- Does operations on properties and prints what comes of them.  A dialect that is rejected is no
failure of the action, but ends the program. -/
def withProperties (s : Settings) (resolver : Resolver (List Lookup)) (verb : Verb)
    (operations : List Properties.Operation)
    (succeed : Value → List Log.Entry → Except Breakdown Outcome) : Except Breakdown Outcome :=
  match (performAll resolver operations).run ⟨⟨[], []⟩, .ofSettings s⟩ with
  | (.ok value, session) => succeed value session.log
  | (.error (.failure failure), session) => .ok (.failed verb failure.message session.log)
  | (.error (.rejected rejection), _) => .error (.settings rejection)

/-- Prints the value of a property. -/
def getProperty (outlet : Outlet) (s : Settings) (resolver : Resolver (List Lookup)) (name : Text) :
    Except Breakdown Outcome :=
  withProperties s resolver .get [.getRequired (.text name) .text] fun value log =>
    match outlet.write (value.plain ++ "\n".text) with
    | .ok output => .ok (.done output log)
    | .error fault => .error (.unwritable outlet.encoding fault)

/-- Tells that properties have values. -/
def validateProperties (s : Settings) (resolver : Resolver (List Lookup)) (names : List Text) :
    Except Breakdown Outcome :=
  withProperties s resolver .validate [.require (names.map .text), .validate] fun _ log =>
    .ok ⟨0, [], s!"All {names.length} required properties are defined.\n".toList, log⟩

/-! ## Any action -/

/-- Does an action, where a text that is not given is read from the input. -/
def Action.perform (outlet : Outlet) (s : Settings) (resolver : Resolver (List Lookup))
    (input : Characters) : Action → Except Breakdown Outcome
  | .resolve text o =>
    .ok (resolveText outlet s resolver (text.getD (.ofCharacters input.withLineFeeds)) o)
  | .get name => getProperty outlet s resolver name
  | .validate names => validateProperties s resolver names

end Program

end Interpolation
