import Interpolation.CommandLine.Command
import Interpolation.Layout.Panel
import Interpolation.Layout.Table
import Interpolation.Log
import Interpolation.Markup
import Interpolation.Text.Capitals
import Interpolation.Text.Order

/-!
# Help pages

The help text of a command is marked up and says what the command does and how it is used.  The help
page of a command shows it in a panel, above a table of the command's parameters; the page of a
group shows a usage line, the help text of the group as it is, a table of its commands and one of
its parameters.

A page is printed block by block.  A block that cannot be shown ends the page with the problem,
which is also logged.
-/

set_option autoImplicit false

namespace Interpolation

namespace CommandLine

/-! ## Help texts -/

/-- A text between an opening and a closing tag. -/
def styled (style : String) (text : Characters) : Characters :=
  '[' :: style.toList ++ ']' :: text ++ "[/".toList ++ style.toList ++ [']']

/-- A help text: what a command does, how it is used, and what its arguments and options are. -/
def helpText (description usage : Characters) (arguments : List (Characters × Characters)) :
    Characters :=
  let explained := arguments.map fun (name, explanation) =>
    "    ".toList ++ styled "green" name ++ ": ".toList ++ explanation
  styled "bold cyan" description ++ "\n\n".toList ++ styled "bold yellow" "Usage:".toList ++
    "\n    ".toList ++ styled "green" usage ++ ['\n'] ++
    if arguments = [] then []
    else '\n' :: styled "bold yellow" "Arguments:".toList ++ '\n' :: ['\n'].intercalate explained

/-! ## Parameter tables -/

/-- The row of a parameter: what it is called and what it is for. -/
def Parameter.row : Parameter → Characters × Characters
  | option _ flags opposites _ help => (", ".toList.intercalate (flags ++ opposites), help)
  | argument key => (key.capitals, "(argument)".toList)

/-- The rows of a command's parameters, marked up so that they show as they are. -/
def Command.rows (c : Command) : List (Characters × Characters) :=
  c.listed.map fun p => (Markup.escape p.row.1, Markup.escape p.row.2)

/-! ## Pages -/

/-- Lines to be printed, or why they cannot be. -/
abbrev Block := Except Markup.Problem (List Characters)

/-- A printed page, with the problem that ended it. -/
structure Page where
  text : Characters
  problem : Option Markup.Problem

/-- A marked-up text as lines of the page. -/
def textBlock (marked : Characters) : Block :=
  (Markup.shown marked).map Layout.paragraph

/-- What marked-up texts show. -/
def shownAll : List Characters → Except Markup.Problem (List Characters)
  | [] => .ok []
  | text :: rest => do
    let first ← Markup.shown text
    let others ← shownAll rest
    return first :: others

/-- A table of marked-up rows. -/
def tableOf (margin : Nat) (rows : List (Characters × Characters)) :
    Except Markup.Problem Layout.Table := do
  let names ← shownAll (rows.map (·.1))
  let descriptions ← shownAll (rows.map (·.2))
  return ⟨margin, names.zip descriptions⟩

/-- The table of a command's parameters. -/
def Command.parameterBlock (c : Command) : Block :=
  (tableOf 0 c.rows).map (·.lines)

/-- The wording that ends a page. -/
def problemText (problem : Markup.Problem) : Characters :=
  "Help rendering error: ".toList ++ problem.message

/-- The log entry for a problem that has ended a page. -/
def problemEntry (problem : Markup.Problem) : Log.Entry :=
  ⟨.debug, .ofCharacters (problemText problem)⟩

/-- The page of some blocks. -/
def Page.ofBlocks : List Block → Page
  | [] => ⟨[], none⟩
  | .ok lines :: rest =>
    let page := ofBlocks rest
    { page with text := Layout.printed lines ++ page.text }
  | .error problem :: _ =>
    ⟨Layout.printed (Layout.paragraph (Markup.shownAsIs (problemText problem))), some problem⟩

/-- The log entries for a page. -/
def Page.log (page : Page) : List Log.Entry :=
  page.problem.toList.map problemEntry

/-- The help text that is shown for a command. -/
def Command.shownHelp (c : Command) : Characters :=
  match c.help with
  | none | some [] => "No help text available.".toList
  | some help => help

/-- A path of names as pages show it. -/
def shownPath (path : Characters) : Characters :=
  path.dropWhile Characters.isSpacing

/-- The panel of a command; beside its longest line the help text has room for ten characters. -/
def Command.panelBlock (path : Characters) (c : Command) : Block := do
  let text ← Markup.shown c.shownHelp
  let title := if path = [] then none else some (Markup.shownAsIs path)
  let limit := Layout.widest List.length c.shownHelp + 10
  return (Layout.Panel.mk title text limit).lines

/-- The help page of a command, which is called by a path of names. -/
def Command.page (path : Characters) (c : Command) : Page :=
  .ofBlocks (c.panelBlock (shownPath path) :: if c.listed = [] then [] else [c.parameterBlock])

/-- The usage line of a group. -/
def usageLine (path : Characters) : Characters :=
  styled "bold yellow" "Usage:".toList ++ ' ' :: styled "cyan" (Markup.escape path) ++
    ' ' :: styled "magenta" "\\[SOURCES] COMMAND \\[ARGS]...".toList ++ ['\n']

/-- The commands of a group that are listed, in the order of their names. -/
def Group.listedCommands (g : Group) : List Command :=
  let isBefore (a b : Command) : Bool := Text.isAtMost (.ofCharacters a.name) (.ofCharacters b.name)
  ((lastOfNames g.commands).mergeSort isBefore).filter fun c => !c.isHidden

/-- The table of a group's commands. -/
def Group.commandBlock (g : Group) : Block := do
  let rows := g.listedCommands.map fun c => (c.name, c.summary)
  let table ← tableOf 1 (("Command".toList, "Description".toList) :: rows)
  return table.titledLines "Available Commands".toList

/-- The help text of a group as it is shown; nothing if there is none. -/
def Group.helpBlocks (g : Group) : List Block :=
  match g.help with
  | none | some [] => []
  | some help =>
    [textBlock (styled "bold cyan" (Markup.escape (help.trimBy Characters.isSpacing)) ++ ['\n'])]

/-- The parameters of a group below a heading. -/
def Group.parameterBlocks (g : Group) : List Block :=
  if g.listed = [] then []
  else
    [textBlock ('\n' :: styled "bold yellow" "Property sources and options:".toList),
      g.parameterBlock]

/-- The help page of a group, which is called by a path of names. -/
def Group.page (path : Characters) (g : Group) : Page :=
  .ofBlocks (textBlock (usageLine (shownPath path)) :: g.helpBlocks ++ [g.commandBlock] ++
    g.parameterBlocks)

end CommandLine

end Interpolation
