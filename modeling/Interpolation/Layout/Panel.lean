import Interpolation.Layout.Lines

/-!
# Panels

A panel is a text in a frame with round corners and a title in its upper edge.  Inside the frame a
blank stands on both sides of the text.  A panel is as wide as its text or its title needs, within a
limit on what the text may take and within the page.
-/

set_option autoImplicit false

namespace Interpolation

namespace Layout

/-- A text to be framed. -/
structure Panel where
  title : Option Characters
  text : Characters
  /-- The width that the text with its frame may take. -/
  limit : Nat

namespace Panel

/-- The title with a blank on both sides; nothing if there is no title. -/
def heading (p : Panel) : Characters :=
  match p.title with
  | none => []
  | some title => ' ' :: expandTabs (title.map fun c => if c = '\n' then ' ' else c) ++ [' ']

/-- The width between the two sides of the frame. -/
def inside (p : Panel) : Nat :=
  let forText := min (widest width p.text + 2) (min p.limit pageWidth - 2)
  if p.title.isNone then forText else min (pageWidth - 2) (max forText (width p.heading + 2))

/-- A horizontal line of a frame. -/
def edge (length : Nat) : Characters :=
  List.replicate length '─'

/-- The upper edge, with the title in it if there is room. -/
def upperEdge (p : Panel) : Characters :=
  if p.title.isNone ∨ p.inside ≤ 2 then '╭' :: edge p.inside ++ ['╮']
  else
    let room := p.inside - 2
    let heading := cut .fold room p.heading
    "╭─".toList ++ heading ++ edge (room - width heading) ++ "─╮".toList

/-- The lines of a panel. -/
def lines (p : Panel) : List Characters :=
  let room := p.inside - 2
  let body := if room = 0 then [] else wrapped .fold room p.text
  [p.upperEdge] ++ body.map (fun line => "│ ".toList ++ padded room line ++ " │".toList) ++
    ['╰' :: edge p.inside ++ ['╯']]

end Panel

end Layout

end Interpolation
