import Interpolation.Text.Blank

/-!
# Margins

A text that is written between the lines of a program has a margin: the spacing that all of its
lines but the first one begin with.  `withoutMargin` takes it away, together with the spacing before
the first line and the empty lines at both ends.  Tabs are made blanks before.
-/

set_option autoImplicit false

namespace Interpolation

namespace Characters

/-- The distance of the columns that tabs lead to. -/
def tabDistance : Nat := 8

/-- A text with blanks for its tabs, from a column on; columns count characters. -/
def withoutTabs (column : Nat) : Characters → Characters
  | [] => []
  | c :: rest =>
    if c = '\t' then
      let room := tabDistance - column % tabDistance
      List.replicate room ' ' ++ withoutTabs (column + room) rest
    else c :: withoutTabs (if c = '\n' ∨ c = '\r' then 0 else column + 1) rest

/-- The margin of lines, which are not all spacing. -/
def margin (lines : List Characters) : Nat :=
  ((lines.filter fun line => !line.all isSpacing).map fun line =>
    (line.takeWhile isSpacing).length).min?.getD 0

/-- Lines without the empty ones at both ends. -/
def withoutEmptyEnds (lines : List Characters) : List Characters :=
  ((lines.dropWhile (· = [])).reverse.dropWhile (· = [])).reverse

/-- A text without its margin. -/
def withoutMargin (text : Characters) : Characters :=
  match (withoutTabs 0 text).splitOn '\n' with
  | [] => []
  | first :: rest =>
    let others := rest.map (·.drop (margin rest))
    ['\n'].intercalate (withoutEmptyEnds (first.dropWhile isSpacing :: others))

end Characters

end Interpolation
