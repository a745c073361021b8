import Interpolation.Layout.Lines

/-!
# Tables

A table has a column of names and a column of descriptions, two blanks apart.  Every row is as wide
as the table.  Where the table would be wider than the page, the descriptions give way: they are
broken into lines, while a name stands on its lines as it is, or is cut off.
-/

set_option autoImplicit false

namespace Interpolation

namespace Layout

/-- A table of names and their descriptions. -/
structure Table where
  /-- The number of blanks before the first column and behind the last one. -/
  margin : Nat
  rows : List (Characters × Characters)

namespace Table

/-- The width of a column, its blanks included, that its texts need; not more than the page has. -/
def columnWidth (t : Table) (texts : List Characters) : Nat :=
  texts.foldl (fun most text => max most (min (widest width text + t.margin + 1) pageWidth))
    (t.margin + 1)

/-- The width of the column of names. -/
def nameWidth (t : Table) : Nat :=
  t.columnWidth (t.rows.map (·.1))

/-- The width of the column of descriptions, which takes what the names leave. -/
def descriptionWidth (t : Table) : Nat :=
  min (t.columnWidth (t.rows.map (·.2))) (pageWidth - t.nameWidth)

/-- The width of the table. -/
def width (t : Table) : Nat :=
  t.nameWidth + t.descriptionWidth

/-- A line of a cell between blanks. -/
def spaced (before room behind : Nat) (line : Characters) : Characters :=
  List.replicate before ' ' ++ padded room line ++ List.replicate behind ' '

/-- The lines of a name. -/
def nameLines (t : Table) (name : Characters) : List Characters :=
  let room := t.nameWidth - t.margin - 1
  if room = 0 then [] else (unbroken room name).map (spaced t.margin room 1)

/-- The lines of a description. -/
def descriptionLines (t : Table) (description : Characters) : List Characters :=
  let room := t.descriptionWidth - t.margin - 1
  if room = 0 then []
  else (wrapped .ellipsis room description).map (spaced 1 room t.margin)

/-- The lines of a row. -/
def rowLines (t : Table) (row : Characters × Characters) : List Characters :=
  let names := t.nameLines row.1
  let descriptions := t.descriptionLines row.2
  (List.range (max 1 (max names.length descriptions.length))).map fun i =>
    padded t.nameWidth (names[i]?.getD []) ++
      padded t.descriptionWidth (descriptions[i]?.getD [])

/-- The lines of a table. -/
def lines (t : Table) : List Characters :=
  t.rows.flatMap t.rowLines

/-- The lines of a table below a title. -/
def titledLines (t : Table) (title : Characters) : List Characters :=
  (wrapped .fold t.width title).map (padded t.width) ++ t.lines

end Table

end Layout

end Interpolation
