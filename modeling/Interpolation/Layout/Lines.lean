import Interpolation.Layout.Width
import Interpolation.Text.Blank
import Interpolation.Text.Lines

/-!
# Lines

A text is laid out in lines of a width.  It is broken at its line feeds, and a line that is too long
is broken before a word, where a word holds the spacing behind it.  The spacing at the end of a line
may reach beyond the width; what does is left out.

What becomes of a word that fits into no line is a choice: it is folded into several lines, or cut
off with an ellipsis.
-/

set_option autoImplicit false

namespace Interpolation

namespace Layout

/-! ## Tabs and words -/

/-- The distance of the columns that tabs lead to. -/
def tabStop : Nat := 8

/-- Parts of a line, the first of them at a column, with blanks between them up to the next stop. -/
def tabbed (column : Nat) : List Characters → Characters
  | [] => []
  | [part] => part
  | part :: rest =>
    let reached := column + width (part ++ [' '])
    let room := (tabStop - reached % tabStop) % tabStop
    part ++ List.replicate (1 + room) ' ' ++ tabbed (reached + room) rest

/-- A line with blanks for its tabs. -/
def expandTabs (line : Characters) : Characters :=
  tabbed 0 (line.splitOn '\t')

/-- The words of a line, each with the spacing behind it; the first one also has the spacing
before it. -/
def spacedWords (line : Characters) : List Characters :=
  match line.splitBy fun a b => !Characters.isSpacing a || Characters.isSpacing b with
  | first :: second :: rest =>
    if first.all Characters.isSpacing then (first ++ second) :: rest else first :: second :: rest
  | [only] => if only.all Characters.isSpacing then [] else [only]
  | [] => []

/-! ## Breaking a line -/

/-- What becomes of a word that fits into no line. -/
inductive Overflow
  /-- It goes on in the next line. -/
  | fold
  /-- It is cut off, with an ellipsis at its end. -/
  | ellipsis
deriving DecidableEq

/-- Lines that are being filled: the finished ones, the last one first, and the one in hand. -/
structure Filling where
  finished : List Characters
  current : Characters
  /-- The number of cells that the line in hand takes. -/
  used : Nat

/-- The lines with a break at their end, unless nothing has been laid out, and a text behind it. -/
def Filling.newLine (f : Filling) (text : Characters) : Filling :=
  if f.finished = [] ∧ f.current = [] then ⟨[], text, width text⟩
  else ⟨f.current :: f.finished, text, width text⟩

/-- Clusters in pieces that fit into a width, each as long as possible; `piece` is the piece in hand
and `used` the number of its cells. -/
def chop (limit : Nat) (piece : Characters) (used : Nat) : List Cluster → List Characters
  | [] => [piece]
  | cluster :: rest =>
    if used + cluster.cells ≤ limit then
      chop limit (piece ++ cluster.text) (used + cluster.cells) rest
    else piece :: chop limit cluster.text cluster.cells rest

/-- The lines with one more word. -/
def Filling.place (overflow : Overflow) (limit : Nat) (f : Filling) (word : Characters) : Filling :=
  let length := width (word.dropEndWhile Characters.isSpacing)
  if f.used + length ≤ limit then ⟨f.finished, f.current ++ word, f.used + width word⟩
  else if limit < length ∧ overflow = .fold then
    (chop limit [] 0 (clusters word)).foldl Filling.newLine f
  else f.newLine word

/-- The lines that a line is broken into. -/
def breakLine (overflow : Overflow) (limit : Nat) (line : Characters) : List Characters :=
  match spacedWords line with
  | [] => [line]
  | words =>
    let f := words.foldl (Filling.place overflow limit) ⟨[], [], 0⟩
    (f.current :: f.finished).reverse

/-! ## Fitting a line -/

/-- A line without the spacing at its end that is beyond a number of characters. -/
def dropExcess (limit : Nat) (line : Characters) : Characters :=
  let spacing := line.length - (line.dropEndWhile Characters.isSpacing).length
  line.take (line.length - min spacing (line.length - limit))

/-- A line cut off at a width. -/
def cut (overflow : Overflow) (limit : Nat) (line : Characters) : Characters :=
  if width line ≤ limit then line
  else
    match overflow with
    | .fold => fitting limit (clusters line)
    | .ellipsis => fitting (limit - 1) (clusters line) ++ ['…']

/-- The lines of a text that is broken where it has to be. -/
def wrapped (overflow : Overflow) (limit : Nat) (text : Characters) : List Characters :=
  (text.splitOn '\n').flatMap fun line =>
    (breakLine overflow limit (expandTabs line)).map fun line =>
      cut overflow limit (dropExcess limit line)

/-- The lines of a text that is broken at its line feeds only; what does not fit is cut off. -/
def unbroken (limit : Nat) (text : Characters) : List Characters :=
  (text.splitOn '\n').map fun line =>
    cut .ellipsis limit (dropExcess limit (expandTabs line))

/-! ## Whole texts -/

/-- The width of a page. -/
def pageWidth : Nat := 80

/-- Lines as one text, each with a line feed at its end. -/
def printed (lines : List Characters) : Characters :=
  lines.flatMap (· ++ ['\n'])

/-- A text as lines of the page. -/
def paragraph (text : Characters) : List Characters :=
  wrapped .fold pageWidth text

/-- The greatest measure of the lines of a text. -/
def widest (measure : Characters → Nat) (text : Characters) : Nat :=
  (text.lines.map measure).foldl max 0

end Layout

end Interpolation
