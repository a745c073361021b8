import Interpolation.Layout.Cells

/-!
# The width of text

The characters of a text are shown in clusters: a character that takes cells, and those behind it
that are shown in the same cells.  These are the marks that take none, and a character behind a
joiner, whatever it takes by itself.  A selector of pictures gives a character one more cell if it
has a picture of two cells.

The width of a text is the sum over its clusters.  Only a joiner at the start of a text has no
cluster to join to: it takes the next character out of the measure, though this is a cluster when
the text is divided.
-/

set_option autoImplicit false

namespace Interpolation

namespace Layout

/-! ## Clusters -/

/-- The character that shows the next one in the cells of the last one. -/
def joiner : Char := '\u200D'

/-- The character that asks for the picture of the last one. -/
def pictureSelector : Char := '\uFE0F'

/-- Characters that are shown in the same cells. -/
structure Cluster where
  text : Characters
  /-- The number of cells that they take. -/
  cells : Nat
deriving DecidableEq

/-- A cluster with more characters. -/
def Cluster.extend (cluster : Cluster) (more : Characters) : Cluster :=
  { cluster with text := cluster.text ++ more }

/-- The clusters of a text behind the one in hand; `last` is the last character that took cells,
unless a selector has been applied to it. -/
def clustersFrom (cluster : Cluster) (last : Option Char) : Characters → List Cluster
  | [] => [cluster]
  | c :: rest =>
    if c = joiner then
      match rest with
      | [] => [cluster.extend [c]]
      | next :: rest => clustersFrom (cluster.extend [c, next]) last rest
    else if c = pictureSelector then
      let more := if last.any isEitherWide then 1 else 0
      clustersFrom { cluster.extend [c] with cells := cluster.cells + more } none rest
    else if cells c = 0 then clustersFrom (cluster.extend [c]) last rest
    else cluster :: clustersFrom ⟨[c], cells c⟩ (some c) rest

/-- The clusters of a text. -/
def clusters : Characters → List Cluster
  | [] => []
  | c :: rest => clustersFrom ⟨[c], cells c⟩ (if cells c = 0 then none else some c) rest

/-! ## Widths -/

/-- The number of cells of a text. -/
def width : Characters → Nat
  | ['\u200D'] => 0
  | '\u200D' :: _ :: rest => width rest
  | text => ((clusters text).map Cluster.cells).sum

/-- What fits into so many cells of clusters: as many of them as do, and a blank where only the half
of the next one would. -/
def fitting : Nat → List Cluster → Characters
  | 0, _ | _, [] => []
  | room, cluster :: rest =>
    if cluster.cells ≤ room then cluster.text ++ fitting (room - cluster.cells) rest
    else List.replicate room ' '

/-- The text with blanks behind it up to so many cells. -/
def padded (room : Nat) (text : Characters) : Characters :=
  text ++ List.replicate (room - width text) ' '

end Layout

end Interpolation
