import Interpolation.Text.CodePoint

/-!
# Lines of a text

A line ends with a line feed or another character that starts a new line or a new page, with one of
the first three information separators, or with a carriage return, which counts as one end together
with a line feed behind it.  What is behind the last end is a line if it is not empty.
-/

set_option autoImplicit false

namespace Interpolation

namespace Characters

/-- Whether a character ends a line. -/
def endsLine (c : Char) : Bool :=
  let n := c.toNat
  (0x0A ≤ n && n ≤ 0x0D) || (0x1C ≤ n && n ≤ 0x1E) || n = 0x85 || n = 0x2028 || n = 0x2029

/-- The lines of a text, where the line in hand has some characters already, the last one first. -/
def linesFrom (line : Characters) : Characters → List Characters
  | [] => if line = [] then [] else [line.reverse]
  | '\r' :: '\n' :: rest => line.reverse :: linesFrom [] rest
  | c :: rest =>
    if endsLine c then line.reverse :: linesFrom [] rest else linesFrom (c :: line) rest

/-- The lines of a text, without the characters that end them. -/
def lines (text : Characters) : List Characters :=
  linesFrom [] text

end Characters

end Interpolation
