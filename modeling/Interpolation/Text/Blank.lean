import Interpolation.Text.CodePoint

/-!
# Blank characters

A character is blank if it has the Unicode property White_Space.  It is spacing if it is blank or
one of the four information separators.  This file holds the two classes, the removal of such
characters from the two ends of a text, and the words that stand between them.
-/

set_option autoImplicit false

namespace Interpolation

namespace Characters

/-- Whether a character has the Unicode property White_Space. -/
def isBlank (c : Char) : Bool :=
  let n := c.toNat
  (0x09 ≤ n && n ≤ 0x0D) || n = 0x20 || n = 0x85 || n = 0xA0 || n = 0x1680 ||
    (0x2000 ≤ n && n ≤ 0x200A) || n = 0x2028 || n = 0x2029 || n = 0x202F || n = 0x205F ||
    n = 0x3000

/-- Whether a character is blank or an information separator. -/
def isSpacing (c : Char) : Bool :=
  isBlank c || (0x1C ≤ c.toNat && c.toNat ≤ 0x1F)

/-- The text without the characters of a class at its end. -/
def dropEndWhile (p : Char → Bool) (text : Characters) : Characters :=
  (text.reverse.dropWhile p).reverse

/-- The text without the characters of a class at its two ends. -/
def trimBy (p : Char → Bool) (text : Characters) : Characters :=
  dropEndWhile p (text.dropWhile p)

/-- The text without the blanks at its two ends. -/
def trim (text : Characters) : Characters :=
  trimBy isBlank text

/-- The words of a text, which are its parts between spacing. -/
def words (text : Characters) : List Characters :=
  (text.splitOnP isSpacing).filter (· ≠ [])

end Characters

end Interpolation
