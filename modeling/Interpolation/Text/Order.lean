import Interpolation.Text.CodePoint

/-!
# The order of texts

Texts are in the order of their first different code points, by number; where there is none, the
shorter one comes first.
-/

set_option autoImplicit false

namespace Interpolation

namespace Text

/-- Whether a text comes before another one or is the same. -/
def isAtMost : Text → Text → Bool
  | [], _ => true
  | _ :: _, [] => false
  | a :: left, b :: right => a.toNat < b.toNat || (a = b && isAtMost left right)

end Text

end Interpolation
