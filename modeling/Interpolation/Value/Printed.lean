import Interpolation.Value
import Interpolation.Decimal.Shortest
import Interpolation.Text.Quoted

/-!
# Printed values

How values appear in messages.  `quoted` writes a text between quotes and every list and object with
its members quoted; `plain` is the same, but for a text, which it leaves as it is.
-/

set_option autoImplicit false

namespace Interpolation

/-- Messages write a float positionally from `1e-4` up to below `1e16`. -/
def messageLayout : Binary64.Layout where
  leastPositional := -4
  leastScientific := 16
  exponentWidth := 2
  nan := "nan".toList
  infinity := "inf".toList

namespace Value

mutual

/-- A value as messages write it, texts between quotes. -/
def quoted : Value → Text
  | null => "None".text
  | bool b => if b then "True".text else "False".text
  | int n => Text.ofInt n
  | float x => Text.ofCharacters (messageLayout.write x)
  | text t => t.quoted
  | list items => "[".text ++ quotedItems items ++ "]".text
  | object members => "\x7b".text ++ quotedMembers members ++ "\x7d".text
  | foreign f => f.written

/-- The items of a list, with commas between them. -/
def quotedItems : List Value → Text
  | [] => []
  | [item] => quoted item
  | item :: rest => quoted item ++ ", ".text ++ quotedItems rest

/-- The members of an object, with commas between them. -/
def quotedMembers : List (Text × Value) → Text
  | [] => []
  | [(name, value)] => name.quoted ++ ": ".text ++ quoted value
  | (name, value) :: rest =>
    name.quoted ++ ": ".text ++ quoted value ++ ", ".text ++ quotedMembers rest

end

/-- A value as messages write it, a text without quotes. -/
def plain : Value → Text
  | text t => t
  | value => value.quoted

end Value

end Interpolation
