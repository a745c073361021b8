import Interpolation.Text.Digits
import Interpolation.Text.Quoted

/-!
# Problems with templates

Why a message template cannot be filled: it is not well formed, an argument that it asks for is not
there, or an argument cannot be written as it asks.
-/

set_option autoImplicit false

namespace Interpolation

namespace Log

/-- The greatest number that a template may write. -/
def greatestNumber : Nat := Nat.pow 2 63 - 1

/-- How the digits before the point are grouped. -/
inductive Grouping
  | comma
  | underscore
deriving DecidableEq

/-- The character between two groups. -/
def Grouping.separator : Grouping → Char
  | comma => ','
  | underscore => '_'

/-- Why a template cannot be filled. -/
inductive TemplateProblem
  -- The message and its braces.
  | noMessage (function : String)
  | notText (kind : String)
  | loneOpeningBrace
  | loneClosingBrace
  | braceInName
  | unclosed
  | unclosedPlacement
  | noConversion
  | longConversion
  | unknownConversion (c : CodePoint)
  | tooDeep
  -- Arguments.
  | noArgument (index : Nat)
  | noNamedArgument (name : Text)
  | indexAfterCount
  | countAfterIndex
  | tooManyDigits
  -- Parts of arguments.
  | noPartName
  | strayBehindPart
  | noAttribute (kind : String) (name : Text)
  | noAttributeOfKind (kind : String) (name : Text)
  | hasNoParts (kind : String)
  | kindHasNoParts (kind : String)
  | partNotNumbered (kind : String)
  | noPart (kind : String)
  | noMember (name : Text)
  -- Placements.
  | notPlaced (kind : String)
  | badPlacement (placement : Text) (kind : String)
  | noPrecision
  | twoGroupings
  | groupingWith (grouping : Grouping) (form : CodePoint)
  | unknownForm (form : CodePoint) (kind : String)
  | signOfText
  | spaceOfText
  | zeroOfText
  | markOfText
  | behindSignOfText
  | precisionOfInt
  | zeroOfInt
  | signOfCharacter
  | markOfCharacter
  | tooLargeForCharacter
  | noCharacter
  | tooLargeForFloat
  | precisionTooGreat
  | tooWide
deriving DecidableEq

namespace TemplateProblem

/-- A code point as some problems name it: by its number, unless it is above the blank and below a
bound. -/
def named (bound : Nat) (c : CodePoint) : Text :=
  if 32 < c.toNat ∧ c.toNat < bound then [c]
  else "\\x".text ++ .ofCharacters (Nat.toDigits 16 c.toNat)

/-- The wording of a problem. -/
def message : TemplateProblem → Text
  | noMessage function =>
    s!"Logger.{function}() missing 1 required positional argument: '_Logger__message'".text
  | notText kind => s!"'{kind}' object has no attribute 'format'".text
  | loneOpeningBrace => "Single '\x7b' encountered in format string".text
  | loneClosingBrace => "Single '\x7d' encountered in format string".text
  | braceInName => "unexpected '\x7b' in field name".text
  | unclosed => "expected '\x7d' before end of string".text
  | unclosedPlacement => "unmatched '\x7b' in format spec".text
  | noConversion => "end of string while looking for conversion specifier".text
  | longConversion => "expected ':' after conversion specifier".text
  | unknownConversion c => "Unknown conversion specifier ".text ++ named 127 c
  | tooDeep => "Max string recursion exceeded".text
  | noArgument index =>
    s!"Replacement index {index} out of range for positional args tuple".text
  | noNamedArgument name => name.quoted
  | indexAfterCount =>
    "cannot switch from automatic field numbering to manual field specification".text
  | countAfterIndex =>
    "cannot switch from manual field specification to automatic field numbering".text
  | tooManyDigits => "Too many decimal digits in format string".text
  | noPartName => "Empty attribute in format string".text
  | strayBehindPart => "Only '.' or '[' may follow ']' in format field specifier".text
  | noAttribute kind name => s!"'{kind}' object has no attribute '".text ++ name ++ "'".text
  | noAttributeOfKind kind name =>
    s!"type object '{kind}' has no attribute '".text ++ name ++ "'".text
  | hasNoParts kind => s!"'{kind}' object is not subscriptable".text
  | kindHasNoParts kind => s!"type '{kind}' is not subscriptable".text
  | partNotNumbered kind =>
    if kind = "str" then "string indices must be integers, not 'str'".text
    else s!"{kind} indices must be integers or slices, not str".text
  | noPart kind =>
    (if kind = "str" then "string" else kind).text ++ " index out of range".text
  | noMember name => name
  | notPlaced kind => s!"unsupported format string passed to {kind}.__format__".text
  | badPlacement placement kind =>
    "Invalid format specifier '".text ++ placement ++ s!"' for object of type '{kind}'".text
  | noPrecision => "Format specifier missing precision".text
  | twoGroupings => "Cannot specify both ',' and '_'.".text
  | groupingWith grouping form =>
    "Cannot specify '".text ++ .char grouping.separator :: "' with '".text ++ named 128 form ++
      "'.".text
  | unknownForm form kind =>
    "Unknown format code '".text ++ named 128 form ++ s!"' for object of type '{kind}'".text
  | signOfText => "Sign not allowed in string format specifier".text
  | spaceOfText => "Space not allowed in string format specifier".text
  | zeroOfText => "Negative zero coercion (z) not allowed in string format specifier".text
  | markOfText => "Alternate form (#) not allowed in string format specifier".text
  | behindSignOfText => "'=' alignment not allowed in string format specifier".text
  | precisionOfInt => "Precision not allowed in integer format specifier".text
  | zeroOfInt => "Negative zero coercion (z) not allowed in integer format specifier".text
  | signOfCharacter => "Sign not allowed with integer format specifier 'c'".text
  | markOfCharacter =>
    "Alternate form (#) not allowed with integer format specifier 'c'".text
  | tooLargeForCharacter => "Python int too large to convert to C long".text
  | noCharacter => "%c arg not in range(0x110000)".text
  | tooLargeForFloat => "int too large to convert to float".text
  | precisionTooGreat => "precision too big".text
  | tooWide => []

end TemplateProblem

end Log

end Interpolation
