import Interpolation.Text.Digits
import Interpolation.Text.Printable
import Interpolation.Text.Quoted

/-!
# Problems of expressions

Why a text is no expression.  Some problems are found while the text is divided into tokens, the
others where the tokens do not make up an expression; of these, most say what was probably meant.
-/

set_option autoImplicit false

namespace Interpolation

namespace Expression

/-- The forms of numbers. -/
inductive NumberForm
  | decimal
  | hexadecimal
  | octal
  | binary
  | imaginary
deriving DecidableEq

/-- The name of a form in messages. -/
def NumberForm.name : NumberForm → String
  | decimal => "decimal"
  | hexadecimal => "hexadecimal"
  | octal => "octal"
  | binary => "binary"
  | imaginary => "imaginary"

/-- Why a text is no expression. -/
inductive Problem
  | nullCharacter
  /-- A parenthesis is open at the end. -/
  | unclosed (opening : Char)
  /-- A parenthesis closes where none is open. -/
  | unmatched (closing : Char)
  /-- A parenthesis closes one of another kind; of this the line is given if it is another one. -/
  | mismatched (closing opening : Char) (line : Option Nat)
  | tooManyOpen
  /-- A quotation has no end before this line has one; a block is quoted by three quotes. -/
  | unterminated (isBlock : Bool) (line : Nat)
  /-- What begins like a number is none. -/
  | number (form : NumberForm)
  /-- A digit is too great for the form of its number. -/
  | digit (c : Char) (form : NumberForm)
  | leadingZeros
  /-- A character belongs to no token. -/
  | character (c : Char)
  | continuation
  | unexpectedEnd
  | unexpectedIndent
  | inconsistentIndent
  | tooManyDigits (digits : Nat)
  /-- The escape sequence in a quotation from one position up to another stands for nothing. -/
  | escape (first last : Nat) (reason : String)
  /-- The escape sequence at a position of quoted bytes stands for nothing. -/
  | byteEscape (position : Nat)
  | byteBeyondAscii
  | mixedQuotations
  /-- The tokens make up no expression, and nothing is known that was meant. -/
  | invalid
  | missingComma
  | missingElse
  /-- A statement for this name needs parentheses. -/
  | missingParentheses (name : Characters)
  | namesUnnamed (kind : String)
  | singleEquals
  | setsUnsettable (kind : String)
  | setsByMistake (kind : String)
  | setsInCall
  | starredGroup
  | doubleStarredGroup
  | starAlone
  | starredTarget
  | bareTarget
  | doubleStarredTarget
  | starredValue
  | missingValue
  | missingColon
  | unpackingBehindNames
  | bareGenerator
  | positionalBehindNamed
  | positionalBehindUnpacking
  | noDefaultBehindDefault
  | parenthesizedParameters
  | nothingBeforeSlash
  | secondSlash
  | slashBehindStar
  | missingCommaAtStar
  | bareStar
  | starWithDefault
  | secondStar
  | doubleStarWithDefault
  | behindDoubleStar
  | missingDefault
deriving DecidableEq

/-- The number of a character in at least four hexadecimal capitals. -/
def codePoint (c : Char) : Characters :=
  (Characters.hexadecimal 4 c.toNat).map Char.toUpper

/-- The wording of a problem. -/
def Problem.message : Problem → Characters
  | nullCharacter => "source code string cannot contain null bytes".toList
  | unclosed opening => ['\'', opening] ++ "' was never closed".toList
  | unmatched closing => "unmatched '".toList ++ [closing, '\'']
  | mismatched closing opening line =>
    "closing parenthesis '".toList ++ [closing] ++
      "' does not match opening parenthesis '".toList ++ [opening, '\''] ++
      match line with
      | none => []
      | some line => " on line ".toList ++ Characters.ofNat line
  | tooManyOpen => "too many nested parentheses".toList
  | unterminated isBlock line =>
    (if isBlock then "unterminated triple-quoted string literal".toList
      else "unterminated string literal".toList) ++
      " (detected at line ".toList ++ Characters.ofNat line ++ [')']
  | number form => s!"invalid {form.name} literal".toList
  | digit c form =>
    "invalid digit '".toList ++ [c] ++ s!"' in {form.name} literal".toList
  | leadingZeros =>
    ("leading zeros in decimal integer literals are not permitted; " ++
      "use an 0o prefix for octal integers").toList
  | character c =>
    if Characters.isPrintable c then
      "invalid character '".toList ++ [c] ++ "' (U+".toList ++ codePoint c ++ [')']
    else "invalid non-printable character U+".toList ++ codePoint c
  | continuation => "unexpected character after line continuation character".toList
  | unexpectedEnd => "unexpected EOF while parsing".toList
  | unexpectedIndent => "unexpected indent".toList
  | inconsistentIndent => "unindent does not match any outer indentation level".toList
  | tooManyDigits digits =>
    (Characters.digitLimitMessage digits ++
      " - Consider hexadecimal for huge integer literals to avoid decimal conversion limits.").toList
  | escape first last reason =>
    "(unicode error) 'unicodeescape' codec can't decode ".toList ++
      (if first = last then "byte 0x5c in position ".toList ++ Characters.ofNat first
        else "bytes in position ".toList ++ Characters.ofNat first ++ '-' :: Characters.ofNat last) ++
      ": ".toList ++ reason.toList
  | byteEscape position =>
    "(value error) invalid \\x escape at position ".toList ++ Characters.ofNat position
  | byteBeyondAscii => "bytes can only contain ASCII literal characters".toList
  | mixedQuotations => "cannot mix bytes and nonbytes literals".toList
  | invalid => "invalid syntax".toList
  | missingComma => "invalid syntax. Perhaps you forgot a comma?".toList
  | missingElse => "expected 'else' after 'if' expression".toList
  | missingParentheses name =>
    "Missing parentheses in call to '".toList ++ name ++ "'. Did you mean ".toList ++ name ++
      "(...)?".toList
  | namesUnnamed kind => s!"cannot use assignment expressions with {kind}".toList
  | singleEquals => "invalid syntax. Maybe you meant '==' or ':=' instead of '='?".toList
  | setsUnsettable kind => s!"cannot assign to {kind}".toList
  | setsByMistake kind =>
    s!"cannot assign to {kind} here. Maybe you meant '==' instead of '='?".toList
  | setsInCall => "expression cannot contain assignment, perhaps you meant \"==\"?".toList
  | starredGroup => "cannot use starred expression here".toList
  | doubleStarredGroup => "cannot use double starred expression here".toList
  | starAlone => "Invalid star expression".toList
  | starredTarget => "iterable unpacking cannot be used in comprehension".toList
  | bareTarget => "did you forget parentheses around the comprehension target?".toList
  | doubleStarredTarget => "dict unpacking cannot be used in dict comprehension".toList
  | starredValue => "cannot use a starred expression in a dictionary value".toList
  | missingValue => "expression expected after dictionary key and ':'".toList
  | missingColon => "':' expected after dictionary key".toList
  | unpackingBehindNames =>
    "iterable argument unpacking follows keyword argument unpacking".toList
  | bareGenerator => "Generator expression must be parenthesized".toList
  | positionalBehindNamed => "positional argument follows keyword argument".toList
  | positionalBehindUnpacking => "positional argument follows keyword argument unpacking".toList
  | noDefaultBehindDefault => "non-default argument follows default argument".toList
  | parenthesizedParameters => "Lambda expression parameters cannot be parenthesized".toList
  | nothingBeforeSlash => "at least one argument must precede /".toList
  | secondSlash => "/ may appear only once".toList
  | slashBehindStar => "/ must be ahead of *".toList
  | missingCommaAtStar => "expected comma between / and *".toList
  | bareStar => "named arguments must follow bare *".toList
  | starWithDefault => "var-positional argument cannot have default value".toList
  | secondStar => "* argument may appear only once".toList
  | doubleStarWithDefault => "var-keyword argument cannot have default value".toList
  | behindDoubleStar => "arguments cannot follow var-keyword argument".toList
  | missingDefault => "expected default value expression".toList

/-- How much a fault counts beside a problem with the tokens before it. -/
inductive Weight
  /-- It only counts when its place is reached. -/
  | light
  /-- It takes the place of the other problem. -/
  | grave
  /-- A parenthesis is open; this takes the place of a problem that has been found on a line behind
  it.  `isSeen` says that the end of the text has been seen with the last token. -/
  | pending (opening : Char) (line : Nat) (isSeen : Bool)
deriving DecidableEq

/-- A problem that dividing a text into tokens ends with. -/
structure Fault where
  problem : Problem
  weight : Weight
deriving DecidableEq

end Expression

end Interpolation
