import Interpolation.Text.Digits
import Interpolation.Text.Printable

/-!
# Quoted text

A quoted text stands between quotes, with everything that has no visible form written as an escape.
The quotes are single ones, or double ones where the text holds a single quote and no double quote;
inside, the quote in use and the backslash follow a backslash.

An output that can write every character writes half of a surrogate pair as its escape.
-/

set_option autoImplicit false

namespace Interpolation

/-- The escape of a character by its number: the shortest of the three forms that holds it. -/
def numericEscape (n : Nat) : Characters :=
  if n < 0x100 then "\\x".toList ++ .hexadecimal 2 n
  else if n < 0x10000 then "\\u".toList ++ .hexadecimal 4 n
  else "\\U".toList ++ .hexadecimal 8 n

/-- What is written for one character between quotes. -/
def quotedChar (quote c : Char) : Characters :=
  if c = quote ∨ c = '\\' then ['\\', c]
  else if c = '\n' then "\\n".toList
  else if c = '\r' then "\\r".toList
  else if c = '\t' then "\\t".toList
  else if Characters.isPrintable c then [c]
  else numericEscape c.toNat

/-- What is written for one code point between quotes. -/
def CodePoint.quoted (quote : Char) : CodePoint → Characters
  | char c => quotedChar quote c
  | half h => numericEscape h.val

namespace Text

/-- The quote that stands around a text. -/
def quoteFor (text : Text) : Char :=
  if .char '\'' ∈ text ∧ .char '"' ∉ text then '"' else '\''

/-- A text between quotes, with escapes for what has no visible form. -/
def quotedCharacters (text : Text) : Characters :=
  let quote := quoteFor text
  quote :: text.flatMap (CodePoint.quoted quote) ++ [quote]

/-- A text between quotes, as a text. -/
def quoted (text : Text) : Text :=
  .ofCharacters text.quotedCharacters

/-- A text as an output shows it that can write every character. -/
def shown (text : Text) : Characters :=
  text.flatMap fun
    | .char c => [c]
    | .half h => numericEscape h.val

end Text

/-- Characters between quotes, with escapes for those that have no visible form. -/
def Characters.quoted (characters : Characters) : Characters :=
  (Text.ofCharacters characters).quotedCharacters

end Interpolation
