import Interpolation.CommandLine.Parameter
import Interpolation.Text.Blank

/-!
# Commands

A command has a name, a help text and parameters; a group of commands also has commands.  This file
holds what they declare, and what of it is listed for a reader: the parameters in their order, with
the option that asks for help as the last one, and the short help of a command, which is the first
sentence of its help text.
-/

set_option autoImplicit false

namespace Interpolation

namespace CommandLine

/-- What a command declares. -/
structure Command where
  name : Characters
  help : Option Characters
  /-- A short help that takes the place of the first sentence. -/
  shortHelp : Option Characters
  parameters : List Parameter
  /-- Whether the option that asks for help is offered. -/
  offersHelp : Bool
  /-- Whether the command is left out of lists. -/
  isHidden : Bool
deriving DecidableEq

/-- A group of commands.  Of several commands with one name the last one counts. -/
structure Group extends Command where
  commands : List Command
deriving DecidableEq

/-- Commands without those that have the name of a later one. -/
def lastOfNames : List Command → List Command
  | [] => []
  | command :: rest =>
    if rest.any (·.name = command.name) then lastOfNames rest else command :: lastOfNames rest

/-! ## Listed parameters -/

/-- The key that the option asking for help has, and that no listed parameter has. -/
def helpKey : Characters := "help".toList

/-- The flag that asks for help. -/
def helpFlag : Characters := "--help".toList

/-- The option that asks for help. -/
def helpOption : Parameter :=
  .option helpKey [helpFlag] [] false "Show this message and exit.".toList

/-- What is offered as the option that asks for help; nothing if its flag means something else. -/
def Command.offeredHelp (c : Command) : List Parameter :=
  if c.offersHelp ∧ ∀ p ∈ c.parameters, helpFlag ∉ p.allFlags then [helpOption] else []

/-- The parameters that are listed. -/
def Command.listed (c : Command) : List Parameter :=
  (c.parameters.filter fun p => p.key ≠ helpKey) ++ c.offeredHelp

/-! ## Short help -/

/-- The greatest length of a short help. -/
def shortLength : Nat := 60

/-- The text before the first empty line. -/
def firstParagraph (text : Characters) : Characters :=
  match Text.cutAt? ['\n', '\n'] text with
  | some (first, _) => first
  | none => text

/-- Words as one text with blanks between them. -/
def joined (words : List Characters) : Characters :=
  [' '].intercalate words

/-- Whether a word ends a sentence, given the words behind it: it ends in a period, and no word in
small letters follows. -/
def endsSentence (word : Characters) (rest : List Characters) : Bool :=
  word.getLast? = some '.' && !(rest.head?.bind List.head?).any Characters.isSmall

/-- The words of a sentence: those up to a word that ends it, if the text up to it is not too long.
The second part tells whether words were left out for their length. -/
def sentence (limit length : Nat) : List Characters → List Characters × Bool
  | [] => ([], false)
  | word :: rest =>
    let length := length + word.length + (if length = 0 then 0 else 1)
    if limit < length then ([], true)
    else if endsSentence word rest then ([word], false)
    else if length = limit ∧ rest ≠ [] then ([word], true)
    else
      let (words, cut) := sentence limit length rest
      (word :: words, cut)

/-- Words without as many at their end as are needed to leave room. -/
def leaveRoom (limit : Nat) (words : List Characters) : List Characters :=
  ((List.range (words.length + 1)).reverse.map words.take).find?
    (fun some => some = [] ∨ (joined some).length + 3 ≤ limit) |>.getD []

/-- The first sentence of a text, with an ellipsis if it is too long. -/
def firstSentence (limit : Nat) (text : Characters) : Characters :=
  let words := (firstParagraph text).words
  let words := if words.head? = some ['\x08'] then words.drop 1 else words
  match sentence limit 0 words with
  | (words, false) => joined words
  | (words, true) => joined (leaveRoom limit words) ++ "...".toList

/-- The short help of a command. -/
def Command.summary (c : Command) : Characters :=
  match c.shortHelp, c.help with
  | some short, _ => short
  | none, some help => (firstSentence shortLength help).trimBy Characters.isSpacing
  | none, none => []

end CommandLine

end Interpolation
