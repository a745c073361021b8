import Interpolation.Emoji.Names
import Interpolation.Text.Blank
import Interpolation.Text.Cased

/-!
# Emoji

A text may hold the name of an emoji between two colons.  It stands for the emoji, where a name that
ends in `-text` or `-emoji` also says in which of two ways the emoji is to be drawn.  What stands
between two colons and is no such name is left as it is, colons and all.
-/

set_option autoImplicit false

namespace Interpolation

namespace Emoji

/-- The word behind a name in a table of names and words in turn. -/
def wordBehind (name : Characters) : List Characters → Option Characters
  | word :: value :: rest => if word = name then some value else wordBehind name rest
  | _ => none

/-- The emoji of a name. -/
def ofName? (name : Characters) : Option Characters :=
  table.findSome? fun part => wordBehind name (Characters.words part.toList)

/-- The characters behind an emoji that say how it is to be drawn, by the end of its name. -/
def manners : List (String × Char) :=
  [("-text", '\uFE0E'), ("-emoji", '\uFE0F')]

/-- The emoji of a name, in which the case of letters does not count. -/
def ofCode? (code : Characters) : Option Characters :=
  match manners.find? fun (ending, _) => ending.toList <:+ code with
  | some (ending, manner) =>
    (ofName? (Characters.smalls (code.take (code.length - ending.length)))).map (· ++ [manner])
  | none => ofName? code.smalls

/-- A text with emoji for their names. -/
def replace : Characters → Characters
  | [] => []
  | ':' :: rest =>
    let code := rest.takeWhile fun c => c ≠ ':' ∧ !Characters.isSpacing c
    match _h : rest.drop code.length with
    | ':' :: after => (ofCode? code).getD (':' :: code ++ [':']) ++ replace after
    | _ => ':' :: replace rest
  | c :: rest => c :: replace rest
termination_by text => text.length
decreasing_by
  all_goals try (simp only [List.length_cons]; omega)
  have := congrArg List.length _h
  simp only [List.length_drop, List.length_cons] at this ⊢
  omega

end Emoji

end Interpolation
