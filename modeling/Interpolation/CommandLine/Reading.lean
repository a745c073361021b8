import Interpolation.CommandLine.Command
import Interpolation.CommandLine.Usage
import Interpolation.Text.Similarity

/-!
# Reading the words of a command line

The words after a command's name are read from left to right.  A word with two dashes is an option,
with its value behind an equals sign or, if it takes one, in the next word; the letters behind a
single dash are options of one letter, and the first that takes a value has the other letters, or
the next word, as its value. Two dashes alone end the options, and a dash alone is no option.

The words that are no options are the arguments.  A group reads its options only up to the first
argument, which is the name of a command.
-/

set_option autoImplicit false

namespace Interpolation

namespace CommandLine

/-! ## Options -/

/-- An option that has been given, by the key of its parameter. -/
inductive Given
  /-- An option without a value, and whether it has been turned on. -/
  | switch (key : Characters) (isOn : Bool)
  | value (key : Characters) (value : Text)
deriving DecidableEq

/-- The key of an option that has been given. -/
def Given.key : Given → Characters
  | switch key _ => key
  | value key _ => key

/-- What a flag means. -/
structure Meaning where
  key : Characters
  takesValue : Bool
  /-- Whether the flag turns its option on. -/
  isOn : Bool

/-- What a flag means among some parameters. -/
def meaning? (parameters : List Parameter) (flag : Text) : Option Meaning :=
  parameters.findSome? fun
    | .option key flags opposites takesValue _ =>
      if flag ∈ flags.map Text.ofCharacters then some ⟨key, takesValue, true⟩
      else if flag ∈ opposites.map Text.ofCharacters then some ⟨key, takesValue, false⟩
      else none
    | .argument _ => none

/-- Whether a flag is a dash and a letter, and can stand with others behind one dash. -/
def isLetter : Text → Bool
  | [.char '-', c] => c ≠ .char '-'
  | _ => false

/-- The greatest number of words that are offered in the place of one that means nothing. -/
def offeredWords : Nat := 3

/-- The flags, other than letters behind a dash, that are similar to one that means nothing. -/
def similarFlags (parameters : List Parameter) (flag : Text) : List Text :=
  Text.closest offeredWords flag
    (((parameters.flatMap Parameter.allFlags).map Text.ofCharacters).filter fun flag =>
      !isLetter flag)

/-- What words are read as: the options in the order in which they are given, and the other words.
-/
structure Reading where
  given : List Given
  others : List Text

/-- A reading with one more option before. -/
def Reading.withGiven (option : Given) (reading : Reading) : Reading :=
  { reading with given := option :: reading.given }

/-- A reading with one more argument before. -/
def Reading.withOther (word : Text) (reading : Reading) : Reading :=
  { reading with others := word :: reading.others }

/-- The options in the letters behind a dash.  The last part is the flag of an option that has its
value in the next word. -/
def readLetters (parameters : List Parameter) :
    Text → Except UsageProblem (List Given × Option (Characters × Text))
  | [] => .ok ([], none)
  | c :: rest =>
    match meaning? parameters [.char '-', c] with
    | none => .error (.noSuchOption [.char '-', c] [])
    | some meaning =>
      if meaning.takesValue then
        if rest = [] then .ok ([], some (meaning.key, [.char '-', c]))
        else .ok ([.value meaning.key rest], none)
      else
        (readLetters parameters rest).map fun (given, open?) =>
          (.switch meaning.key meaning.isOn :: given, open?)

/-- The options in a word.  The last part is the key and the flag of an option that has its value in
the next word. -/
def readOption (parameters : List Parameter) (word : Text) :
    Except UsageProblem (List Given × Option (Characters × Text)) :=
  let flag := word.takeWhile (· ≠ .char '=')
  let attached := word[flag.length]?.map fun _ => word.drop (flag.length + 1)
  match (if isLetter flag then none else meaning? parameters flag), attached with
  | some meaning, none =>
    if meaning.takesValue then .ok ([], some (meaning.key, flag))
    else .ok ([.switch meaning.key meaning.isOn], none)
  | some meaning, some value =>
    if meaning.takesValue then .ok ([.value meaning.key value], none)
    else .error (.valueUnwanted flag)
  | none, _ =>
    if word.take 2 = "--".text then
      .error (.noSuchOption flag (similarFlags parameters flag))
    else readLetters parameters (word.drop 1)

/-! ## Words -/

/-- Whether a word is an option. -/
def isOption (word : Text) : Bool :=
  word.head? = some (.char '-') ∧ 1 < word.length

/-- Reads words; options may stand behind arguments if `mixed` is set. -/
def read (parameters : List Parameter) (mixed : Bool) :
    List Text → Except UsageProblem Reading
  | [] => .ok ⟨[], []⟩
  | word :: rest =>
    if word = "--".text then .ok ⟨[], rest⟩
    else if isOption word then
      match readOption parameters word with
      | .error problem => .error problem
      | .ok (given, none) =>
        (read parameters mixed rest).map fun reading => given.foldr Reading.withGiven reading
      | .ok (given, some (key, flag)) =>
        match rest with
        | [] => .error (.valueMissing flag)
        | value :: rest =>
          (read parameters mixed rest).map fun reading =>
            (given ++ [Given.value key value]).foldr Reading.withGiven reading
    else if mixed then (read parameters mixed rest).map (Reading.withOther word)
    else .ok ⟨[], word :: rest⟩

/-! ## What has been given -/

/-- The values of an option, in the order in which they are given. -/
def Reading.values (reading : Reading) (key : String) : List Text :=
  reading.given.filterMap fun
    | .value k value => if k = key.toList then some value else none
    | .switch _ _ => none

/-- The last value of an option. -/
def Reading.value? (reading : Reading) (key : String) : Option Text :=
  (reading.values key).getLast?

/-- Whether an option has been turned on or off, by its last flag. -/
def Reading.switch? (reading : Reading) (key : String) : Option Bool :=
  (reading.given.filterMap fun
    | .switch k isOn => if k = key.toList then some isOn else none
    | .value _ _ => none).getLast?

end CommandLine

end Interpolation
