import Interpolation.Markup.Colour

/-!
# Style names

A tag of a marked-up text names a style.  A style sets attributes, each of which may be negated, a
colour, a colour behind the text and a link, in any order and with short names for some attributes;
what is set last counts.  `Markup.normalName` gives the one name that all spellings of such a style
share.  Any other name stands for itself, without regard to the case of letters.
-/

set_option autoImplicit false

namespace Interpolation

namespace Markup

/-- The attributes of a style in the order of its normal name, each with its short names. -/
def attributes : List (String × List String) :=
  [("bold", ["b"]), ("dim", ["d"]), ("italic", ["i"]), ("underline", ["u"]), ("blink", []),
    ("blink2", []), ("reverse", ["r"]), ("conceal", ["c"]), ("strike", ["s"]),
    ("underline2", ["uu"]), ("frame", []), ("encircle", []), ("overline", ["o"])]

/-- The attribute that a word names. -/
def attribute? (word : Characters) : Option String :=
  (attributes.find? fun (name, short) =>
    name.toList = word ∨ short.any fun s => s.toList = word).map (·.1)

/-- What a style sets. -/
structure Style where
  /-- Attributes with whether they hold, the last one set first. -/
  attributes : List (String × Bool)
  colour : Option Characters
  /-- The colour behind the text. -/
  background : Option Characters
  link : Option Characters
deriving DecidableEq

namespace Style

/-- The style that sets nothing. -/
def plain : Style :=
  ⟨[], none, none, none⟩

/-- A style with what words set in addition. -/
def withWords (style : Style) : List Characters → Except Colour.Problem Style
  | [] => .ok style
  | first :: rest =>
    let word := first.smalls
    if word = "on".toList then
      match rest with
      | [] => .error .unknown
      | colour :: rest => do
        let name ← Colour.name colour
        withWords { style with background := some name } rest
    else if word = "not".toList then
      match rest with
      | [] => .error .unknown
      | negated :: rest =>
        match attribute? negated with
        | none => .error .unknown
        | some name => withWords { style with attributes := (name, false) :: style.attributes } rest
    else if word = "link".toList then
      match rest with
      | [] => .error .unknown
      | target :: rest => withWords { style with link := some target } rest
    else
      match attribute? word with
      | some name => withWords { style with attributes := (name, true) :: style.attributes } rest
      | none => do
        let name ← Colour.name word
        withWords { style with colour := some name } rest

/-- The words that set what a style sets. -/
def words (style : Style) : List Characters :=
  (Markup.attributes.flatMap fun (name, _) =>
    match style.attributes.lookup name with
    | none => []
    | some true => [name.toList]
    | some false => ["not".toList, name.toList]) ++
  style.colour.toList ++
  style.background.toList.flatMap (fun colour => ["on".toList, colour]) ++
  style.link.toList.flatMap fun target => ["link".toList, target]

/-- The normal name of a style. -/
def name (style : Style) : Characters :=
  if style.words = [] then "none".toList else [' '].intercalate style.words

end Style

/-- The name that all spellings of a style share; of the problems, only those with the number of a
colour's part can arise. -/
def normalName (name : Characters) : Except Colour.Problem Characters :=
  if name.trimBy Characters.isSpacing = "none".toList then .ok "none".toList
  else
    match Style.plain.withWords name.words with
    | .ok style => .ok style.name
    | .error .unknown => .ok (Characters.smalls (name.trimBy Characters.isSpacing))
    | .error problem => .error problem

end Markup

end Interpolation
