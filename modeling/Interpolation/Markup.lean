import Interpolation.Emoji
import Interpolation.Markup.Handler
import Interpolation.Markup.Style
import Interpolation.Text.Digits

/-!
# Marked-up text

A marked-up text holds tags: a bracket, a lower-case letter or one of `#/@`, and more characters up
to the next closing bracket, with no opening bracket between.  A tag that begins with a slash closes
the last open tag of its name, or the last open tag of all if it has no name.

Backslashes before a tag stand for half as many; where their number is odd the tag is no tag but
shown as it is.  So `Markup.escape`, which doubles the backslashes before every tag and adds one,
gives a text that shows the text escaped.
-/

set_option autoImplicit false

namespace Interpolation

namespace Markup

/-! ## Tags -/

/-- Whether a bracket before this character may open a tag. -/
def opensTag (c : Char) : Bool :=
  ('a' ≤ c && c ≤ 'z') || c = '#' || c = '/' || c = '@'

/-- What stands between the brackets of the tag at the start of a text. -/
def bodyAt? : Characters → Option Characters
  | '[' :: c :: rest =>
    let more := rest.takeWhile fun c => c ≠ ']' ∧ c ≠ '['
    if opensTag c ∧ (rest.drop more.length).head? = some ']' then some (c :: more) else none
  | _ => none

/-- A tag with the backslashes before it. -/
structure Bracketed where
  /-- The number of characters before the backslashes. -/
  start : Nat
  /-- The number of backslashes. -/
  slashes : Nat
  /-- What stands between the brackets. -/
  body : Characters

/-- The first tag of a text. -/
def firstTag? : Characters → Option Bracketed
  | [] => none
  | c :: rest =>
    let slashes := ((c :: rest).takeWhile (· = '\\')).length
    match bodyAt? ((c :: rest).drop slashes) with
    | some body => some ⟨0, slashes, body⟩
    | none => (firstTag? rest).map fun found => { found with start := found.start + 1 }

/-- A part of a marked-up text. -/
inductive Part
  /-- A text without tags. -/
  | plain (text : Characters)
  /-- A tag with so many backslashes before it, the first of them at an index. -/
  | bracketed (index slashes : Nat) (body : Characters)
deriving DecidableEq

/-- The parts of a text that begins at an index. -/
def parts (index : Nat) (text : Characters) : List Part :=
  match _found : firstTag? text with
  | none => [.plain text]
  | some tag =>
    let length := tag.start + tag.slashes + tag.body.length + 2
    .plain (text.take tag.start) :: .bracketed (index + tag.start) tag.slashes tag.body ::
      parts (index + length) (text.drop length)
termination_by text.length
decreasing_by
  have : text ≠ [] := by
    rintro rfl
    simp [firstTag?] at _found
  have := List.length_pos_iff.mpr this
  simp only [List.length_drop]
  omega

/-- A part with its tag made a text. -/
def Part.escape : Part → Characters
  | plain text => text
  | bracketed _ slashes body => List.replicate (2 * slashes + 1) '\\' ++ '[' :: body ++ [']']

/-- A marked-up text that shows a text as it is. -/
def escape (text : Characters) : Characters :=
  let escaped := (parts 0 text).flatMap Part.escape
  if escaped.reverse.head? = some '\\' ∧ escaped.reverse[1]? ≠ some '\\' then escaped ++ ['\\']
  else escaped

/-! ## What is shown -/

/-- Why a marked-up text cannot be shown. -/
inductive Problem
  /-- A closing tag names no open tag. -/
  | unmatched (body : Characters) (index : Nat)
  /-- A closing tag without a name stands where no tag is open. -/
  | nothingOpen (index : Nat)
  /-- A tag names a colour by parts, one of which is no number that is read. -/
  | colour (problem : Colour.Problem)
  /-- The parameters of a handler cannot be read. -/
  | handler (problem : Handler.Problem)
deriving DecidableEq

/-- The wording of a problem. -/
def Problem.message : Problem → Characters
  | unmatched body index =>
    "closing tag '[".toList ++ body ++ "]' at position ".toList ++ Characters.ofNat index ++
      " doesn't match any open tag".toList
  | nothingOpen index =>
    "closing tag '[/]' at position ".toList ++ Characters.ofNat index ++
      " has nothing to close".toList
  | colour problem => problem.message.toList
  | handler problem => problem.message

/-- A tag that is open. -/
structure OpenTag where
  /-- The normal name of its style. -/
  name : Characters
  /-- What stands behind an equals sign. -/
  parameters : Characters
deriving DecidableEq

/-- The open tags without one of them, which is closed; the parameters of a handler are read now. -/
def close (openTags : List OpenTag) (tag : OpenTag) : Except Problem (List OpenTag) :=
  match if tag.name.head? = some '@' then Handler.problem? tag.parameters else none with
  | some problem => .error (.handler problem)
  | none => .ok (openTags.eraseP (·.name = tag.name))

/-- The open tags, the last one first, after one more tag at an index. -/
def openAfter (openTags : List OpenTag) (index : Nat) (body : Characters) :
    Except Problem (List OpenTag) :=
  let name := body.takeWhile (· ≠ '=')
  match name with
  | '/' :: closed =>
    if closed.all Characters.isSpacing then
      match openTags with
      | [] => .error (.nothingOpen index)
      | tag :: _ => close openTags tag
    else
      match normalName closed with
      | .error problem => .error (.colour problem)
      | .ok closed =>
        match openTags.find? (·.name = closed) with
        | none => .error (.unmatched body index)
        | some tag => close openTags tag
  | _ =>
    match normalName name with
    | .error problem => .error (.colour problem)
    | .ok normal => .ok (⟨normal, body.drop (name.length + 1)⟩ :: openTags)

/-- A text without the control characters that are never shown. -/
def withoutControls (text : Characters) : Characters :=
  text.filter fun c => c ∉ ['\x07', '\x08', '\x0B', '\x0C', '\x0D']

/-- A text in which a bracket behind a backslash is a bracket. -/
def unescapeBrackets : Characters → Characters
  | '\\' :: '[' :: rest => '[' :: unescapeBrackets rest
  | c :: rest => c :: unescapeBrackets rest
  | [] => []

/-- What a text without tags shows: emoji for their names, and no controls. -/
def shownPlain (text : Characters) : Characters :=
  withoutControls (Emoji.replace text)

/-- What parts show while tags are open. -/
def shownParts (openTags : List OpenTag) : List Part → Except Problem Characters
  | [] => .ok []
  | .plain text :: rest =>
    (shownParts openTags rest).map (shownPlain (unescapeBrackets text) ++ ·)
  | .bracketed index slashes body :: rest =>
    let literal := List.replicate (slashes / 2) '\\'
    if slashes % 2 = 1 then
      (shownParts openTags rest).map
        (literal ++ shownPlain ('[' :: body ++ [']']) ++ ·)
    else
      match openAfter openTags (index + slashes) body with
      | .error problem => .error problem
      | .ok openTags => (shownParts openTags rest).map (literal ++ ·)

/-- What a marked-up text shows. -/
def shown (text : Characters) : Except Problem Characters :=
  shownParts [] (parts 0 text)

/-- What shows for a text that is not marked up, which is nearly the text itself: names of emoji are
replaced, controls are left out, and a backslash before a bracket that opens no tag is lost. -/
def shownAsIs (text : Characters) : Characters :=
  (shown (escape text)).toOption.getD text

end Markup

end Interpolation
