import Interpolation.Text.Encoding
import Interpolation.Text.Search

/-!
# Files

A program finds files and directories at places in a tree.  A path leads to a place: its parts are
followed from the root of the tree, or from where the program works, and every part but the last one
has to lead to a directory.  A part of two points leads one level up, and an empty part or a part of
one point leads nowhere else.

`Files.lookUp` says what a path leads to.  `shortPath` writes a path without the parts that lead
nowhere else, and looks at no file.
-/

set_option autoImplicit false

namespace Interpolation

/-! ## Places -/

/-- What stands at a place. -/
inductive FileEntry
  | file (content : List UInt8)
  | directory

/-- A place in the tree of files. -/
structure Place where
  /-- Whether the way to the place begins at the root of the tree. -/
  fromRoot : Bool
  /-- The names on the way to the place. -/
  names : List Text
deriving DecidableEq

/-- The part of a path that leads one level up. -/
def upwards : Text := "..".text

/-- The place one level up.  There is nothing above the root. -/
def Place.parent (p : Place) : Place :=
  match p.names.getLast? with
  | none => if p.fromRoot then p else { p with names := [upwards] }
  | some name =>
    if name = upwards then { p with names := p.names ++ [upwards] }
    else { p with names := p.names.dropLast }

/-- The place of a name in a directory. -/
def Place.child (p : Place) (name : Text) : Place :=
  { p with names := p.names ++ [name] }

/-! ## The tree -/

/-- The files and directories that a program sees, each at its place. -/
abbrev Files := List (Place × FileEntry)

/-- What stands at a place.  Where the program works there is a directory, and so there is in every
place above it and above an entry. -/
def Files.at? (files : Files) (place : Place) : Option FileEntry :=
  match files.find? (·.1 = place) with
  | some (_, entry) => some entry
  | none =>
    let isAbove (other : Place) : Bool :=
      other.fromRoot = place.fromRoot ∧ place.names.isPrefixOf other.names
    if place.names.all (· = upwards) ∨ files.any (fun entry => isAbove entry.1) then
      some .directory
    else none

/-! ## Texts that are paths -/

/-- Why a text can be no path. -/
inductive PathFault
  /-- Some code points have no bytes. -/
  | encoding (f : Encoding.Fault)
  /-- The text holds the character that ends paths. -/
  | ended
deriving DecidableEq

/-- The wording of a path's fault. -/
def PathFault.message : PathFault → String
  | encoding f => Encoding.utf8.message f
  | ended => "embedded null byte"

/-- Whether a code point is half of a surrogate pair. -/
def isHalf : CodePoint → Bool
  | .char _ => false
  | .half _ => true

/-- Whether a code point has no bytes in a path.  Where a byte is part of no character, half of a
surrogate pair stands for it; there are no bytes for the other halves. -/
def hasNoBytes : CodePoint → Bool
  | .char _ => false
  | .half h => h.val < 0xDC80 || 0xDD00 ≤ h.val

/-- Why a text can be no path, if it cannot. -/
def pathFault? (path : Text) : Option PathFault :=
  match Encoding.faultFrom? hasNoBytes isHalf 0 path with
  | some f => some (.encoding f)
  | none => if .char '\x00' ∈ path then some .ended else none

/-! ## Paths -/

/-- What following a path leads to. -/
inductive Found
  | nothing
  | entry (e : FileEntry)
  /-- The path or one of its parts is longer than it may be. -/
  | nameTooLong

/-- The greatest number of bytes of a part of a path. -/
def partLimit : Nat := 255

/-- The greatest number of bytes of a path. -/
def pathLimit : Nat := 4095

/-- The number of bytes of a text in a path, where half of a surrogate pair stands for a byte that
is part of no character. -/
def byteCount : Text → Nat
  | [] => 0
  | .char c :: rest => c.utf8Size + byteCount rest
  | .half _ :: rest => 1 + byteCount rest

/-- What parts of a path lead to from a place. -/
def Files.follow (files : Files) (place : Place) : List Text → Found
  | [] => match files.at? place with
    | some entry => .entry entry
    | none => .nothing
  | part :: rest =>
    match files.at? place with
    | some .directory =>
      if part = [] ∨ part = ".".text then files.follow place rest
      else if part = upwards then files.follow place.parent rest
      else if partLimit < byteCount part then .nameTooLong
      else files.follow (place.child part) rest
    | _ => .nothing

/-- The place where a path begins. -/
def startOf (path : Text) : Place :=
  ⟨path.head? = some (.char '/'), []⟩

/-- What a path leads to; one that is empty, and a text that is no path, leads nowhere. -/
def Files.lookUp (files : Files) (path : Text) : Found :=
  if path = [] ∨ (pathFault? path).isSome then .nothing
  else if pathLimit < byteCount path then .nameTooLong
  else files.follow (startOf path) (path.splitOn (.char '/'))

/-- The place that a path leads to where all the directories on the way exist. -/
def placeOf (path : Text) : Place :=
  (path.splitOn (.char '/')).foldl
    (fun place part =>
      if part = [] ∨ part = ".".text then place
      else if part = upwards then place.parent
      else place.child part)
    (startOf path)

/-! ## Writing a path -/

/-- The slashes that a short path begins with: two where the path begins with exactly two, and else
one at most. -/
def leadingSlashes : Text → Text
  | .char '/' :: .char '/' :: .char '/' :: _ => "/".text
  | .char '/' :: .char '/' :: _ => "//".text
  | .char '/' :: _ => "/".text
  | _ => []

/-- A path in its shortest form that does not look at any file. -/
def shortPath (path : Text) : Text :=
  let parts := (path.splitOn (.char '/')).filter fun part => part ≠ [] ∧ part ≠ ".".text
  match leadingSlashes path ++ "/".text.intercalate parts with
  | [] => ".".text
  | short => short

end Interpolation
