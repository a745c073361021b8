import Interpolation.Log.Template.Problem
import Interpolation.Text.Numerals

/-!
# Placements

A placement says how an argument is put into its place in a template: on which side, with which
character the place is filled up, how wide it is, how signs are written, how digits are grouped, how
precise a number is, and in which form it is written.  All of this is optional, and stands in this
order.
-/

set_option autoImplicit false

namespace Interpolation

namespace Log

/-- Where a text stands in a wider place. -/
inductive Side
  | left
  | right
  | center
  /-- On the right, but the sign stands on the left. -/
  | behindSign
deriving DecidableEq

/-- How an argument is put into its place. -/
structure Placement where
  fill : CodePoint
  side : Side
  sign : Option Char
  /-- Whether a number that is rounded to zero has no minus sign. -/
  unsignedZero : Bool
  /-- Whether a number shows its form: the base of its digits, or its point. -/
  marked : Bool
  width : Nat
  grouping : Option Grouping
  precision : Option Nat
  form : Option CodePoint
deriving DecidableEq

namespace Placement

/-! ## Reading -/

/-- The side that a character asks for. -/
def side? : CodePoint → Option Side
  | .char '<' => some .left
  | .char '>' => some .right
  | .char '^' => some .center
  | .char '=' => some .behindSign
  | _ => none

/-- The fill and the side that a placement begins with. -/
def readSide : Text → Option CodePoint × Option Side × Text
  | [] => (none, none, [])
  | [c] =>
    match side? c with
    | some side => (none, some side, [])
    | none => (none, none, [c])
  | c :: d :: rest =>
    match side? d, side? c with
    | some side, _ => (some c, some side, rest)
    | none, some side => (none, some side, d :: rest)
    | none, none => (none, none, c :: d :: rest)

/-- Whether a text begins with a character, and the text behind it. -/
def readMark (c : CodePoint) : Text → Bool × Text
  | [] => (false, [])
  | d :: rest => if d = c then (true, rest) else (false, d :: rest)

/-- The sign that a text begins with. -/
def readSign : Text → Option Char × Text
  | .char c :: rest => if c ∈ " +-".toList then (some c, rest) else (none, .char c :: rest)
  | text => (none, text)

/-- The number that a text begins with, if it begins with one. -/
def readNumber (text : Text) : Except TemplateProblem (Option Nat × Text) :=
  match text.takeDecimal with
  | ([], rest) => .ok (none, rest)
  | (digits, rest) =>
    let number := Characters.decimalNumber digits
    if greatestNumber < number then .error .tooManyDigits else .ok (some number, rest)

/-- The grouping that a text begins with. -/
def readGrouping (text : Text) : Except TemplateProblem (Option Grouping × Text) :=
  let (comma, text) := readMark (.char ',') text
  let (underscore, text) := readMark (.char '_') text
  if (comma ∧ underscore) ∨ (underscore ∧ text.head? = some (.char ',')) then .error .twoGroupings
  else .ok (if underscore then some .underscore else if comma then some .comma else none, text)

/-- The precision that a text begins with, behind a point. -/
def readPrecision (text : Text) : Except TemplateProblem (Option Nat × Text) :=
  match readMark (.char '.') text with
  | (false, text) => .ok (none, text)
  | (true, text) =>
    match readNumber text with
    | .ok (none, _) => .error .noPrecision
    | other => other

/-- The forms of numbers whose digits may be grouped. -/
def groupedForms : List CodePoint :=
  "defgEG%F".text

/-- Whether the digits of a form may be grouped. -/
def mayGroup (grouping : Grouping) (form : CodePoint) : Bool :=
  form ∈ groupedForms || (grouping = .underscore && form ∈ "boxX".text)

/-- Reads a placement for a value of a kind, with the side and the form that it has where none is
given. -/
def read (kind : String) (usualSide : Side) (usualForm : Option CodePoint) (text : Text) :
    Except TemplateProblem Placement := do
  let (fill, side, rest) := readSide text
  let (sign, rest) := readSign rest
  let (unsignedZero, rest) := readMark (.char 'z') rest
  let (marked, rest) := readMark (.char '#') rest
  let (zeros, rest) := if fill.isNone then readMark (.char '0') rest else (false, rest)
  let (width, rest) ← readNumber rest
  let (grouping, rest) ← readGrouping rest
  let (precision, rest) ← readPrecision rest
  let form ← match rest with
    | [] => pure usualForm
    | [form] => pure (some form)
    | _ => throw (.badPlacement text kind)
  match grouping, form with
  | some grouping, some form =>
    unless mayGroup grouping form do throw (.groupingWith grouping form)
  | _, _ => pure ()
  let zeroSide := if usualSide = .right then Side.behindSign else usualSide
  return {
    fill := if zeros then .char '0' else fill.getD (.char ' ')
    side := side.getD (if zeros then zeroSide else usualSide)
    sign, unsignedZero, marked, grouping, precision, form
    width := width.getD 0 }

/-! ## Filling up -/

/-- A place is never as wide as this. -/
def widthBound : Nat := Nat.pow 2 31

/-- What is written at a place, which fails if the place is too wide and nothing else is wrong. -/
def write (p : Placement) (text : Placement → Except TemplateProblem Text) :
    Except TemplateProblem Text :=
  if p.width < widthBound then text p
  else
    match text { p with width := 0 } with
    | .error problem => .error problem
    | .ok _ => .error .tooWide

/-- A text of so many fill characters. -/
def filling (p : Placement) (count : Nat) : Text :=
  List.replicate count p.fill

/-- A text on its side of the place; what stands on the left in any case is given apart. -/
def fit (p : Placement) (lead text : Text) : Text :=
  let room := p.width - lead.length - text.length
  match p.side with
  | .left => lead ++ text ++ p.filling room
  | .right => p.filling room ++ lead ++ text
  | .center => p.filling (room / 2) ++ lead ++ text ++ p.filling (room - room / 2)
  | .behindSign => lead ++ p.filling room ++ text

/-- The groups of digits, the last digit first, with zeros where the digits do not fill a width;
every group takes a digit or a place, so as many steps as there are of both are enough. -/
def groups (size : Nat) : Nat → Nat → Characters → List Characters
  | 0, _, _ => []
  | steps + 1, width, digits =>
    let length := min size (max (max digits.length width) 1)
    let group := digits.take length ++ List.replicate (length - digits.length) '0'
    let left := digits.drop length
    if left = [] ∧ width ≤ length then [group]
    else group :: groups size steps (width - length - 1) left

/-- The number of digits in a group. -/
def groupSize (p : Placement) : Nat :=
  match p.form with
  | some form => if form ∈ "boxX".text then 4 else 3
  | none => 3

/-- Digits in groups, with zeros before them up to a width. -/
def group (p : Placement) (width : Nat) (digits : Characters) : Characters :=
  match p.grouping with
  | none => List.replicate (width - digits.length) '0' ++ digits
  | some grouping =>
    ([grouping.separator].intercalate
      (groups p.groupSize (digits.length + width + 1) width digits.reverse)).reverse

/-- A number: its sign, the mark of its base, the digits before the point, and all that is behind
them. -/
def fitNumber (p : Placement) (sign mark digits rest : Characters) : Text :=
  let others := sign.length + mark.length + rest.length
  let width := if p.fill = .char '0' ∧ p.side = .behindSign then p.width - others else 0
  let digits := if digits = [] then [] else p.group width digits
  p.fit (.ofCharacters (sign ++ mark)) (.ofCharacters (digits ++ rest))

end Placement

end Log

end Interpolation
