import Interpolation.Text.Blank
import Interpolation.Text.Digits
import Interpolation.Text.Numerals
import Interpolation.Text.Cased

/-!
# Names of colours

A colour is named in one of five ways: by a word for it, by its place in a palette of 256, by six
hexadecimal digits, by the three numbers of its parts, or as the default.  The case of letters does
not count, so the name in small letters is the one that all its spellings share.

The numbers of the parts may be left out or be longer than any number that is read; this is a
problem of the number and not of the name.
-/

set_option autoImplicit false

namespace Interpolation

namespace Markup

namespace Colour

/-- The words for colours. -/
def table : String :=
  "aquamarine1 aquamarine3 black blue blue1 blue3 blue_violet bright_black bright_blue bright_cyan
bright_green bright_magenta bright_red bright_white bright_yellow cadet_blue chartreuse1
chartreuse2 chartreuse3 chartreuse4 cornflower_blue cornsilk1 cyan cyan1 cyan2 cyan3 dark_blue
dark_cyan dark_goldenrod dark_green dark_khaki dark_magenta dark_olive_green1 dark_olive_green2
dark_olive_green3 dark_orange dark_orange3 dark_red dark_sea_green dark_sea_green1
dark_sea_green2 dark_sea_green3 dark_sea_green4 dark_slate_gray1 dark_slate_gray2
dark_slate_gray3 dark_turquoise dark_violet deep_pink1 deep_pink2 deep_pink3 deep_pink4
deep_sky_blue1 deep_sky_blue2 deep_sky_blue3 deep_sky_blue4 dodger_blue1 dodger_blue2
dodger_blue3 gold1 gold3 gray0 gray100 gray11 gray15 gray19 gray23 gray27 gray3 gray30 gray35
gray37 gray39 gray42 gray46 gray50 gray53 gray54 gray58 gray62 gray63 gray66 gray69 gray7 gray70
gray74 gray78 gray82 gray84 gray85 gray89 gray93 green green1 green3 green4 green_yellow grey0
grey100 grey11 grey15 grey19 grey23 grey27 grey3 grey30 grey35 grey37 grey39 grey42 grey46
grey50 grey53 grey54 grey58 grey62 grey63 grey66 grey69 grey7 grey70 grey74 grey78 grey82 grey84
grey85 grey89 grey93 honeydew2 hot_pink hot_pink2 hot_pink3 indian_red indian_red1 khaki1 khaki3
light_coral light_cyan1 light_cyan3 light_goldenrod1 light_goldenrod2 light_goldenrod3
light_green light_pink1 light_pink3 light_pink4 light_salmon1 light_salmon3 light_sea_green
light_sky_blue1 light_sky_blue3 light_slate_blue light_slate_gray light_slate_grey
light_steel_blue light_steel_blue1 light_steel_blue3 light_yellow3 magenta magenta1 magenta2
magenta3 medium_orchid medium_orchid1 medium_orchid3 medium_purple medium_purple1 medium_purple2
medium_purple3 medium_purple4 medium_spring_green medium_turquoise medium_violet_red misty_rose1
misty_rose3 navajo_white1 navajo_white3 navy_blue orange1 orange3 orange4 orange_red1 orchid
orchid1 orchid2 pale_green1 pale_green3 pale_turquoise1 pale_turquoise4 pale_violet_red1 pink1
pink3 plum1 plum2 plum3 plum4 purple purple3 purple4 red red1 red3 rosy_brown royal_blue1
salmon1 sandy_brown sea_green1 sea_green2 sea_green3 sky_blue1 sky_blue2 sky_blue3 slate_blue1
slate_blue3 spring_green1 spring_green2 spring_green3 spring_green4 steel_blue steel_blue1
steel_blue3 tan thistle1 thistle3 turquoise2 turquoise4 violet wheat1 wheat4 white yellow
yellow1 yellow2 yellow3 yellow4"

/-- Why a text names no colour. -/
inductive Problem
  /-- It is of none of the five forms, or beyond the numbers of its form. -/
  | unknown
  /-- The number of a part has no digits. -/
  | noDigits
  /-- The number of a part has too many digits. -/
  | tooManyDigits (digits : Nat)
deriving DecidableEq

/-- The wording of a problem. -/
def Problem.message : Problem → String
  | unknown => "not a colour"
  | noDigits => "invalid literal for int() with base 10: ''"
  | tooManyDigits digits => Characters.digitLimitMessage digits

/-- What stands between a word with an opening parenthesis and a closing one. -/
def between? (opening : String) (name : Characters) : Option Characters :=
  if opening.toList <+: name ∧ name.getLast? = some ')' then
    some (name.dropLast.drop opening.length)
  else none

/-- Whether a text is a number sign with six hexadecimal digits behind it. -/
def isHexadecimal (name : Characters) : Bool :=
  name.length = 7 && name.head? == some '#' &&
    (name.drop 1).all fun c => c.isDigit || ('a' ≤ c && c ≤ 'f')

/-- Whether digits are those of a place in the palette. -/
def isPlace (digits : Characters) : Bool :=
  digits ≠ [] && digits.length ≤ 3 && digits.all Char.isDigit && Characters.wholeNumber digits ≤ 255

/-- The number of a part. -/
def part (digits : Characters) : Except Problem Nat :=
  if digits = [] then .error .noDigits
  else if Characters.digitLimit < digits.length then .error (.tooManyDigits digits.length)
  else .ok (Characters.decimalNumber digits)

/-- What the text between the parentheses of a colour's parts has to be: three numbers up to 255
with commas between them. -/
def checkParts (inner : Characters) : Except Problem Unit :=
  if inner ≠ [] ∧ inner.all (fun c => Characters.isDecimal c || c = ',') then
    match inner.splitOn ',' with
    | [red, green, blue] => do
      let red ← part red
      let green ← part green
      let blue ← part blue
      if red ≤ 255 ∧ green ≤ 255 ∧ blue ≤ 255 then return else throw .unknown
    | _ => .error .unknown
  else .error .unknown

/-- The name that all spellings of a colour share. -/
def name (written : Characters) : Except Problem Characters :=
  let name := written.smalls
  if name = "default".toList ∨ name ∈ Characters.words table.toList ∨ isHexadecimal name ∨
      (between? "color(" name).any isPlace then
    .ok name
  else
    match between? "rgb(" name with
    | some inner => (checkParts inner).map fun _ => name
    | none => .error .unknown

end Colour

end Markup

end Interpolation
