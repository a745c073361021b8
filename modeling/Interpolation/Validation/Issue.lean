/-!
# Issues

Why a value cannot be read as a field of a record: a code, and the wording that goes with it.
-/

set_option autoImplicit false

namespace Interpolation

/-- Why a value cannot be read as a field. -/
inductive Issue
  | missing
  | textType
  | textTooShort
  /-- A text has code points that are no characters. -/
  | notUnicode
  | boolType
  | boolParsing
  | intType
  | intParsing
  | intFromFloat
  | intTooLarge
  | notFinite
  | floatParsing
  | notPositive
  | aboveLimit
  | listType
  | frozen
deriving DecidableEq

namespace Issue

/-- The code of an issue. -/
def code : Issue → String
  | missing => "missing"
  | textType => "string_type"
  | textTooShort => "string_too_short"
  | notUnicode => "string_unicode"
  | boolType => "bool_type"
  | boolParsing => "bool_parsing"
  | intType => "int_type"
  | intParsing => "int_parsing"
  | intFromFloat => "int_from_float"
  | intTooLarge => "int_parsing_size"
  | notFinite => "finite_number"
  | floatParsing => "float_parsing"
  | notPositive => "greater_than"
  | aboveLimit => "less_than_equal"
  | listType => "list_type"
  | frozen => "frozen_instance"

/-- The wording of an issue. -/
def message : Issue → String
  | missing => "Field required"
  | textType => "Input should be a valid string"
  | textTooShort => "String should have at least 1 character"
  | notUnicode =>
    "Input should be a valid string, unable to parse raw data as a unicode string"
  | boolType => "Input should be a valid boolean"
  | boolParsing => "Input should be a valid boolean, unable to interpret input"
  | intType => "Input should be a valid integer"
  | intParsing => "Input should be a valid integer, unable to parse string as an integer"
  | intFromFloat => "Input should be a valid integer, got a number with a fractional part"
  | intTooLarge => "Unable to parse input string as an integer, exceeded maximum size"
  | notFinite => "Input should be a finite number"
  | floatParsing => "Input should be a valid number, unable to parse string as a number"
  | notPositive => "Input should be greater than 0"
  | aboveLimit => "Input should be less than or equal to 200"
  | listType => "Input should be a valid list"
  | frozen => "Instance is frozen"

end Issue

end Interpolation
