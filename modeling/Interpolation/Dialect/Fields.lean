import Interpolation.Dialect
import Interpolation.Expander
import Interpolation.Validation.Field

/-!
# Dialects from fields

A dialect is read from named values: the two delimiters, which must not be empty and have characters
only, the separator, which is none if it is empty, and whether placeholders without a value may
stay, which they may if nothing is said.  Fields with other names do not count.  A dialect does not
change once it has been read.

An expander is read from the same values and a limit on nesting, and takes no other ones.  A report
is read from named values in the same way as a dialect.
-/

set_option autoImplicit false

namespace Interpolation

namespace Dialect

/-- The name of this kind of record in messages. -/
def title : String := "PlaceholderConfig"

/-- A separator that is not empty. -/
def separatorOf : Option Text → { s : Option Text // s ≠ some [] }
  | some (c :: rest) => ⟨some (c :: rest), by simp⟩
  | _ => ⟨none, by simp⟩

/-- Reads a dialect from named values. -/
def ofFields (members : List (Text × Value)) : Except Rejection Dialect :=
  let opening := Field.required members "open_delimiter" Field.countedText
  let closing := Field.required members "close_delimiter" Field.countedText
  let separator := Field.withDefault members "value_separator" none Field.optionalText
  let lenient := Field.withDefault members "ignore_unresolvable" true Field.bool
  match opening, closing, separator, lenient with
  | .ok opening, .ok closing, .ok separator, .ok lenient =>
    .ok {
      opening := opening.text
      closing := closing.text
      separator := separatorOf separator
      lenient
      opening_ne_nil := opening.ne_nil
      closing_ne_nil := closing.ne_nil
      opening_isUnicode := opening.isUnicode
      closing_isUnicode := closing.isUnicode
      separator_ne_nil := (separatorOf separator).property }
  | _, _, _, _ =>
    .error ⟨title, [Field.finding? opening, Field.finding? closing, Field.finding? separator,
      Field.finding? lenient].filterMap id⟩

/-- The rejection of an attempt to set a field of a dialect. -/
def frozen (field : Text) (given : Value) : Rejection :=
  ⟨title, [⟨field, .frozen, given⟩]⟩

/-- The fields of a dialect, by name. -/
def toFields (d : Dialect) : List (Text × Value) :=
  [("open_delimiter".text, .text d.opening),
    ("close_delimiter".text, .text d.closing),
    ("value_separator".text, (d.separator.map Value.text).getD .null),
    ("ignore_unresolvable".text, .bool d.lenient)]

end Dialect

namespace Expander

/-- The name of the function that makes an expander of named values, in messages. -/
def makerName : String := "PlaceholderHelper.create()"

/-- The names of the values that have to be given for an expander. -/
def neededNames : List String := ["open_delimiter", "close_delimiter"]

/-- The names of the values that may be given for an expander. -/
def knownNames : List String :=
  neededNames ++ ["value_separator", "ignore_unresolvable", "max_depth"]

/-- Why named values give no expander. -/
inductive Problem
  | argument (problem : ArgumentProblem)
  | rejected (r : Rejection)
  | limit (problem : LimitProblem)

/-- Why the names of values are not those that an expander needs and knows. -/
def nameProblem? (members : List (Text × Value)) : Option ArgumentProblem :=
  match members.find? fun m => !knownNames.any fun name => name.text = m.1 with
  | some (name, _) => some (.unexpected makerName name)
  | none =>
    match neededNames.filter fun name => (Value.member? members name.text).isNone with
    | [] => none
    | names => some (.missing makerName names)

/-- Reads an expander from named values, which have other names than those of a dialect only for the
limit on nesting. -/
def ofFields (members : List (Text × Value)) : Except Problem Expander :=
  match nameProblem? members with
  | some problem => .error (.argument problem)
  | none =>
    match Dialect.ofFields members with
    | .error rejection => .error (.rejected rejection)
    | .ok dialect =>
      let limit := (Value.member? members "max_depth".text).getD (.int defaultLimit)
      (ofLimit dialect limit).mapError .limit

end Expander

namespace Report

/-- Reads a report from named values. -/
def ofFields (members : List (Text × Value)) : Except Rejection Report :=
  let text := Field.required members "text" Field.text
  let error := Field.required members "error" Field.optionalText
  let success := Field.required members "success" Field.bool
  match text, error, success with
  | .ok text, .ok error, .ok success => .ok ⟨text, error, success⟩
  | _, _, _ =>
    .error ⟨"ParseResult", [Field.finding? text, Field.finding? error,
      Field.finding? success].filterMap id⟩

/-- The fields of a report, by name. -/
def toFields (r : Report) : List (Text × Value) :=
  [("text".text, .text r.text),
    ("error".text, (r.error.map Value.text).getD .null),
    ("success".text, .bool r.success)]

end Report

end Interpolation
