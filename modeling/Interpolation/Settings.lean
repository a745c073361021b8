import Interpolation.Dialect.Fields
import Interpolation.Source

/-!
# Settings

The settings of the program: whether it makes log entries and from which level on, the dialect it
uses where nothing else is said, and its limit on nesting.  A setting is given by name, or else by a
variable of the environment, whose name is the setting's name behind a fixed stem, in upper or lower
case; or else it has its default.

The delimiters of settings are not empty and have characters only, and their limit is in range, so
settings always make an expander.
-/

set_option autoImplicit false

namespace Interpolation

/-- The settings of the program. -/
structure Settings where
  /-- Whether no log entries are made. -/
  quiet : Bool
  /-- The name of the least level of log entries that are shown. -/
  level : Text
  opening : Text
  closing : Text
  separator : Option Text
  lenient : Bool
  limit : Nat
  opening_ne_nil : opening ≠ []
  closing_ne_nil : closing ≠ []
  opening_isUnicode : opening.isUnicode
  closing_isUnicode : closing.isUnicode
  limit_pos : 0 < limit
  limit_le : limit ≤ greatestLimit

namespace Settings

/-! ## Reading -/

/-- What stands before the name of a setting in the environment. -/
def stem : Text := "PHRES_".text

/-- A name in lower case, as names are compared. -/
def folded (name : Text) : Text :=
  name.map (.mapChar Char.toLower)

/-- The value of the variable for a setting. -/
def fromEnvironment? (environment : Environment) (name : String) : Option Text :=
  (environment.find? fun v => folded v.1 = folded (stem ++ name.text)).map (·.2)

/-- The names of the settings. -/
def names : List String :=
  ["beQuiet", "logLevel", "openDelimiter", "closeDelimiter", "valueSeparator",
    "ignoreUnresolvable", "maxDepth"]

/-- The settings that are given by name or by a variable. -/
def given (environment : Environment) (members : List (Text × Value)) : List (Text × Value) :=
  names.filterMap fun name =>
    match Value.member? members name.text with
    | some value => some (name.text, value)
    | none => (fromEnvironment? environment name).map fun text => (name.text, .text text)

/-- Reads a limit on nesting. -/
def readLimit (value : Value) : Except Issue { n : Nat // 0 < n ∧ n ≤ greatestLimit } :=
  match Field.int value with
  | .error issue => .error issue
  | .ok n =>
    if pos : 0 < n then
      if le : n ≤ greatestLimit then .ok ⟨n.toNat, by omega, by omega⟩ else .error .aboveLimit
    else .error .notPositive

/-- The settings of which none is given. -/
def standard : Settings where
  quiet := false
  level := "INFO".text
  opening := "$\x7b".text
  closing := "\x7d".text
  separator := some ":".text
  lenient := true
  limit := defaultLimit
  opening_ne_nil := List.cons_ne_nil _ _
  closing_ne_nil := List.cons_ne_nil _ _
  opening_isUnicode := rfl
  closing_isUnicode := rfl
  limit_pos := by decide
  limit_le := by decide

/-- Reads the settings from the environment and from named values. -/
def read (environment : Environment) (members : List (Text × Value)) :
    Except Rejection Settings :=
  let fields := given environment members
  let quiet := Field.withDefault fields "beQuiet" standard.quiet Field.bool
  let level := Field.withDefault fields "logLevel" standard.level Field.text
  let opening := Field.withDefault fields "openDelimiter"
    ⟨standard.opening, standard.opening_ne_nil, standard.opening_isUnicode⟩ Field.countedText
  let closing := Field.withDefault fields "closeDelimiter"
    ⟨standard.closing, standard.closing_ne_nil, standard.closing_isUnicode⟩ Field.countedText
  let separator :=
    Field.withDefault fields "valueSeparator" standard.separator Field.optionalText
  let lenient := Field.withDefault fields "ignoreUnresolvable" standard.lenient Field.bool
  let limit := Field.withDefault fields "maxDepth"
    ⟨standard.limit, standard.limit_pos, standard.limit_le⟩ readLimit
  match quiet, level, opening, closing, separator, lenient, limit with
  | .ok quiet, .ok level, .ok opening, .ok closing, .ok separator, .ok lenient, .ok limit =>
    .ok { quiet, level, separator, lenient
          opening := opening.text
          closing := closing.text
          limit := limit.val
          opening_ne_nil := opening.ne_nil
          closing_ne_nil := closing.ne_nil
          opening_isUnicode := opening.isUnicode
          closing_isUnicode := closing.isUnicode
          limit_pos := limit.property.1
          limit_le := limit.property.2 }
  | _, _, _, _, _, _, _ =>
    .error ⟨"App", [Field.finding? quiet, Field.finding? level, Field.finding? opening,
      Field.finding? closing, Field.finding? separator, Field.finding? lenient,
      Field.finding? limit].filterMap id⟩

/-- The settings, by name. -/
def toFields (s : Settings) : List (Text × Value) :=
  [("beQuiet".text, .bool s.quiet), ("logLevel".text, .text s.level),
    ("openDelimiter".text, .text s.opening), ("closeDelimiter".text, .text s.closing),
    ("valueSeparator".text, (s.separator.map Value.text).getD .null),
    ("ignoreUnresolvable".text, .bool s.lenient), ("maxDepth".text, .int s.limit)]

/-! ## What settings make -/

/-- The expander of a dialect with the limit of the settings. -/
def expanderOf (s : Settings) (dialect : Dialect) : Expander where
  dialect
  limit := s.limit
  limit_pos := s.limit_pos
  limit_le := s.limit_le

/-- The dialect of the settings. -/
def dialect (s : Settings) : Dialect :=
  ⟨s.opening, s.closing, Dialect.separatorOf s.separator, s.lenient, s.opening_ne_nil,
    s.closing_ne_nil, s.opening_isUnicode, s.closing_isUnicode,
    (Dialect.separatorOf s.separator).property⟩

/-- The expander of the settings, where the fields of the dialect that are given, and are not null,
take the place of those of the settings. -/
def expander (s : Settings) (overrides : List (Text × Value)) : Except Rejection Expander :=
  let fields := overrides.foldl
    (fun fields (name, value) =>
      match value with
      | .null => fields
      | _ => Value.setMember fields name value)
    s.dialect.toFields
  (Dialect.ofFields fields).map s.expanderOf

end Settings

end Interpolation
