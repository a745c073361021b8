import Interpolation.Value.Printed

/-!
# Validation

A record is read from named values.  Each field that cannot be read is a finding, and a record with
findings is rejected; the rejection lists the findings in the order of the record's fields.
-/

set_option autoImplicit false

namespace Interpolation

/-- A field that could not be read. -/
structure Finding where
  field : Text
  issue : Issue
  /-- What was given for the field. -/
  given : Value

/-- A record that was not accepted. -/
structure Rejection where
  /-- The name of the kind of record. -/
  title : String
  findings : List Finding

namespace Rejection

/-- The wording of a finding on one line. -/
def summaryOf (finding : Finding) : Text :=
  finding.field ++ s!": {finding.issue.message} [{finding.issue.code}]".text

/-- The wording of a rejection on one line. -/
def message (r : Rejection) : Text :=
  r.title.text ++ ": ".text ++ ("; ".text).intercalate (r.findings.map summaryOf)

/-- Where the issues are explained, by their codes. -/
def guide : String := "https://errors.pydantic.dev/2.14/v/"

/-- The wording of a finding on three lines. -/
def explanationOf (finding : Finding) : Text :=
  finding.field ++
    s!"\n  {finding.issue.message} [type={finding.issue.code}, input_value=".text ++
    finding.given.quoted ++ s!", input_type={finding.given.kind}]\n".text ++
    "    For further information visit ".text ++ guide.text ++ finding.issue.code.text

/-- The wording of a rejection with a paragraph for each finding. -/
def explanation (r : Rejection) : Text :=
  let count := r.findings.length
  let errors := if count = 1 then "error" else "errors"
  ("\n".text).intercalate
    (s!"{count} validation {errors} for {r.title}".text :: r.findings.map explanationOf)

end Rejection

end Interpolation
