import Interpolation.Source

/-!
# Candidates

Where a resolver is wanted, a caller may give any object, or none.  An object may have entries, it
may answer names itself, and it may be one that can be called with a name.  This is the order in
which it is looked at: what has entries is a table of them, even if it answers names itself, and
what answers names itself is taken as it is, even if it can be called.  An object that has none of
the three is no source, and is refused by the name of its kind.

`accept_coerce_iff` says which source a candidate gives, and `accept_coerce_eq_error_iff` why one
gives none.  A source that has been made from a candidate is a candidate that gives the same source
(`coerce_ofSource`).
-/

set_option autoImplicit false

namespace Interpolation

/-- An object that is given where a resolver is wanted, as far as it is looked at. -/
structure Candidate where
  /-- The name of its kind. -/
  kind : String
  /-- Its entries, if it is a mapping. -/
  entries : Option (List (Text × Value))
  /-- The source that it is, if it answers names itself. -/
  source : Option Source
  /-- What it says to a name that it is called with, if it can be called. -/
  function : Option (Text → Reply)

namespace Candidate

/-- A value as a candidate; null is none. -/
def ofValue? : Value → Option Candidate
  | .null => none
  | .object members => some ⟨(Value.object members).kind, some members, none, none⟩
  | value => some ⟨value.kind, none, none, none⟩

/-- A source as a candidate. -/
def ofSource (source : Source) : Candidate :=
  ⟨source.kind, none, some source, none⟩

/-- What a candidate offers, if there is one. -/
def coerce : Option Candidate → Offer Source
  | none => .missing
  | some c =>
    match c.entries, c.source, c.function with
    | some entries, _, _ => .usable (.table entries)
    | none, some source, _ => .usable source
    | none, none, some answer => .usable (.function answer)
    | none, none, none => .unusable c.kind

/-- The source of a candidate is the table of its entries, or else itself, or else the function that
it is called as. -/
theorem accept_coerce_iff {candidate : Option Candidate} {source : Source} :
    (coerce candidate).accept = .ok source ↔
      ∃ c, candidate = some c ∧
        ((∃ entries, c.entries = some entries ∧ source = .table entries) ∨
          (c.entries = none ∧ c.source = some source) ∨
          (c.entries = none ∧ c.source = none ∧
            ∃ answer, c.function = some answer ∧ source = .function answer)) := by
  cases candidate with
  | none => simp [coerce, Offer.accept]
  | some c =>
    obtain ⟨kind, entries, inner, function⟩ := c
    cases entries <;> cases inner <;> cases function <;> simp [coerce, Offer.accept, eq_comm]

/-- A candidate is refused where there is none, and where it has no entries, does not answer names
and cannot be called. -/
theorem accept_coerce_eq_error_iff {candidate : Option Candidate} {reason : BadArgument} :
    (coerce candidate).accept = .error reason ↔
      (candidate = none ∧ reason = .noSource) ∨
        ∃ c, candidate = some c ∧ c.entries = none ∧ c.source = none ∧ c.function = none ∧
          reason = .sourceOfKind c.kind := by
  cases candidate with
  | none => simp [coerce, Offer.accept, eq_comm]
  | some c =>
    obtain ⟨kind, entries, inner, function⟩ := c
    cases entries <;> cases inner <;> cases function <;> simp [coerce, Offer.accept, eq_comm]

/-- A source gives itself, whatever candidate it was made from. -/
theorem coerce_ofSource (source : Source) : coerce (some (ofSource source)) = .usable source :=
  rfl

end Candidate

end Interpolation
