import Interpolation.Proofs.Transcript

/-!
# Agreement up to a failure

Two runs that differ in what one of them refuses often go the same way until that happens.
`AgreesUpTo stops x y` says so: either the first run ends with a failure of a certain kind, having
asked and logged the beginning of what the second one asks and logs, or the two are the same.
Sequencing keeps this (`agreement`), so it holds of whole runs as soon as it holds where they
differ.
-/

set_option autoImplicit false

namespace Interpolation

namespace Failure

/-- The failure of an expansion that nests too deep. -/
def IsTooDeep : Failure → Prop
  | tooDeep .. => True
  | _ => False

/-- The failure of a body that stands inside its own expansion. -/
def IsCircular : Failure → Prop
  | circular _ => True
  | _ => False

/-- The failure of a placeholder without a value. -/
def IsUnresolvable : Failure → Prop
  | unresolvable .. => True
  | _ => False

/-- What is a failure of that kind. -/
theorem isCircular_iff {failure : Failure} :
    failure.IsCircular ↔ ∃ body, failure = .circular body := by
  constructor
  · intro h
    cases failure with
    | circular body => exact ⟨body, rfl⟩
    | _ => exact h.elim
  · rintro ⟨body, rfl⟩
    exact trivial

end Failure

namespace Transcript

variable {α β : Type}

/-- The first run stops with a failure of a kind on the way of the second one, or they are the
same. -/
def AgreesUpTo (stops : Failure → Prop) (x y : Transcript α) : Prop :=
  (∃ failure, stops failure ∧ x.outcome = .error failure ∧ x.asked <+: y.asked ∧ x.log <+: y.log) ∨
    x = y

variable {stops : Failure → Prop} {x y : Transcript α} {f g : α → Transcript β}

/-- What is asked and logged first is the beginning of what is asked and logged. -/
theorem isPrefix_bind (x : Transcript α) (f : α → Transcript β) :
    x.asked <+: (x >>= f).asked ∧ x.log <+: (x >>= f).log := by
  cases h : x.outcome with
  | error failure =>
    rw [bind_of_error h]
    exact ⟨List.prefix_rfl, List.prefix_rfl⟩
  | ok a =>
    rw [bind_of_ok h]
    exact ⟨List.prefix_append _ _, List.prefix_append _ _⟩

/-- A run that stops at once agrees with every run. -/
theorem agreesUpTo_throw {failure : Failure} (h : stops failure) (y : Transcript α) :
    AgreesUpTo stops (throw failure) y :=
  .inl ⟨failure, h, rfl, List.nil_prefix, List.nil_prefix⟩

/-- Sequences agree where their parts do. -/
theorem AgreesUpTo.bind (h : AgreesUpTo stops x y) (hf : ∀ a, AgreesUpTo stops (f a) (g a)) :
    AgreesUpTo stops (x >>= f) (y >>= g) := by
  rcases h with ⟨failure, hstops, hfail, hasked, hlog⟩ | rfl
  · left
    rw [bind_of_error hfail]
    obtain ⟨hasked', hlog'⟩ := isPrefix_bind y g
    exact ⟨failure, hstops, rfl, hasked.trans hasked', hlog.trans hlog'⟩
  · cases hx : x.outcome with
    | error failure =>
      right
      rw [bind_of_error hx, bind_of_error hx]
    | ok a =>
      rw [bind_of_ok hx, bind_of_ok hx]
      rcases hf a with ⟨failure, hstops, hfail, hasked, hlog⟩ | hsame
      · left
        exact ⟨failure, hstops, hfail, (List.prefix_append_right_inj _).mpr hasked,
          (List.prefix_append_right_inj _).mpr hlog⟩
      · right
        rw [hsame]

/-- Where the first run does not stop in that way, the two are the same. -/
theorem AgreesUpTo.eq (h : AgreesUpTo stops x y)
    (hgoes : ∀ failure, x.outcome = .error failure → ¬ stops failure) : x = y := by
  rcases h with ⟨failure, hstops, hfail, -, -⟩ | hsame
  · exact absurd hstops (hgoes failure hfail)
  · exact hsame

/-- What the first run asks is the beginning of what the second one asks. -/
theorem AgreesUpTo.isPrefix_asked (h : AgreesUpTo stops x y) : x.asked <+: y.asked := by
  rcases h with ⟨failure, -, -, hasked, -⟩ | rfl
  · exact hasked
  · exact List.prefix_rfl

/-- What the first run logs is the beginning of what the second one logs. -/
theorem AgreesUpTo.isPrefix_log (h : AgreesUpTo stops x y) : x.log <+: y.log := by
  rcases h with ⟨failure, -, -, -, hlog⟩ | rfl
  · exact hlog
  · exact List.prefix_rfl

/-- What the first run succeeds with, the second one does. -/
theorem AgreesUpTo.ok_of_ok (h : AgreesUpTo stops x y) {a : α} (hok : x.outcome = .ok a) :
    y.outcome = .ok a := by
  rcases h with ⟨failure, -, hfail, -, -⟩ | rfl
  · rw [hok] at hfail
    cases hfail
  · exact hok

/-- What the second run succeeds with, the first one does too, unless it stops in that way. -/
theorem AgreesUpTo.ok_or_stops_of_ok (h : AgreesUpTo stops x y) {a : α} (hok : y.outcome = .ok a) :
    x.outcome = .ok a ∨ ∃ failure, stops failure ∧ x.outcome = .error failure := by
  rcases h with ⟨failure, hstops, hfail, -, -⟩ | rfl
  · exact .inr ⟨failure, hstops, hfail⟩
  · exact .inl hok

/-- Where the second run stops in that way, so does the first. -/
theorem AgreesUpTo.stops_of_stops (h : AgreesUpTo stops x y) {failure : Failure}
    (hfail : y.outcome = .error failure) (hstops : stops failure) :
    ∃ failure, stops failure ∧ x.outcome = .error failure := by
  rcases h with ⟨failure', hstops', hfail', -, -⟩ | rfl
  · exact ⟨failure', hstops', hfail'⟩
  · exact ⟨failure, hstops, hfail⟩

end Transcript

namespace Expansion

/-- Transcripts in lockstep up to a failure. -/
def agreement (stops : Failure → Prop) : Lockstep Transcript Transcript where
  Rel := Transcript.AgreesUpTo stops
  rel_pure _ := .inr rfl
  rel_throw _ := .inr rfl
  rel_bind := Transcript.AgreesUpTo.bind

end Expansion

end Interpolation
