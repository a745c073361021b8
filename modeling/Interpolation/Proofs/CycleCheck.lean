import Mathlib.Logic.Relation
import Interpolation.Proofs.Splicing
import Interpolation.Proofs.Unguarded

/-!
# The cycle check is exact

A text *calls* the bodies of the placeholders that its expansion meets and the values that those
have.  What an expansion comes to, where it has levels enough, does not depend on the place it
stands in, and so neither do the calls.  A text that calls a text that is too deep is too deep one
level further up (`tooDeep_of_calls`), so a text on a cycle of calls is too deep however many levels
are left (`endless_of_cycle`).

The engine refuses a body that stands in its own expansion.  All the bodies that are being expanded
lead to the text at hand by calls (`Under`), so such a body closes a cycle of calls, and the whole
expansion would not end without the check (`endless_of_circular`).  Otherwise the check changes
nothing.
-/

set_option autoImplicit false

namespace Interpolation

namespace Expansion

variable {dialect : Dialect} {answer : Text → Reply} {limit : Value} {room : Nat}
variable {text value body name found result : Text}

/-! ## What a text comes to -/

/-- A text whose expansion gives a result, where it has levels enough. -/
def Comes (dialect : Dialect) (answer : Text → Reply) (text result : Text) : Prop :=
  ∃ limit room, (unguarded dialect answer limit room text).outcome = .ok result

/-- A placeholder whose place something takes, or which stays, where it has levels enough. -/
def Fills (dialect : Dialect) (answer : Text → Reply) (value body : Text) (start : Nat)
    (insertion : Option Text) : Prop :=
  ∃ limit room,
    (fillInUnguarded dialect answer limit room value body start).outcome = .ok insertion

/-- A text whose expansion is too deep with so many levels left. -/
def TooDeep (dialect : Dialect) (answer : Text → Reply) (limit : Value) (room : Nat)
    (text : Text) : Prop :=
  ∃ failure, failure.IsTooDeep ∧
    (unguarded dialect answer limit room text).outcome = .error failure

/-- A text whose expansion is too deep however many levels are left. -/
def Endless (dialect : Dialect) (answer : Text → Reply) (text : Text) : Prop :=
  ∀ limit room, TooDeep dialect answer limit room text

/-- With any number of levels left, a text comes to its result or is too deep. -/
theorem Comes.outcome_or_tooDeep (h : Comes dialect answer text result) (limit : Value)
    (room : Nat) :
    (unguarded dialect answer limit room text).outcome = .ok result ∨
      TooDeep dialect answer limit room text := by
  obtain ⟨limit', room', h⟩ := h
  rcases Nat.le_total room room' with le | le
  · exact (agreesUpTo_unguarded_of_room_le dialect answer limit limit' le text).ok_or_stops_of_ok h
  · exact .inl ((agreesUpTo_unguarded_of_room_le dialect answer limit' limit le text).ok_of_ok h)

/-- With any number of levels left, what takes the place of a placeholder takes it, or the
placeholder is too deep. -/
theorem Fills.outcome_or_tooDeep {start : Nat} {insertion : Option Text}
    (h : Fills dialect answer value body start insertion) (limit : Value) (room : Nat) :
    (fillInUnguarded dialect answer limit room value body start).outcome = .ok insertion ∨
      ∃ failure, failure.IsTooDeep ∧
        (fillInUnguarded dialect answer limit room value body start).outcome =
          .error failure := by
  obtain ⟨limit', room', h⟩ := h
  rcases Nat.le_total room room' with le | le
  · exact (agreesUpTo_fillInUnguarded_of_room_le dialect answer limit limit' le value body
      start).ok_or_stops_of_ok h
  · exact .inl ((agreesUpTo_fillInUnguarded_of_room_le dialect answer limit' limit le value body
      start).ok_of_ok h)

/-! ## Calls -/

/-- A body of a placeholder that the expansion of a text meets. -/
def Meets (dialect : Dialect) (answer : Text → Reply) (text body : Text) : Prop :=
  ∃ emitted unread p, Reached dialect (Fills dialect answer text) text emitted unread ∧
    dialect.firstPlaceholder? unread = some p ∧ p.body = body

/-- A text that is expanded for a placeholder with a body: the body, or the value of its name. -/
inductive Leads (dialect : Dialect) (answer : Text → Reply) (body : Text) : Text → Prop
  | body : Leads dialect answer body body
  | value {name found : Text} : Comes dialect answer body name →
    (lookUp dialect (Transcript.ask answer) name).outcome = .ok (some found) →
    Leads dialect answer body found

/-- A text whose expansion expands another one. -/
def Calls (dialect : Dialect) (answer : Text → Reply) (text called : Text) : Prop :=
  ∃ body, Meets dialect answer text body ∧ Leads dialect answer body called

/-- A pass gets as far as it would with levels enough, or is too deep. -/
theorem Reached.gives_or_tooDeep {emitted unread : Text}
    (h : Reached dialect (Fills dialect answer text) text emitted unread) (limit : Value)
    (room : Nat) :
    Reached dialect (Gives (fillInUnguarded dialect answer limit room text)) text emitted unread ∨
      TooDeep dialect answer limit (room + 1) text := by
  induction h with
  | start => exact .inl .start
  | step _ hp hfills ih =>
    rcases ih with hreached | hdeep
    · rcases hfills.outcome_or_tooDeep limit room with hok | ⟨failure, hdeep, hfail⟩
      · exact .inl (hreached.step hp hok)
      · refine .inr ⟨failure, hdeep, ?_⟩
        rw [unguarded_succ]
        exact outcome_walkFrom_of_reached_error hreached hp hfail
    · exact .inr hdeep

/-- A placeholder that leads to a text that is too deep is too deep. -/
theorem Leads.outcome_fillIn {called : Text} (h : Leads dialect answer body called)
    (hdeep : TooDeep dialect answer limit room called) (value : Text) (start : Nat) :
    ∃ failure, failure.IsTooDeep ∧
      (fillInUnguarded dialect answer limit room value body start).outcome = .error failure := by
  cases h with
  | body =>
    obtain ⟨failure, hdeep, hfail⟩ := hdeep
    exact ⟨failure, hdeep, outcome_fillIn_of_body hfail⟩
  | value hname hfound =>
    rcases hname.outcome_or_tooDeep limit room with hname | ⟨failure, hdeep, hfail⟩
    · obtain ⟨failure, hdeep, hfail⟩ := hdeep
      refine ⟨failure, hdeep, ?_⟩
      rw [fillInUnguarded, outcome_fillIn_of_value hname hfound, hfail]
      rfl
    · exact ⟨failure, hdeep, outcome_fillIn_of_body hfail⟩

/-- A text that calls a text that is too deep is too deep one level further up. -/
theorem tooDeep_of_calls {called : Text} (h : Calls dialect answer text called)
    (hdeep : TooDeep dialect answer limit room called) :
    TooDeep dialect answer limit (room + 1) text := by
  obtain ⟨body, ⟨emitted, unread, p, hreached, hp, rfl⟩, hleads⟩ := h
  rcases hreached.gives_or_tooDeep limit room with hreached | hdeep
  · obtain ⟨failure, hdeep, hfail⟩ :=
      hleads.outcome_fillIn hdeep text (emitted ++ p.before).length
    refine ⟨failure, hdeep, ?_⟩
    rw [unguarded_succ]
    exact outcome_walkFrom_of_reached_error hreached hp hfail
  · exact hdeep

/-- Without levels left, every text is too deep. -/
theorem tooDeep_zero (limit : Value) (text : Text) : TooDeep dialect answer limit 0 text :=
  ⟨.tooDeep limit (.text text), trivial, rfl⟩

/-- A text that calls a text whose expansion has no end has none itself. -/
theorem endless_of_calls {called : Text} (h : Calls dialect answer text called)
    (hendless : Endless dialect answer called) : Endless dialect answer text := by
  intro limit room
  cases room with
  | zero => exact tooDeep_zero limit text
  | succ room => exact tooDeep_of_calls h (hendless limit room)

/-- The expansion of a text on a cycle of calls has no end. -/
theorem endless_of_cycle (h : Relation.TransGen (Calls dialect answer) text text) :
    Endless dialect answer text := by
  intro limit room
  -- the text that is called first lies on the cycle too, and has one level less
  induction room generalizing text with
  | zero => exact tooDeep_zero limit text
  | succ room ih =>
    obtain ⟨called, hcalls, hback⟩ := Relation.TransGen.head'_iff.mp h
    exact tooDeep_of_calls hcalls (ih (Relation.TransGen.tail' hback hcalls))

/-! ## What the check refuses -/

/-- Every body that is being expanded leads, by calls, to the text at hand. -/
def Under (dialect : Dialect) (answer : Text → Reply) (active : List Text) (text : Text) : Prop :=
  ∀ body ∈ active, ∃ called, Leads dialect answer body called ∧
    Relation.ReflTransGen (Calls dialect answer) called text

variable {active : List Text}

/-- Where no body is being expanded, a text stands under nothing. -/
theorem under_nil : Under dialect answer [] text := by
  intro body hmem
  cases hmem

/-- What is expanded for a placeholder stands under its body and all that the text stands under. -/
theorem Under.of_calls {called : Text} (h : Under dialect answer active text)
    (hmeets : Meets dialect answer text body) (hleads : Leads dialect answer body called) :
    Under dialect answer (body :: active) called := by
  intro other hmem
  rcases List.mem_cons.mp hmem with rfl | hmem
  · exact ⟨called, hleads, .refl⟩
  · obtain ⟨first, hfirst, hcalls⟩ := h other hmem
    exact ⟨first, hfirst, hcalls.tail ⟨body, hmeets, hleads⟩⟩

/-- A body that is met in its own expansion closes a cycle of calls. -/
theorem Under.cycle (h : Under dialect answer active text)
    (hmeets : Meets dialect answer text body) (hmem : body ∈ active) :
    Relation.TransGen (Calls dialect answer) text text := by
  obtain ⟨called, hleads, hcalls⟩ := h body hmem
  exact Relation.TransGen.head' ⟨body, hmeets, hleads⟩ hcalls

/-- What the engine with the check comes to, a text comes to. -/
theorem comes_of_guarded
    (h : (guarded dialect answer limit room active text).outcome = .ok result) :
    Comes dialect answer text result :=
  ⟨limit, room, (agreesUpTo_of_guarded dialect answer limit room active text).ok_of_ok h⟩

/-- The bodies that the engine with the check meets are met. -/
theorem meets_of_reached {emitted unread : Text} {p : Placeholder}
    (h : Reached dialect (Gives (fillInGuarded dialect answer limit room active text)) text emitted
      unread)
    (hp : dialect.firstPlaceholder? unread = some p) : Meets dialect answer text p.body := by
  refine ⟨emitted, unread, p, h.mono fun body start insertion hgives => ?_, hp, rfl⟩
  have hagree := agreesUpTo_fillInGuarded
    (agreesUpTo_of_guarded dialect answer limit room (body :: active)) text start
  exact ⟨limit, room, hagree.ok_of_ok hgives⟩

/-- Where the check refuses a body, the expansion would have no end. -/
theorem endless_of_circular {circular : Value} (hunder : Under dialect answer active text)
    (h : (guarded dialect answer limit room active text).outcome = .error (.circular circular)) :
    Endless dialect answer text := by
  induction room generalizing active text with
  | zero => cases h
  | succ room ih =>
    rw [guarded_succ] at h
    obtain ⟨emitted, unread, p, hreached, hp, hfail⟩ := reached_of_walkFrom_error .start h
    have hmeets := meets_of_reached hreached hp
    rcases cases_of_fillInGuarded_error hfail with
      ⟨hmem, -⟩ | hbody | ⟨name, hname, hlookUp | ⟨found, hfound, hvalue⟩ | ⟨-, -, hhere⟩⟩
    · exact endless_of_cycle (hunder.cycle hmeets hmem)
    · have hleads : Leads dialect answer p.body p.body := .body
      exact endless_of_calls ⟨p.body, hmeets, hleads⟩ (ih (hunder.of_calls hmeets hleads) hbody)
    · exact (isOfSource_of_lookUp hlookUp).elim
    · have hleads : Leads dialect answer p.body found := .value (comes_of_guarded hname) hfound
      exact endless_of_calls ⟨p.body, hmeets, hleads⟩ (ih (hunder.of_calls hmeets hleads) hvalue)
    · cases hhere

/-- Where the expansion of a text has an end, the check changes nothing in it. -/
theorem guarded_eq_of_comes (hunder : Under dialect answer active text)
    (h : Comes dialect answer text result) :
    guarded dialect answer limit room active text = unguarded dialect answer limit room text := by
  apply (agreesUpTo_of_guarded dialect answer limit room active text).eq
  intro failure hfail hcircular
  obtain ⟨body, rfl⟩ := Failure.isCircular_iff.mp hcircular
  obtain ⟨limit', room', hok⟩ := h
  obtain ⟨failure, -, hdeep⟩ := endless_of_circular hunder hfail limit' room'
  rw [hok] at hdeep
  cases hdeep

/-- An expansion that ends without the check ends alike with it. -/
theorem outcome_of_unguarded_ok (hunder : Under dialect answer active text)
    (h : (unguarded dialect answer limit room text).outcome = .ok result) :
    (guarded dialect answer limit room active text).outcome = .ok result := by
  rw [guarded_eq_of_comes hunder ⟨limit, room, h⟩]
  exact h

end Expansion

namespace Expander

open Expansion

/-- The cycle check is exact.  An expander and the engine without the check give the same texts;
where the expander refuses a body, the engine without the check exceeds every limit on nesting; and
in all other cases the two have the same outcome, questions and log. -/
theorem replace_iff_runUnguarded (e : Expander) (answer : Text → Reply) (text : Text)
    (ledger : Ledger (List Text)) :
    let run := (e.replace (.text text) (.usable (Resolver.recording answer))).run ledger
    let unchecked (limit : Nat) (given : Value) :=
      (runUnguarded e.dialect limit given (Resolver.recording answer) text).run ledger
    (∀ result, run.1 = .ok result ↔ (unchecked e.limit e.given).1 = .ok result) ∧
    (∀ body, run.1 = .error (.circular body) →
      ∀ limit given, ∃ value, (unchecked limit given).1 = .error (.tooDeep given (.text value))) ∧
    ((∀ body, run.1 ≠ .error (.circular body)) → run = unchecked e.limit e.given) := by
  dsimp only
  simp only [replace_run, runUnguarded_run]
  have hagree : Transcript.AgreesUpTo Failure.IsCircular (e.transcript answer text) _ :=
    agreesUpTo_of_guarded e.dialect answer e.given (e.limit + 1) [] text
  refine ⟨fun result => ⟨hagree.ok_of_ok, outcome_of_unguarded_ok under_nil⟩, ?_, ?_⟩
  · intro body hcircular limit given
    obtain ⟨failure, hdeep, hfail⟩ := endless_of_circular under_nil hcircular given (limit + 1)
    obtain ⟨value, rfl⟩ := eq_of_unguarded_tooDeep hdeep hfail
    exact ⟨value, hfail⟩
  · intro hnone
    have hgoes : ∀ failure, (e.transcript answer text).outcome = .error failure →
        ¬ failure.IsCircular := by
      intro failure hfail hcircular
      obtain ⟨body, rfl⟩ := Failure.isCircular_iff.mp hcircular
      exact hnone body hfail
    rw [hagree.eq hgoes]

end Expander

end Interpolation
