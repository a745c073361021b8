import Interpolation.Proofs.Agreement
import Interpolation.Proofs.Splicing

/-!
# Expanding without the cycle check

`expandUnguarded` is the engine without the set of bodies that are being expanded: a body is
expanded also where it stands inside its own expansion, and only the limit on nesting ends that.

With a resolver of fixed answers, two comparisons carry over from what the engine is made of.  With
more levels left it goes the same way as with fewer, up to where that was too deep; and the engine
with the check goes the same way up to where it meets a body again.
-/

set_option autoImplicit false

namespace Interpolation

namespace Expansion

/-- Expands a text as `expand` does, but does not look at the bodies that are being expanded. -/
def expandUnguarded {m : Type → Type} [Monad m] [MonadExcept Failure m] (dialect : Dialect)
    (ask : Text → m (Option Text)) (record : Text → m Unit) (limit : Value) :
    (room : Nat) → Text → m Text
  | 0, value => throw (.tooDeep limit (.text value))
  | room + 1, value =>
    spliceFrom dialect (fun body start =>
      fillIn dialect ask record (expandUnguarded dialect ask record limit room) value body start)
      value 0

/-- The transcript of an expansion without the check. -/
abbrev unguarded (dialect : Dialect) (answer : Text → Reply) (limit : Value) (room : Nat)
    (value : Text) : Transcript Text :=
  expandUnguarded dialect (Transcript.ask answer) Transcript.recordSubstitution limit room value

/-- The transcript for a placeholder, where bodies and values are expanded without the check. -/
abbrev fillInUnguarded (dialect : Dialect) (answer : Text → Reply) (limit : Value) (room : Nat)
    (value body : Text) (start : Nat) : Transcript (Option Text) :=
  fillIn dialect (Transcript.ask answer) Transcript.recordSubstitution
    (unguarded dialect answer limit room) value body start

variable {dialect : Dialect} {answer : Text → Reply} {limit : Value} {room : Nat} {value : Text}

/-- An expansion without the check is one pass. -/
theorem unguarded_succ :
    unguarded dialect answer limit (room + 1) value =
      walkFrom dialect (fillInUnguarded dialect answer limit room value) [] value := by
  rw [unguarded, expandUnguarded, spliceFrom_zero]

/-- A text without a placeholder that is read comes to itself. -/
theorem unguarded_of_none (h : dialect.firstPlaceholder? value = none) :
    unguarded dialect answer limit (room + 1) value = pure value := by
  rw [unguarded_succ, walkFrom_of_none h, List.nil_append]

/-- A run without the check follows its transcript. -/
theorem follows_expandUnguarded (dialect : Dialect) (answer : Text → Reply) (limit : Value)
    (room : Nat) (active : List Text) (value : Text) :
    Follows active
      (expandUnguarded dialect (ask (Resolver.recording answer)) recordSubstitution limit room
        value)
      (unguarded dialect answer limit room value) := by
  induction room generalizing value with
  | zero => exact (following active).rel_throw _
  | succ room ih =>
    rw [expandUnguarded, spliceFrom_zero, unguarded_succ]
    refine (following active).rel_walkFrom (fun body start => ?_) [] value
    exact (following active).rel_fillIn (follows_ask answer) follows_recordSubstitution ih value
      body start

/-- With more levels left, an expansion without the check is the same up to where it was too
deep. -/
theorem agreesUpTo_unguarded_of_room_le (dialect : Dialect) (answer : Text → Reply)
    (limit limit' : Value) {room room' : Nat} (le : room ≤ room') (value : Text) :
    Transcript.AgreesUpTo Failure.IsTooDeep (unguarded dialect answer limit room value)
      (unguarded dialect answer limit' room' value) := by
  induction room generalizing room' value with
  | zero => exact Transcript.agreesUpTo_throw trivial _
  | succ room ih =>
    obtain ⟨room', rfl⟩ := Nat.exists_eq_add_of_lt le
    rw [unguarded_succ, unguarded_succ]
    refine (agreement _).rel_walkFrom (fun body start => ?_) [] value
    exact (agreement _).rel_fillIn (fun _ => .inr rfl) (fun _ => .inr rfl)
      (ih (Nat.le_add_right room room')) value body start

/-- With more levels left, a placeholder is filled in alike up to where that was too deep. -/
theorem agreesUpTo_fillInUnguarded_of_room_le (dialect : Dialect) (answer : Text → Reply)
    (limit limit' : Value) {room room' : Nat} (le : room ≤ room') (value body : Text)
    (start : Nat) :
    Transcript.AgreesUpTo Failure.IsTooDeep
      (fillInUnguarded dialect answer limit room value body start)
      (fillInUnguarded dialect answer limit' room' value body start) :=
  (agreement _).rel_fillIn (fun _ => .inr rfl) (fun _ => .inr rfl)
    (agreesUpTo_unguarded_of_room_le dialect answer limit limit' le) value body start

/-- The check changes nothing in a placeholder up to where a body is met inside its own expansion,
if that is so of what the placeholder expands. -/
theorem agreesUpTo_fillInGuarded {active : List Text} {body : Text}
    (h : ∀ text, Transcript.AgreesUpTo Failure.IsCircular
      (guarded dialect answer limit room (body :: active) text)
      (unguarded dialect answer limit room text)) (value : Text) (start : Nat) :
    Transcript.AgreesUpTo Failure.IsCircular
      (fillInGuarded dialect answer limit room active value body start)
      (fillInUnguarded dialect answer limit room value body start) := by
  by_cases hmem : body ∈ active
  · rw [fillInGuarded, if_pos hmem]
    exact Transcript.agreesUpTo_throw trivial _
  · rw [fillInGuarded, if_neg hmem]
    exact (agreement _).rel_fillIn (fun _ => .inr rfl) (fun _ => .inr rfl) h value body start

/-- The check changes nothing up to where a body is met inside its own expansion. -/
theorem agreesUpTo_of_guarded (dialect : Dialect) (answer : Text → Reply) (limit : Value)
    (room : Nat) (active : List Text) (value : Text) :
    Transcript.AgreesUpTo Failure.IsCircular (guarded dialect answer limit room active value)
      (unguarded dialect answer limit room value) := by
  induction room generalizing active value with
  | zero => exact .inr rfl
  | succ room ih =>
    rw [guarded_succ, unguarded_succ]
    refine (agreement _).rel_walkFrom (fun body start => ?_) [] value
    exact agreesUpTo_fillInGuarded (ih (body :: active)) value start

/-- Without the check, an expansion that is too deep says so with its own limit. -/
theorem eq_of_unguarded_tooDeep {failure : Failure} (hdeep : failure.IsTooDeep)
    (h : (unguarded dialect answer limit room value).outcome = .error failure) :
    ∃ text, failure = .tooDeep limit (.text text) := by
  induction room generalizing value with
  | zero =>
    cases h
    exact ⟨value, rfl⟩
  | succ room ih =>
    rw [unguarded_succ] at h
    obtain ⟨emitted, unread, p, -, -, hfail⟩ := reached_of_walkFrom_error .start h
    rcases cases_of_fillIn_error hfail with hbody | ⟨_, -, hlookUp | ⟨_, -, hvalue⟩ | ⟨-, -, hhere⟩⟩
    · exact ih hbody
    · have hsource := isOfSource_of_lookUp hlookUp
      cases failure <;> first | exact hsource.elim | exact hdeep.elim
    · exact ih hvalue
    · rw [hhere] at hdeep
      exact hdeep.elim

/-! ## Runs without the check -/

/-- Expands a text as an expander does, but does not look at the bodies that are being expanded. -/
def runUnguarded {σ : Type} (dialect : Dialect) (limit : Nat) (given : Value)
    (resolver : Resolver σ) (text : Text) : Work Failure σ Text :=
  ExceptT.mk fun ledger =>
    let (outcome, session) :=
      expandUnguarded dialect (ask resolver) recordSubstitution given (limit + 1) text ⟨ledger, []⟩
    (outcome, session.toLedger)

/-- A run without the check adds its transcript to the ledger. -/
theorem runUnguarded_run (dialect : Dialect) (limit : Nat) (given : Value) (answer : Text → Reply)
    (text : Text) (ledger : Ledger (List Text)) :
    (runUnguarded dialect limit given (Resolver.recording answer) text).run ledger =
      ((unguarded dialect answer given (limit + 1) text).outcome,
        ⟨ledger.source ++ (unguarded dialect answer given (limit + 1) text).asked,
          ledger.log ++ (unguarded dialect answer given (limit + 1) text).log⟩) := by
  obtain ⟨left, hrun, -⟩ :=
    follows_expandUnguarded dialect answer given (limit + 1) [] text ledger
  show (let (outcome, session) := (expandUnguarded dialect (ask (Resolver.recording answer))
      recordSubstitution given (limit + 1) text).run ⟨ledger, []⟩
    (outcome, session.toLedger)) = _
  rw [hrun]

end Expansion

end Interpolation
