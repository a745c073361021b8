import Interpolation.Proofs.Agreement
import Interpolation.Proofs.Splicing

/-!
# What an expansion fails with

With a resolver of fixed answers there are four ways for an expansion to fail: a body stands inside
its own expansion, a reply is refused, a placeholder without a value may not stay, or there are no
levels left.  `ofExpansion_of_guarded` says that there is no other, and `Failure.OfExpansion` says
what each failure is about.
-/

set_option autoImplicit false

namespace Interpolation

/-- The failures of expansions in a dialect, with such answers and under such a limit. -/
inductive Failure.OfExpansion (dialect : Dialect) (answer : Text → Reply) (limit : Value) :
    Failure → Prop
  /-- A body stands inside its own expansion. -/
  | circular (body : Text) : OfExpansion dialect answer limit (.circular (.text body))
  /-- The reply to a name is refused. -/
  | refused {asked : Text} {failure : Failure} :
    (answer asked).checked asked = .error failure → OfExpansion dialect answer limit failure
  /-- A placeholder has no value and may not stay. -/
  | unresolvable (name value : Text) (start : Nat) : dialect.lenient = false →
    OfExpansion dialect answer limit (.unresolvable (.text name) (.text value) (.int start))
  /-- There are no levels left for a text. -/
  | tooDeep (value : Text) : OfExpansion dialect answer limit (.tooDeep limit (.text value))

namespace Expansion

variable {dialect : Dialect} {answer : Text → Reply} {limit : Value} {failure : Failure}

/-- An expansion fails in one of these ways, or it does not fail. -/
theorem ofExpansion_of_guarded {room : Nat} {active : List Text} {value : Text}
    (h : (guarded dialect answer limit room active value).outcome = .error failure) :
    failure.OfExpansion dialect answer limit := by
  induction room generalizing active value with
  | zero =>
    cases h
    exact .tooDeep value
  | succ room ih =>
    rw [guarded_succ] at h
    obtain ⟨emitted, unread, p, -, -, hfail⟩ := reached_of_walkFrom_error .start h
    rcases cases_of_fillInGuarded_error hfail with
      ⟨-, rfl⟩ | hbody | ⟨name, -, hlookUp | ⟨found, -, hvalue⟩ | ⟨-, strict, rfl⟩⟩
    · exact .circular p.body
    · exact ih hbody
    · obtain ⟨asked, hrefused⟩ := checked_of_lookUp_error hlookUp
      exact .refused hrefused
    · exact ih hvalue
    · exact .unresolvable name value _ strict

/-- In a lenient dialect, no placeholder fails for want of a value. -/
theorem not_isUnresolvable_of_lenient (lenient : dialect.lenient = true)
    (h : failure.OfExpansion dialect answer limit) : ¬ failure.IsUnresolvable := by
  intro hunresolvable
  cases h with
  | circular body => exact hunresolvable
  | refused hrefused =>
    have hsource := isOfSource_of_checked hrefused
    cases failure <;> first | exact hsource.elim | exact hunresolvable.elim
  | unresolvable name value start strict =>
    rw [lenient] at strict
    cases strict
  | tooDeep value => exact hunresolvable

end Expansion

end Interpolation
