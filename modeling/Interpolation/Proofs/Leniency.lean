import Interpolation.Proofs.Failing

/-!
# Strict and lenient expanders

An expander may keep a placeholder without a value, or fail at it.  `Expander.withLenient` is an
expander with this set either way and everything else as it is.

The strict one goes the way of the lenient one until it meets a placeholder without a value
(`agreesUpTo_of_strict`), so where it does not fail for this the two come to the same, question by
question and entry by entry; where it does, it has asked the first questions of the lenient one.
-/

set_option autoImplicit false

namespace Interpolation

/-- The dialect in which placeholders without a value may stay, or may not, and which else is the
same. -/
def Dialect.withLenient (d : Dialect) (lenient : Bool) : Dialect :=
  { d with lenient }

theorem Dialect.sameDelimiters_withLenient (d : Dialect) (lenient lenient' : Bool) :
    (d.withLenient lenient).SameDelimiters (d.withLenient lenient') where
  opening := rfl
  closing := rfl

namespace Expansion

/-- The strict expansion of a text is the lenient one up to where a placeholder has no value. -/
theorem agreesUpTo_of_strict (dialect : Dialect) (answer : Text → Reply) (limit : Value)
    (room : Nat) (active : List Text) (value : Text) :
    Transcript.AgreesUpTo Failure.IsUnresolvable
      (guarded (dialect.withLenient false) answer limit room active value)
      (guarded (dialect.withLenient true) answer limit room active value) := by
  apply (agreement _).rel_guarded (dialect.sameDelimiters_withLenient false true)
  intro _ _ hinner value body start
  apply (agreement _).rel_fillIn_of_lookUp hinner
  · intro name
    right
    rfl
  · intro name
    right
    rfl
  · -- here the two go apart: the strict one throws where the lenient one leaves all as it is
    intro name
    exact Transcript.agreesUpTo_throw trivial _

end Expansion

namespace Expander

open Expansion

/-- The expander that keeps placeholders without a value, or fails at them, and which else is the
same. -/
def withLenient (e : Expander) (lenient : Bool) : Expander :=
  { e with dialect := e.dialect.withLenient lenient }

/-- Strict and lenient expanders agree until a placeholder has no value.  Unless the strict one
fails for this, the two come to the same, with the same questions in the same order and the same
log; where it does, its questions are the first ones of the lenient one, which never fails for
this. -/
theorem replace_strict_lenient (e : Expander) (answer : Text → Reply) (text : Text)
    (ledger : Ledger (List Text)) :
    let offer := Offer.usable (Resolver.recording answer)
    let strict := ((e.withLenient false).replace (.text text) offer).run ledger
    let lenient := ((e.withLenient true).replace (.text text) offer).run ledger
    ((∀ failure, strict.1 = .error failure → ¬ failure.IsUnresolvable) → lenient = strict) ∧
    ((∃ failure, strict.1 = .error failure ∧ failure.IsUnresolvable) →
      strict.2.source <+: lenient.2.source) ∧
    ∀ failure, lenient.1 = .error failure → ¬ failure.IsUnresolvable := by
  dsimp only
  have hagree : Transcript.AgreesUpTo Failure.IsUnresolvable
      ((e.withLenient false).transcript answer text)
      ((e.withLenient true).transcript answer text) :=
    agreesUpTo_of_strict e.dialect answer e.given (e.limit + 1) [] text
  rw [replace_run, replace_run]
  refine ⟨?_, ?_, ?_⟩
  · intro hgoes
    rw [hagree.eq hgoes]
  · rintro -
    exact (List.prefix_append_right_inj _).mpr hagree.isPrefix_asked
  · intro failure hfail
    exact not_isUnresolvable_of_lenient rfl (ofExpansion_of_guarded hfail)

end Expander

end Interpolation
