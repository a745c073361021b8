import Interpolation.Proofs.SinglePass

/-!
# Computations in lockstep

The parts of the engine are written for any monad.  A relation between the computations of two
monads that holds of `pure` and of `throw`, and that sequencing keeps, therefore holds of what the
parts compute in the two monads, as soon as it holds of the questions, the records and the inner
expansions that they are given.  Each comparison of two runs below is such a relation.
-/

set_option autoImplicit false

namespace Interpolation

namespace Expansion

/-- A relation between the computations of two monads that sequencing keeps. -/
structure Lockstep (m n : Type → Type) [Monad m] [Monad n] [MonadExcept Failure m]
    [MonadExcept Failure n] where
  Rel : {α : Type} → m α → n α → Prop
  rel_pure : ∀ {α : Type} (a : α), Rel (pure a) (pure a)
  rel_throw : ∀ {α : Type} (f : Failure), Rel (throw f : m α) (throw f : n α)
  rel_bind : ∀ {α β : Type} {x : m α} {y : n α} {f : α → m β} {g : α → n β},
    Rel x y → (∀ a, Rel (f a) (g a)) → Rel (x >>= f) (y >>= g)

namespace Lockstep

variable {m n : Type → Type} [Monad m] [Monad n] [MonadExcept Failure m] [MonadExcept Failure n]
variable (L : Lockstep m n) {dialect : Dialect}

/-- Two passes are in lockstep if what takes the places of placeholders is. -/
theorem rel_walkFrom {replacement : Text → Nat → m (Option Text)}
    {replacement' : Text → Nat → n (Option Text)}
    (h : ∀ body start, L.Rel (replacement body start) (replacement' body start))
    (emitted unread : Text) :
    L.Rel (walkFrom dialect replacement emitted unread)
      (walkFrom dialect replacement' emitted unread) := by
  induction unread using dialect.placeholder_induction generalizing emitted with
  | rest unread hp =>
    rw [walkFrom_of_none hp, walkFrom_of_none hp]
    exact L.rel_pure _
  | placeholder unread p hp ih =>
    rw [walkFrom_of_some hp, walkFrom_of_some hp]
    exact L.rel_bind (h _ _) fun insertion => ih _

variable {ask : Text → m (Option Text)} {ask' : Text → n (Option Text)}

/-- Two look-ups of a name are in lockstep if the questions are. -/
theorem rel_lookUp (hask : ∀ name, L.Rel (ask name) (ask' name)) (name : Text) :
    L.Rel (lookUp dialect ask name) (lookUp dialect ask' name) := by
  unfold lookUp
  refine L.rel_bind (hask name) fun value => ?_
  cases value with
  | some value => exact L.rel_pure _
  | none =>
    dsimp only
    cases dialect.separator.bind (Text.cutAt? · name) with
    | none => exact L.rel_pure _
    | some parts => exact L.rel_bind (hask parts.1) fun value => L.rel_pure _

section FillIn

variable {dialect' : Dialect} {record : Text → m Unit} {record' : Text → n Unit}
variable {expandInner : Text → m Text} {expandInner' : Text → n Text}

/-- What fills in a placeholder is in lockstep, also in two dialects and for two texts that it is
met in, if all that it does is: the inner expansions, the look-ups, the records, and what becomes of
a placeholder without a value. -/
theorem rel_fillIn_of_lookUp {value value' body : Text} {start start' : Nat}
    (hinner : ∀ text, L.Rel (expandInner text) (expandInner' text))
    (hlookUp : ∀ name, L.Rel (lookUp dialect ask name) (lookUp dialect' ask' name))
    (hrecord : ∀ name, L.Rel (record name) (record' name))
    (hunfound : ∀ name, L.Rel
      (if dialect.lenient then pure none
        else throw (.unresolvable (.text name) (.text value) (.int start)) : m (Option Text))
      (if dialect'.lenient then pure none
        else throw (.unresolvable (.text name) (.text value') (.int start')) : n (Option Text))) :
    L.Rel (fillIn dialect ask record expandInner value body start)
      (fillIn dialect' ask' record' expandInner' value' body start') := by
  unfold fillIn
  refine L.rel_bind (hinner body) fun name => ?_
  refine L.rel_bind (hlookUp name) fun found => ?_
  cases found with
  | some found =>
    refine L.rel_bind (hinner found) fun insertion => ?_
    exact L.rel_bind (hrecord name) fun _ => L.rel_pure _
  | none => exact hunfound name

/-- What fills in a placeholder is in lockstep if the questions, the records and the inner
expansions are. -/
theorem rel_fillIn (hask : ∀ name, L.Rel (ask name) (ask' name))
    (hrecord : ∀ name, L.Rel (record name) (record' name))
    (hinner : ∀ text, L.Rel (expandInner text) (expandInner' text))
    (value body : Text) (start : Nat) :
    L.Rel (fillIn dialect ask record expandInner value body start)
      (fillIn dialect ask' record' expandInner' value body start) := by
  refine L.rel_fillIn_of_lookUp hinner (L.rel_lookUp hask) hrecord fun name => ?_
  split
  · exact L.rel_pure _
  · exact L.rel_throw _

end FillIn

end Lockstep

end Expansion

end Interpolation
