import Interpolation.Proofs.Transcript

/-!
# Where a run succeeds and where it fails

What the parts of the engine come to with a resolver of fixed answers.  A look-up fails only where
an answer is no text or the resolver fails; a placeholder fails where its body, its look-up or its
value does, or where it has no value and may not stay; and a pass fails at the first placeholder
that fails.

`Reached` holds of what a pass has emitted and what it has still to read.  A pass that has got there
goes on from there (`outcome_walkFrom_of_reached`), and where it ends or fails has been reached
(`reached_of_walkFrom_ok`, `reached_of_walkFrom_error`).
-/

set_option autoImplicit false

namespace Interpolation

/-! ## What a reply or a look-up fails with -/

/-- The failures that come from a resolver or from what it answers. -/
def Failure.IsOfSource : Failure → Prop
  | badArgument _ => True
  | sourceFault _ => True
  | _ => False

/-- A reply is refused only because it is no text, or because the resolver has failed. -/
theorem isOfSource_of_checked {name : Text} {reply : Reply} {failure : Failure}
    (h : reply.checked name = .error failure) : failure.IsOfSource := by
  cases reply with
  | absent => cases h
  | text value => cases h
  | other value =>
    cases h
    exact trivial
  | fault fault =>
    cases h
    exact trivial

namespace Expansion

variable {dialect : Dialect} {answer : Text → Reply} {failure : Failure}

/-- Where there is no separator, a look-up is the question for the name. -/
theorem lookUp_of_separator_none {m : Type → Type} [Monad m] [LawfulMonad m]
    (hseparator : dialect.separator = none) (ask : Text → m (Option Text)) (name : Text) :
    lookUp dialect ask name = ask name := by
  unfold lookUp
  rw [hseparator]
  refine Eq.trans ?_ (bind_pure (ask name))
  congr 1
  funext found
  cases found <;> rfl

/-- A name that the reply is a text to is found. -/
theorem outcome_lookUp_of_text {name value : Text} (h : answer name = .text value) :
    (lookUp dialect (Transcript.ask answer) name).outcome = .ok (some value) := by
  have hask : (Transcript.ask answer name).outcome = .ok (some value) := by
    rw [Transcript.ask, h]
    rfl
  rw [lookUp, Transcript.bind_of_ok hask]
  rfl

/-- A look-up fails only where the reply to a name is refused. -/
theorem checked_of_lookUp_error {name : Text}
    (h : (lookUp dialect (Transcript.ask answer) name).outcome = .error failure) :
    ∃ asked, (answer asked).checked asked = .error failure := by
  unfold lookUp at h
  rw [Transcript.outcome_bind_eq_error_iff] at h
  rcases h with h | ⟨value, -, h⟩
  · exact ⟨name, h⟩
  · cases value with
    | some value => cases h
    | none =>
      dsimp only at h
      cases hcut : dialect.separator.bind (Text.cutAt? · name) with
      | none =>
        rw [hcut] at h
        cases h
      | some parts =>
        rw [hcut, Transcript.outcome_bind_eq_error_iff] at h
        rcases h with h | ⟨value, -, h⟩
        · exact ⟨parts.1, h⟩
        · cases h

/-- A look-up fails only with a failure of the source. -/
theorem isOfSource_of_lookUp {name : Text}
    (h : (lookUp dialect (Transcript.ask answer) name).outcome = .error failure) :
    failure.IsOfSource := by
  obtain ⟨asked, hrefused⟩ := checked_of_lookUp_error h
  exact isOfSource_of_checked hrefused

/-! ## What fills in a placeholder -/

section FillIn

variable {expandInner : Text → Transcript Text} {value body name found : Text} {start : Nat}

/-- A placeholder fails where its body does. -/
theorem outcome_fillIn_of_body (h : (expandInner body).outcome = .error failure) :
    (fillIn dialect (Transcript.ask answer) Transcript.recordSubstitution expandInner value body
      start).outcome = .error failure := by
  unfold fillIn
  rw [Transcript.bind_of_error h]

/-- A placeholder whose name has a value comes to what the value does. -/
theorem outcome_fillIn_of_value (hname : (expandInner body).outcome = .ok name)
    (hfound : (lookUp dialect (Transcript.ask answer) name).outcome = .ok (some found)) :
    (fillIn dialect (Transcript.ask answer) Transcript.recordSubstitution expandInner value body
      start).outcome = (expandInner found).outcome.map some := by
  unfold fillIn
  rw [Transcript.bind_of_ok hname, Transcript.bind_of_ok hfound]
  dsimp only
  cases h : (expandInner found).outcome with
  | error failure =>
    rw [Transcript.bind_of_error h]
    rfl
  | ok insertion =>
    rw [Transcript.bind_of_ok h]
    rfl

/-- A placeholder whose name has no value is the failure that says so, where it may not stay. -/
theorem outcome_fillIn_of_none (strict : dialect.lenient = false)
    (hname : (expandInner body).outcome = .ok name)
    (hnone : (lookUp dialect (Transcript.ask answer) name).outcome = .ok none) :
    (fillIn dialect (Transcript.ask answer) Transcript.recordSubstitution expandInner value body
      start).outcome = .error (.unresolvable (.text name) (.text value) (.int start)) := by
  unfold fillIn
  rw [Transcript.bind_of_ok hname, Transcript.bind_of_ok hnone]
  dsimp only
  rw [strict, if_neg Bool.false_ne_true]
  rfl

/-- What a placeholder fails with is what its body, its look-up or its value fails with, or else
that it has no value and may not stay. -/
theorem cases_of_fillIn_error
    (h : (fillIn dialect (Transcript.ask answer) Transcript.recordSubstitution expandInner value
      body start).outcome = .error failure) :
    (expandInner body).outcome = .error failure ∨
    ∃ name, (expandInner body).outcome = .ok name ∧
      ((lookUp dialect (Transcript.ask answer) name).outcome = .error failure ∨
      (∃ found, (lookUp dialect (Transcript.ask answer) name).outcome = .ok (some found) ∧
        (expandInner found).outcome = .error failure) ∨
      ((lookUp dialect (Transcript.ask answer) name).outcome = .ok none ∧
        dialect.lenient = false ∧
        failure = .unresolvable (.text name) (.text value) (.int start))) := by
  unfold fillIn at h
  rw [Transcript.outcome_bind_eq_error_iff] at h
  rcases h with h | ⟨name, hname, h⟩
  · exact .inl h
  · refine .inr ⟨name, hname, ?_⟩
    rw [Transcript.outcome_bind_eq_error_iff] at h
    rcases h with h | ⟨found, hfound, h⟩
    · exact .inl h
    · cases found with
      | some found =>
        dsimp only at h
        rw [Transcript.outcome_bind_eq_error_iff] at h
        rcases h with h | ⟨insertion, -, h⟩
        · exact .inr (.inl ⟨found, hfound, h⟩)
        · cases h
      | none =>
        dsimp only at h
        by_cases hlenient : dialect.lenient
        · rw [if_pos hlenient] at h
          cases h
        · rw [if_neg hlenient] at h
          cases h
          exact .inr (.inr ⟨hfound, Bool.eq_false_iff.mpr hlenient, rfl⟩)

/-- What takes the place of a placeholder is what the value of its name comes to, and nothing does
only where the name has no value and the placeholder may stay. -/
theorem cases_of_fillIn_ok {insertion : Option Text}
    (h : (fillIn dialect (Transcript.ask answer) Transcript.recordSubstitution expandInner value
      body start).outcome = .ok insertion) :
    ∃ name, (expandInner body).outcome = .ok name ∧
      ((∃ found text, insertion = some text ∧
        (lookUp dialect (Transcript.ask answer) name).outcome = .ok (some found) ∧
        (expandInner found).outcome = .ok text) ∨
      (insertion = none ∧ dialect.lenient = true ∧
        (lookUp dialect (Transcript.ask answer) name).outcome = .ok none)) := by
  unfold fillIn at h
  obtain ⟨name, hname, h⟩ := Transcript.outcome_bind_eq_ok_iff.mp h
  refine ⟨name, hname, ?_⟩
  obtain ⟨found, hfound, h⟩ := Transcript.outcome_bind_eq_ok_iff.mp h
  cases found with
  | some found =>
    obtain ⟨text, htext, h⟩ := Transcript.outcome_bind_eq_ok_iff.mp h
    cases h
    exact .inl ⟨found, text, rfl, hfound, htext⟩
  | none =>
    dsimp only at h
    by_cases hlenient : dialect.lenient
    · rw [if_pos hlenient] at h
      cases h
      exact .inr ⟨rfl, hlenient, hfound⟩
    · rw [if_neg hlenient] at h
      cases h

end FillIn

/-! ## How far a pass gets -/

/-- What a pass over a value can have emitted, and what it has still to read, where `gives` says
what may take the place of a placeholder with a body at an index. -/
inductive Reached (dialect : Dialect) (gives : Text → Nat → Option Text → Prop) (value : Text) :
    (emitted unread : Text) → Prop
  | start : Reached dialect gives value [] value
  | step {emitted unread : Text} {p : Placeholder} {insertion : Option Text} :
    Reached dialect gives value emitted unread →
    dialect.firstPlaceholder? unread = some p →
    gives p.body (emitted ++ p.before).length insertion →
    Reached dialect gives value
      (emitted ++ p.before ++ insertion.getD (dialect.written p.body)) p.after

section Reached

variable {gives gives' : Text → Nat → Option Text → Prop} {value emitted unread : Text}

/-- Where more may take the places of placeholders, a pass can get as far. -/
theorem Reached.mono (h : Reached dialect gives value emitted unread)
    (le : ∀ body start insertion, gives body start insertion → gives' body start insertion) :
    Reached dialect gives' value emitted unread := by
  induction h with
  | start => exact .start
  | step _ hp hgives ih => exact .step ih hp (le _ _ _ hgives)

variable {replacement : Text → Nat → Transcript (Option Text)}

/-- What a pass gives where what takes the places of placeholders is computed. -/
def Gives (replacement : Text → Nat → Transcript (Option Text)) (body : Text) (start : Nat)
    (insertion : Option Text) : Prop :=
  (replacement body start).outcome = .ok insertion

/-- A pass comes to what it comes to from where it has got. -/
theorem outcome_walkFrom_of_reached
    (h : Reached dialect (Gives replacement) value emitted unread) :
    (walkFrom dialect replacement [] value).outcome =
      (walkFrom dialect replacement emitted unread).outcome := by
  induction h with
  | start => rfl
  | step _ hp hgives ih => rw [ih, walkFrom_of_some hp, Transcript.bind_of_ok hgives]

/-- A pass that ends has emitted all, and has nothing left to replace. -/
theorem reached_of_walkFrom_ok {text : Text}
    (hreached : Reached dialect (Gives replacement) value emitted unread)
    (h : (walkFrom dialect replacement emitted unread).outcome = .ok text) :
    ∃ emitted unread, Reached dialect (Gives replacement) value emitted unread ∧
      dialect.firstPlaceholder? unread = none ∧ text = emitted ++ unread := by
  induction unread using dialect.placeholder_induction generalizing emitted with
  | rest unread hp =>
    rw [walkFrom_of_none hp] at h
    cases h
    exact ⟨emitted, unread, hreached, hp, rfl⟩
  | placeholder unread p hp ih =>
    rw [walkFrom_of_some hp, Transcript.outcome_bind_eq_ok_iff] at h
    obtain ⟨insertion, hgives, h⟩ := h
    exact ih (hreached.step hp hgives) h

/-- A pass that fails has got to a placeholder that fails. -/
theorem reached_of_walkFrom_error
    (hreached : Reached dialect (Gives replacement) value emitted unread)
    (h : (walkFrom dialect replacement emitted unread).outcome = .error failure) :
    ∃ emitted unread p, Reached dialect (Gives replacement) value emitted unread ∧
      dialect.firstPlaceholder? unread = some p ∧
      (replacement p.body (emitted ++ p.before).length).outcome = .error failure := by
  induction unread using dialect.placeholder_induction generalizing emitted with
  | rest unread hp =>
    rw [walkFrom_of_none hp] at h
    cases h
  | placeholder unread p hp ih =>
    rw [walkFrom_of_some hp, Transcript.outcome_bind_eq_error_iff] at h
    rcases h with h | ⟨insertion, hgives, h⟩
    · exact ⟨emitted, unread, p, hreached, hp, h⟩
    · exact ih (hreached.step hp hgives) h

/-- A pass that has got to a placeholder that fails, fails with it. -/
theorem outcome_walkFrom_of_reached_error {p : Placeholder}
    (hreached : Reached dialect (Gives replacement) value emitted unread)
    (hp : dialect.firstPlaceholder? unread = some p)
    (h : (replacement p.body (emitted ++ p.before).length).outcome = .error failure) :
    (walkFrom dialect replacement [] value).outcome = .error failure := by
  rw [outcome_walkFrom_of_reached hreached, walkFrom_of_some hp, Transcript.bind_of_error h]

end Reached

end Expansion

end Interpolation
