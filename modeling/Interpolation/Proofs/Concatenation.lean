import Interpolation.Proofs.Agreement
import Interpolation.Proofs.Appending
import Interpolation.Proofs.Splicing

/-!
# Two texts one behind the other

A pass over two texts, one behind the other, is a pass over the first one and then a pass over the
second one, if the first one is complete: no opening delimiter is left where the pass over it ends,
and none begins at its end.

A placeholder is filled in alike wherever it stands: the text that it is met in and its index in
there only go into the failure of a placeholder without a value, so where it is filled in, it is
filled in the same way everywhere (`fillsAlike_fillInGuarded`).  The first pass therefore goes on
over the second text as from the start (`walkFrom_append`), and what has been emitted for the first
one stays in front of what the second one comes to (`walkFrom_append_emitted`).
-/

set_option autoImplicit false

namespace Interpolation

namespace Expansion

variable {dialect : Dialect}

/-- Where no opening delimiter starts in the front part of what is unread, it is emitted. -/
theorem walkFrom_of_not_isPrefix {m : Type → Type} [Monad m]
    {replacement : Text → Nat → m (Option Text)} {front unread : Text} (emitted : Text)
    (h : ∀ j < front.length, ¬ dialect.opening <+: (front ++ unread).drop j) :
    walkFrom dialect replacement emitted (front ++ unread) =
      walkFrom dialect replacement (emitted ++ front) unread := by
  have hfirst := Dialect.firstPlaceholder?_append_of_not_isPrefix h
  cases hp : dialect.firstPlaceholder? unread with
  | none =>
    rw [hp, Option.map_none] at hfirst
    rw [walkFrom_of_none hfirst, walkFrom_of_none hp, List.append_assoc]
  | some p =>
    rw [hp, Option.map_some] at hfirst
    rw [walkFrom_of_some hfirst, walkFrom_of_some hp]
    simp only [List.append_assoc]

/-! ## Placeholders that are filled in alike -/

/-- Where the first replacement gives something for a body, at any index, the second one does the
same for it, at every index. -/
def FillsAlike (replacement replacement' : Text → Nat → Transcript (Option Text)) : Prop :=
  ∀ body start start' insertion, (replacement body start).outcome = .ok insertion →
    replacement' body start' = replacement body start

/-- A placeholder that is filled in in one text is filled in alike in every text. -/
theorem fillsAlike_fillInGuarded (answer : Text → Reply) (limit : Value) (room : Nat)
    (active : List Text) (value value' : Text) :
    FillsAlike (fillInGuarded dialect answer limit room active value)
      (fillInGuarded dialect answer limit room active value') := by
  intro body start start' insertion hok
  have hagree : Transcript.AgreesUpTo Failure.IsUnresolvable
      (fillInGuarded dialect answer limit room active value body start)
      (fillInGuarded dialect answer limit room active value' body start') := by
    by_cases hmem : body ∈ active
    · rw [fillInGuarded, fillInGuarded, if_pos hmem, if_pos hmem]
      exact (agreement _).rel_throw _
    · rw [fillInGuarded, fillInGuarded, if_neg hmem, if_neg hmem]
      refine (agreement _).rel_fillIn_of_lookUp (fun _ => .inr rfl) (fun _ => .inr rfl)
        (fun _ => .inr rfl) fun name => ?_
      split
      · exact (agreement _).rel_pure _
      · exact Transcript.agreesUpTo_throw trivial _
  refine (hagree.eq fun failure hfail => ?_).symm
  rw [hok] at hfail
  cases hfail

section FillsAlike

variable {replacement replacement' : Text → Nat → Transcript (Option Text)}
variable (alike : FillsAlike replacement replacement') {emitted unread result : Text}
include alike

/-- A pass that comes to an end goes on over what stands behind a complete text. -/
theorem walkFrom_append (separate : dialect.Separate) (complete : dialect.Complete unread)
    (h : (walkFrom dialect replacement emitted unread).outcome = .ok result) (tail : Text) :
    walkFrom dialect replacement' emitted (unread ++ tail) =
      walkFrom dialect replacement emitted unread >>= fun result =>
        walkFrom dialect replacement' result tail := by
  induction unread using dialect.placeholder_induction generalizing emitted with
  | rest unread hp =>
    rw [walkFrom_of_none hp, pure_bind]
    exact walkFrom_of_not_isPrefix emitted fun j => complete.not_isPrefix_drop hp tail
  | placeholder unread p hp ih =>
    rw [walkFrom_of_some hp] at h
    obtain ⟨insertion, hgives, h⟩ := Transcript.outcome_bind_eq_ok_iff.mp h
    have hbehind := ih (complete.after hp) h
    rw [walkFrom_of_some hp, walkFrom_of_some (separate.firstPlaceholder?_append hp tail),
      alike _ _ _ _ hgives, bind_assoc, Transcript.bind_of_ok hgives, Transcript.bind_of_ok hgives,
      hbehind]

/-- What has been emitted before a pass stays in front of what the pass comes to. -/
theorem walkFrom_append_emitted (front : Text)
    (h : (walkFrom dialect replacement emitted unread).outcome = .ok result) :
    walkFrom dialect replacement' (front ++ emitted) unread =
      walkFrom dialect replacement emitted unread >>= fun result => pure (front ++ result) := by
  induction unread using dialect.placeholder_induction generalizing emitted with
  | rest unread hp =>
    rw [walkFrom_of_none hp, walkFrom_of_none hp, pure_bind, List.append_assoc]
  | placeholder unread p hp ih =>
    rw [walkFrom_of_some hp] at h
    obtain ⟨insertion, hgives, h⟩ := Transcript.outcome_bind_eq_ok_iff.mp h
    have hbehind := ih h
    rw [walkFrom_of_some hp, walkFrom_of_some hp, alike _ _ _ _ hgives, bind_assoc,
      Transcript.bind_of_ok hgives, Transcript.bind_of_ok hgives, ← hbehind]
    simp only [List.append_assoc]

end FillsAlike

/-- The expansion of two texts one behind the other is that of the first one and then that of the
second one, if both succeed and the first text is complete. -/
theorem guarded_append {answer : Text → Reply} {limit : Value} {room : Nat} {active : List Text}
    {front rest result result' : Text} (separate : dialect.Separate)
    (complete : dialect.Complete front)
    (hfront : (guarded dialect answer limit room active front).outcome = .ok result)
    (hrest : (guarded dialect answer limit room active rest).outcome = .ok result') :
    guarded dialect answer limit room active (front ++ rest) =
      guarded dialect answer limit room active front >>= fun result =>
        guarded dialect answer limit room active rest >>= fun result' =>
          pure (result ++ result') := by
  cases room with
  | zero => cases hfront
  | succ room =>
    have alike (value : Text) : FillsAlike (fillInGuarded dialect answer limit room active value)
        (fillInGuarded dialect answer limit room active (front ++ rest)) :=
      fillsAlike_fillInGuarded answer limit room active value (front ++ rest)
    rw [guarded_succ] at hfront hrest
    have hbehind := walkFrom_append_emitted (alike rest) result hrest
    rw [List.append_nil] at hbehind
    rw [guarded_succ, guarded_succ, guarded_succ,
      walkFrom_append (alike front) separate complete hfront rest,
      Transcript.bind_of_ok hfront, Transcript.bind_of_ok hfront, hbehind]

end Expansion

namespace Expander

open Expansion

/-- Resolving distributes over putting one text behind another.  Where no closing delimiter stands
inside the short opening behind its start, and the first text neither leaves a placeholder open nor
ends with the beginning of an opening delimiter, the two texts together come to what they come to
one by one, with the questions and the log of the first one followed by those of the second one. -/
theorem replace_append (e : Expander) (separate : e.dialect.Separate) (answer : Text → Reply)
    {front rest result result' : Text} (complete : e.dialect.Complete front) :
    let run (text : Text) :=
      (e.replace (.text text) (.usable (Resolver.recording answer))).run ⟨[], []⟩
    (run front).1 = .ok result → (run rest).1 = .ok result' →
    (run (front ++ rest)).1 = .ok (result ++ result') ∧
    (run (front ++ rest)).2.source = (run front).2.source ++ (run rest).2.source ∧
    (run (front ++ rest)).2.log = (run front).2.log ++ (run rest).2.log := by
  dsimp only
  simp only [replace_run, List.nil_append]
  intro hfront hrest
  have hboth : e.transcript answer (front ++ rest) = e.transcript answer front >>= fun result =>
      e.transcript answer rest >>= fun result' => pure (result ++ result') :=
    guarded_append separate complete hfront hrest
  rw [hboth, Transcript.bind_of_ok hfront, Transcript.bind_of_ok hrest]
  refine ⟨rfl, ?_, ?_⟩
  · exact congrArg ((e.transcript answer front).asked ++ ·) (List.append_nil _)
  · exact congrArg ((e.transcript answer front).log ++ ·) (List.append_nil _)

/-- A placeholder twice, one behind the other: `${a}${a}`. -/
theorem replace_append_written_twice :
    let e : Expander := ⟨.shell, 1, by decide, by decide, .int 1⟩
    let answer (_ : Text) : Reply := .text "b".text
    let text := e.dialect.written "a".text
    let run (text : Text) :=
      (e.replace (.text text) (.usable (Resolver.recording answer))).run ⟨[], []⟩
    e.dialect.Separate ∧ e.dialect.Complete text ∧ (run text).1 = .ok "b".text ∧
    (run (text ++ text)).1 = .ok "bb".text ∧
    (run (text ++ text)).2.source = (run text).2.source ++ (run text).2.source ∧
    (run (text ++ text)).2.log = (run text).2.log ++ (run text).2.log := by
  intro e answer text run
  have htext : e.dialect.firstPlaceholder? text = some ⟨[], "a".text, []⟩ :=
    by with_unfolding_all rfl
  have hname : e.dialect.firstPlaceholder? "a".text = none := by rfl
  have hvalue : e.dialect.firstPlaceholder? "b".text = none := by rfl
  have hcomplete : e.dialect.Complete text := by
    constructor
    · rw [Dialect.remainder_of_some htext, Dialect.remainder_of_none Dialect.firstPlaceholder?_nil]
      decide
    · have hends : ∀ part ∈ text.tails, part <+: e.dialect.opening →
          part = [] ∨ part = e.dialect.opening := by decide
      intro part hpart
      exact hends part ((List.mem_tails _ _).mpr hpart)
  have hrun : (run text).1 = .ok "b".text := by
    dsimp only [run]
    rw [replace_run]
    have hanswer : answer "a".text = .text "b".text := rfl
    show (guarded e.dialect answer e.given (0 + 2) [] (e.dialect.written "a".text)).outcome =
      .ok "b".text
    rw [outcome_guarded_written hname htext hanswer, outcome_guarded_of_none hvalue]
  exact ⟨Dialect.separate_shell, hcomplete, hrun,
    replace_append e Dialect.separate_shell answer hcomplete hrun hrun⟩

end Expander

end Interpolation
