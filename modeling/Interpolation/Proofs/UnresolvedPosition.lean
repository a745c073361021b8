import Interpolation.Proofs.CycleCheck
import Interpolation.Proofs.Nesting

/-!
# Where a placeholder without a value is reported

The failure of a placeholder without a value names it, quotes the text that it is met in, and gives
a position.  The text is quoted as it was before anything in it was replaced, and the placeholder
stands in it; but the position is counted in what the pass has made of the text by then.

So the position is past the index of the placeholder in the quoted text, or short of it, by as much
as what stands before the placeholder has grown or shrunk.  `replace_unresolvable` says of every
such failure where its placeholder stands, what its name comes from, and when the position is its
index; `replace_unresolvable_behind` gives runs in which it is not.
-/

set_option autoImplicit false

namespace Interpolation

namespace Expansion

variable {dialect : Dialect} {answer : Text → Reply} {limit : Value} {room : Nat}
variable {active : List Text} {value body : Text}

/-- What the value of a placeholder with a body comes to takes its place. -/
def Yields (dialect : Dialect) (answer : Text → Reply) (body : Text) (_start : Nat)
    (insertion : Option Text) : Prop :=
  ∃ name found result, insertion = some result ∧ Comes dialect answer body name ∧
    (lookUp dialect (Transcript.ask answer) name).outcome = .ok (some found) ∧
    Comes dialect answer found result

/-- Where no placeholder may stay, the place of each one is taken by what its value comes to. -/
theorem yields_of_gives (strict : dialect.lenient = false) {start : Nat} {insertion : Option Text}
    (h : Gives (fillInGuarded dialect answer limit room active value) body start insertion) :
    Yields dialect answer body start insertion := by
  unfold Gives fillInGuarded at h
  split at h
  · cases h
  · obtain ⟨name, hname, ⟨found, result, rfl, hfound, hresult⟩ | ⟨-, lenient, -⟩⟩ :=
      cases_of_fillIn_ok h
    · exact ⟨name, found, result, rfl, comes_of_guarded hname, hfound, comes_of_guarded hresult⟩
    · rw [strict] at lenient
      cases lenient

/-- The closing delimiter of a placeholder that is read behind a front part. -/
theorem closer?_of_firstPlaceholder? {source unread : Text} {p : Placeholder}
    (hp : dialect.firstPlaceholder? unread = some p) :
    dialect.closer? (source ++ unread) (source ++ p.before).length =
      some (((source ++ p.before).length + dialect.opening.length + p.body.length : Nat) : Int) := by
  rw [Dialect.closer?_natCast, List.length_append, Dialect.closerAt?_append,
    Dialect.closerAt?_of_firstPlaceholder? hp, Option.map_some, Option.map_some]
  simp only [Nat.add_assoc]
  rfl

end Expansion

namespace Expander

open Expansion

/-- Behind a placeholder with a value, a placeholder without one is reported at the length of that
value, however long the first placeholder is. -/
theorem replace_unresolvable_behind (e : Expander) (strict : e.dialect.lenient = false)
    {answer : Text → Reply} {first second found : Text} (hfirst : e.dialect.Plain first)
    (hsecond : e.dialect.Plain second) (hfound : e.dialect.Plain found)
    (hvalue : answer first = .text found)
    (hnone : (lookUp e.dialect (Transcript.ask answer) second).outcome = .ok none) (rest : Text)
    (ledger : Ledger (List Text)) :
    let text := e.dialect.written first ++ (e.dialect.written second ++ rest)
    ((e.replace (.text text) (.usable (Resolver.recording answer))).run ledger).1 =
      .error (.unresolvable (.text second) (.text text) (.int found.length)) := by
  intro text
  obtain ⟨room, hroom⟩ := Nat.exists_eq_succ_of_ne_zero (Nat.pos_iff_ne_zero.mp e.limit_pos)
  have hfirstRead : e.dialect.firstPlaceholder? text =
      some ⟨[], first, e.dialect.written second ++ rest⟩ := hfirst.firstPlaceholder?_written_append _
  have hsecondRead := hsecond.firstPlaceholder?_written_append rest
  have hfill : Gives (fillInGuarded e.dialect answer e.given (room + 1) [] text) first 0
      (some found) := by
    rw [Gives, outcome_fillInGuarded_of_text List.not_mem_nil hfirst.firstPlaceholder?_eq_none
      hvalue, outcome_guarded_of_none hfound.firstPlaceholder?_eq_none]
    rfl
  have hcalled : (guarded e.dialect answer e.given (room + 1) [second] second).outcome =
      .ok second := outcome_guarded_of_none hsecond.firstPlaceholder?_eq_none
  have hfail : (fillInGuarded e.dialect answer e.given (room + 1) [] text second
      found.length).outcome =
      .error (.unresolvable (.text second) (.text text) (.int found.length)) := by
    rw [fillInGuarded, if_neg List.not_mem_nil, outcome_fillIn_of_none strict hcalled hnone]
  have hreached := Reached.step .start hfirstRead hfill
  rw [replace_run]
  show (e.transcript answer text).outcome = _
  rw [transcript, hroom, guarded_succ]
  refine outcome_walkFrom_of_reached_error hreached hsecondRead ?_
  show (fillInGuarded e.dialect answer e.given (room + 1) [] text second
    (found ++ []).length).outcome = _
  rw [List.append_nil, hfail]

/-- Of the failure of a placeholder without a value: the placeholder stands in the text that is
quoted, with the closing delimiter that belongs to it; its body comes to the name, and the name has
no value.  The position is the length of what stands before it with the placeholders in that
replaced, and so it is the index of the placeholder exactly if this is as long as it was before. -/
theorem replace_unresolvable (e : Expander) (answer : Text → Reply) (text : Text)
    (ledger : Ledger (List Text)) {name quoted position : Value}
    (h : ((e.replace (.text text) (.usable (Resolver.recording answer))).run ledger).1 =
      .error (.unresolvable name quoted position)) :
    ∃ (called value source result : Text) (p : Placeholder),
      name = .text called ∧ quoted = .text value ∧ position = .int (result ++ p.before).length ∧
      value = source ++ (p.before ++ e.dialect.written p.body ++ p.after) ∧
      e.dialect.closer? value (source ++ p.before).length =
        some (((source ++ p.before).length + e.dialect.opening.length + p.body.length : Nat) :
          Int) ∧
      Comes e.dialect answer p.body called ∧
      (lookUp e.dialect (Transcript.ask answer) called).outcome = .ok none ∧
      Reached e.dialect (Yields e.dialect answer) value result
        (p.before ++ e.dialect.written p.body ++ p.after) ∧
      (position = .int (source ++ p.before).length ↔ result.length = source.length) := by
  rw [replace_run] at h
  obtain ⟨room, active, value, result, unread, p, called, rfl, rfl, rfl, hreached, hp, hcalled,
    hnone, strict⟩ := unresolved_of_guarded h
  obtain ⟨source, rfl⟩ := hreached.isSuffix
  have hunread := (Dialect.firstPlaceholder?_eq_some_iff.mp hp).1
  have hyields := hreached.mono fun _ _ _ hgives => yields_of_gives strict hgives
  refine ⟨called, _, source, result, p, rfl, rfl, rfl, ?_, closer?_of_firstPlaceholder? hp,
    comes_of_guarded hcalled, hnone, ?_, ?_⟩
  · rw [← hunread]
  · rw [← hunread]
    exact hyields
  · simp only [List.length_append, Value.int.injEq]
    omega

/-- The failure for `b` in `${a}${b}`, where `a` has a value of one character and `b` has none. -/
theorem replace_unresolvable_second :
    let e : Expander := ⟨{ Dialect.shell with lenient := false }, 1, by decide, by decide, .int 1⟩
    let answer (name : Text) : Reply := if name = "a".text then .text "1".text else .absent
    let text : Text := "$\x7ba\x7d$\x7bb\x7d".text
    ((e.replace (.text text) (.usable (Resolver.recording answer))).run ⟨[], []⟩).1 =
      .error (.unresolvable (.text "b".text) (.text text) (.int 1)) ∧
    ∃ (source result : Text) (p : Placeholder),
      (1 : Int) = (result ++ p.before).length ∧
      text = source ++ (p.before ++ e.dialect.written p.body ++ p.after) ∧
      Comes e.dialect answer p.body "b".text ∧
      Reached e.dialect (Yields e.dialect answer) text result
        (p.before ++ e.dialect.written p.body ++ p.after) := by
  intro e answer text
  have hplain : e.dialect.Plain "a".text ∧ e.dialect.Plain "b".text ∧ e.dialect.Plain "1".text := by
    decide
  have hrun : ((e.replace (.text text) (.usable (Resolver.recording answer))).run ⟨[], []⟩).1 =
      .error (.unresolvable (.text "b".text) (.text text) (.int 1)) :=
    replace_unresolvable_behind e rfl hplain.1 hplain.2.1 hplain.2.2 rfl rfl [] ⟨[], []⟩
  obtain ⟨called, value, source, result, p, hname, hquoted, hposition, htext, -, hcomes, -,
    hreached, -⟩ := replace_unresolvable e answer text ⟨[], []⟩ hrun
  cases hname
  cases hquoted
  exact ⟨hrun, source, result, p, Value.int.inj hposition, htext, hcomes, hreached⟩

/-- The position in that failure is an index of the text at which no opening delimiter stands. -/
theorem replace_unresolvable_misplaced :
    let e : Expander := ⟨{ Dialect.shell with lenient := false }, 1, by decide, by decide, .int 1⟩
    let answer (name : Text) : Reply := if name = "a".text then .text "1".text else .absent
    let text : Text := "$\x7ba\x7d$\x7bb\x7d".text
    ((e.replace (.text text) (.usable (Resolver.recording answer))).run ⟨[], []⟩).1 =
      .error (.unresolvable (.text "b".text) (.text text) (.int 1)) ∧
    ¬ e.dialect.opening <+: text.drop 1 := by
  intro e answer text
  have hplain : e.dialect.Plain "a".text ∧ e.dialect.Plain "b".text ∧ e.dialect.Plain "1".text := by
    decide
  exact ⟨replace_unresolvable_behind e rfl hplain.1 hplain.2.1 hplain.2.2 rfl rfl [] ⟨[], []⟩,
    by decide⟩

end Expander

end Interpolation
