import Interpolation.Proofs.CycleCheck
import Interpolation.Proofs.Interchange
import Interpolation.Proofs.KeptExpanders

/-!
# Reading a property and resolving a reference to it

A property is read by expanding its value, and a reference to it is resolved by expanding the value
one level further down, with the name marked as being expanded (`outcome_guarded_written`).  Both
differences can only make the second one fail.  With one level less an expansion may be too deep.
The mark matters only where the value meets the name again; but the name leads to the value, so the
value would then lie on a cycle of calls, and reading it would not have ended
(`outcome_guarded_singleton`).
-/

set_option autoImplicit false

namespace Interpolation

/-! ## Values and references -/

namespace Expansion

variable {dialect : Dialect} {answer : Text → Reply} {limit : Value} {room : Nat}
variable {key raw result : Text}

/-- The value of a key stands under the key. -/
theorem under_singleton (hkey : dialect.firstPlaceholder? key = none)
    (hraw : answer key = .text raw) : Under dialect answer [key] raw := by
  have hname : Comes dialect answer key key := by
    refine ⟨.null, 1, ?_⟩
    rw [unguarded_of_none hkey]
    rfl
  intro body hmem
  rw [List.mem_singleton.mp hmem]
  exact ⟨raw, .value hname (outcome_lookUp_of_text hraw), .refl⟩

/-- A value whose expansion ends comes to the same with its name marked and with one level less, or
it is too deep there. -/
theorem outcome_guarded_singleton (hkey : dialect.firstPlaceholder? key = none)
    (hraw : answer key = .text raw)
    (hok : (guarded dialect answer limit (room + 2) [] raw).outcome = .ok result) :
    (guarded dialect answer limit (room + 1) [key] raw).outcome = .ok result ∨
      ∃ value, (guarded dialect answer limit (room + 1) [key] raw).outcome =
        .error (.tooDeep limit (.text value)) := by
  have hcomes : Comes dialect answer raw result := comes_of_guarded hok
  -- the mark cannot be met: the value would be on a cycle of calls
  rw [guarded_eq_of_comes (under_singleton hkey hraw) hcomes]
  rcases hcomes.outcome_or_tooDeep limit (room + 1) with hok | ⟨failure, hdeep, hfail⟩
  · exact .inl hok
  · obtain ⟨value, rfl⟩ := eq_of_unguarded_tooDeep hdeep hfail
    exact .inr ⟨value, hfail⟩

/-- What a value comes to with its name marked and one level less, it comes to. -/
theorem outcome_guarded_of_singleton
    (hok : (guarded dialect answer limit (room + 1) [key] raw).outcome = .ok result) :
    (guarded dialect answer limit (room + 2) [] raw).outcome = .ok result := by
  have hunmarked : (unguarded dialect answer limit (room + 1) raw).outcome = .ok result :=
    (agreesUpTo_of_guarded dialect answer limit (room + 1) [key] raw).ok_of_ok hok
  have hmore := agreesUpTo_unguarded_of_room_le dialect answer limit limit
    (Nat.le_succ (room + 1)) raw
  exact outcome_of_unguarded_ok under_nil (hmore.ok_of_ok hunmarked)

end Expansion

namespace Expander

variable {answer : Text → Reply}

/-- Where a reference to a key comes to a text, so does the value of the key; and where the value
comes to a text, so does the reference, or it nests too deep. -/
theorem outcome_transcript_written (e : Expander) {key raw : Text}
    (hkey : ¬ e.dialect.opening <:+: key)
    (hcloser : e.dialect.closerAt? (e.dialect.written key) 0 =
      some (e.dialect.opening.length + key.length))
    (hraw : answer key = .text raw) :
    (∀ result, (e.transcript answer (e.dialect.written key)).outcome = .ok result →
      (e.transcript answer raw).outcome = .ok result) ∧
    ∀ result, (e.transcript answer raw).outcome = .ok result →
      (e.transcript answer (e.dialect.written key)).outcome = .ok result ∨
        ∃ value, (e.transcript answer (e.dialect.written key)).outcome =
          .error (.tooDeep e.given (.text value)) := by
  obtain ⟨room, hlimit⟩ := Nat.exists_eq_add_of_lt e.limit_pos
  have hlevels : e.limit + 1 = room + 2 := by omega
  have hplain := Dialect.firstPlaceholder?_of_not_isInfix hkey
  have hwritten := Dialect.firstPlaceholder?_written hcloser
  rw [transcript, transcript, hlevels, Expansion.outcome_guarded_written hplain hwritten hraw]
  constructor
  · intro result hok
    exact Expansion.outcome_guarded_of_singleton hok
  · intro result hok
    exact Expansion.outcome_guarded_singleton hplain hraw hok

/-- With a resolver that always says the same to a name, whatever else it does, resolving a text
comes to what its transcript does. -/
theorem outcome_replace {σ : Type} {resolver : Resolver σ}
    (hpure : ∀ name state, (resolver (.text name) state).1 = answer name) (e : Expander)
    (text : Text) (ledger : Ledger σ) :
    ((e.replace (.text text) (.usable resolver)).run ledger).1 =
      (e.transcript answer text).outcome := by
  have hstep : Resolver.InStep (fun _ _ => True) resolver (Resolver.recording answer) :=
    fun name state _ _ => ⟨hpure name state, trivial⟩
  have hsame := (e.replace_of_inStep hstep text ledger ⟨[], ledger.log⟩ trivial rfl).1
  rw [hsame, replace_run]

end Expander

/-! ## Readers -/

namespace Properties

variable {σ : Type} {resolver : Resolver σ} {answer : Text → Reply}

/-- Reading a property that has a text as its value resolves the value. -/
theorem run_get_of_text (expanderFor : Bool → Task σ Expander) {name default : Value} {raw : Text}
    {s : Session σ} (h : (resolver name s.source).1 = .text raw) :
    (get expanderFor resolver name default .text).run s =
      (resolveWith expanderFor resolver s.reader.lenientNested.isTruthy (.text raw) >>=
        fun text => pure (Value.text text)).run
          { s with source := (resolver name s.source).2 } := by
  have hvalue : (rawValue resolver name).run s =
      (.ok (.text raw), { s with source := (resolver name s.source).2 }) := by
    rw [rawValue, run_bind, run_modifyGet]
    rcases hreply : resolver name s.source with ⟨reply, source⟩
    rw [hreply] at h
    obtain rfl : reply = .text raw := h
    rfl
  rw [get, run_bind, hvalue]
  dsimp only
  rw [run_bind, run_get]
  rfl

/-- What comes of a text: the rejection of the dialect that a reader describes, or what the
transcript of the text comes to. -/
def Reader.outcome (r : Reader) (lenient : Bool) (answer : Text → Reply) (text : Text) :
    Except Problem Value :=
  match r.makeExpander lenient with
  | .error rejection => .error (.rejected rejection)
  | .ok expander => ((expander.transcript answer text).outcome.mapError .failure).map .text

namespace Reader

variable {r : Reader} {lenient : Bool} {text result : Text}

/-- A text comes of a text where the expander can be made and gives it. -/
theorem outcome_eq_ok_iff :
    r.outcome lenient answer text = .ok (.text result) ↔
      ∃ expander, r.makeExpander lenient = .ok expander ∧
        (expander.transcript answer text).outcome = .ok result := by
  rw [outcome]
  cases r.makeExpander lenient with
  | error rejection => simp
  | ok expander =>
    dsimp only
    constructor
    · intro h
      refine ⟨expander, rfl, ?_⟩
      cases hrun : (expander.transcript answer text).outcome with
      | error failure =>
        rw [hrun] at h
        cases h
      | ok given =>
        rw [hrun] at h
        cases h
        rfl
    · rintro ⟨_, ⟨⟩, hrun⟩
      rw [hrun]
      rfl

/-- The failure of an expander that can be made comes of the text. -/
theorem outcome_of_error {expander : Expander} {failure : Failure}
    (hmake : r.makeExpander lenient = .ok expander)
    (hfail : (expander.transcript answer text).outcome = .error failure) :
    r.outcome lenient answer text = .error (.failure failure) := by
  rw [outcome, hmake]
  show ((expander.transcript answer text).outcome.mapError _).map _ = _
  rw [hfail]
  rfl

end Reader

section Outcomes

variable (hpure : ∀ name state, (resolver (.text name) state).1 = answer name)
include hpure

/-- Resolving a text with a new expander gives what comes of it. -/
theorem outcome_resolveWith (lenient : Bool) (text : Text) (s : Session σ) :
    ((resolveWith freshExpander resolver lenient (.text text) >>=
      fun text => pure (Value.text text)).run s).1 = s.reader.outcome lenient answer text := by
  rw [resolveWith, run_bind, run_bind, run_freshExpander, Reader.outcome]
  cases s.reader.makeExpander lenient with
  | error rejection => rfl
  | ok expander =>
    have hreplace := expander.outcome_replace hpure text s.toLedger
    dsimp only
    rw [run_withLedger, hreplace]
    cases (expander.transcript answer text).outcome <;> rfl

variable {s : Session σ} (hcurrent : s.reader.Current)
include hcurrent

/-- Resolving a text all of whose placeholders must have a value gives what comes of it. -/
theorem outcome_resolveRequired (text : Text) :
    ((perform resolver (.resolveRequired (.text text))).run s).1 =
      s.reader.outcome false answer text := by
  have htracks := (tracks_perform resolver (.resolveRequired (.text text)) s hcurrent).1
  exact (congrArg Prod.fst htracks).symm.trans (outcome_resolveWith hpure false text s.fresh)

/-- Reading a property that has a text as its value gives what comes of the value. -/
theorem outcome_get {key raw : Text} (hraw : answer key = .text raw) (default : Value) :
    ((perform resolver (.get (.text key) default .text)).run s).1 =
      s.reader.outcome s.reader.lenientNested.isTruthy answer raw := by
  have htracks := (tracks_perform resolver (.get (.text key) default .text) s hcurrent).1
  have hvalue : (resolver (.text key) s.fresh.source).1 = .text raw :=
    (hpure key s.source).trans hraw
  rw [performWith, run_get_of_text freshExpander hvalue] at htracks
  exact (congrArg Prod.fst htracks).symm.trans (outcome_resolveWith hpure _ raw _)

end Outcomes

/-- Reading a property and resolving a reference to it agree.  Let a reader that can be reached not
let placeholders stay in the values of properties, let the opening delimiter not stand in a key and
the closing delimiter of the reference to it be the one at its end, and let the key have a text as
its value.  What the reference is resolved to is what the property is read as; and what the property
is read as is what the reference is resolved to, unless this nests too deep.  So where the property
can be read, the reference is never refused as circular or for want of a value. -/
theorem get_iff_resolveRequired
    (hpure : ∀ name state, (resolver (.text name) state).1 = answer name)
    {s : Session σ} (hreachable : s.reader.Reachable)
    (hstrict : s.reader.lenientNested.isTruthy = false)
    {opening closing key raw : Text} (hopening : s.reader.opening = .text opening)
    (hclosing : s.reader.closing = .text closing) (hkey : ¬ opening <:+: key)
    (hcloser : ∀ expander, s.reader.makeExpander false = .ok expander →
      expander.dialect.closerAt? (opening ++ key ++ closing) 0 =
        some (opening.length + key.length))
    (hraw : answer key = .text raw) (default : Value) :
    let resolved :=
      ((perform resolver (.resolveRequired (.text (opening ++ key ++ closing)))).run s).1
    let got := ((perform resolver (.get (.text key) default .text)).run s).1
    (∀ result, resolved = .ok (.text result) → got = .ok (.text result)) ∧
    ∀ result, got = .ok (.text result) →
      resolved = .ok (.text result) ∨
        ∃ value, resolved =
          .error (.failure (.tooDeep (.int s.reader.limit.val) (.text value))) := by
  intro resolved got
  have hresolved : resolved = _ := outcome_resolveRequired hpure hreachable.current _
  have hgot : got = _ := outcome_get hpure hreachable.current hraw default
  rw [hstrict] at hgot
  have hmade : ∀ e, s.reader.makeExpander false = .ok e →
      (∀ result, (e.transcript answer (opening ++ key ++ closing)).outcome = .ok result →
        (e.transcript answer raw).outcome = .ok result) ∧
      ∀ result, (e.transcript answer raw).outcome = .ok result →
        (e.transcript answer (opening ++ key ++ closing)).outcome = .ok result ∨
          ∃ value, (e.transcript answer (opening ++ key ++ closing)).outcome =
            .error (.tooDeep (.int s.reader.limit.val) (.text value)) := by
    intro e hmake
    have hcloser := hcloser e hmake
    have hmade := (Reader.makeExpander_eq_ok_iff hreachable.current.separator_ne).mp hmake
    have heopening : opening = e.dialect.opening :=
      Except.ok.inj ((congrArg Field.text hopening).symm.trans hmade.opening)
    have heclosing : closing = e.dialect.closing :=
      Except.ok.inj ((congrArg Field.text hclosing).symm.trans hmade.closing)
    rw [heopening] at hkey hcloser ⊢
    rw [heclosing] at hcloser ⊢
    rw [← hmade.given]
    exact e.outcome_transcript_written hkey hcloser hraw
  rw [hresolved, hgot]
  constructor
  · intro result hok
    obtain ⟨e, hmake, hok⟩ := Reader.outcome_eq_ok_iff.mp hok
    exact Reader.outcome_eq_ok_iff.mpr ⟨e, hmake, (hmade e hmake).1 result hok⟩
  · intro result hok
    obtain ⟨e, hmake, hok⟩ := Reader.outcome_eq_ok_iff.mp hok
    rcases (hmade e hmake).2 result hok with hok | ⟨value, hdeep⟩
    · exact .inl (Reader.outcome_eq_ok_iff.mpr ⟨e, hmake, hok⟩)
    · exact .inr ⟨value, Reader.outcome_of_error hmake hdeep⟩

/-- A property whose value is a reference to another one is read as the value of that one, and so
is what a reference to it is resolved to, unless this nests too deep. -/
theorem get_iff_resolveRequired_two :
    let settings : Settings :=
      { quiet := true, level := [], opening := "$\x7b".text, closing := "\x7d".text,
        separator := none, lenient := false, limit := 2, opening_ne_nil := by decide,
        closing_ne_nil := by decide, opening_isUnicode := rfl, closing_isUnicode := rfl,
        limit_pos := by decide, limit_le := by decide }
    let answer : Text → Reply := fun name =>
      if name = "a".text then .text "$\x7bb\x7d".text else .text "x".text
    let resolver := Resolver.recording answer
    let s : Session (List Text) := ⟨⟨[], []⟩, .ofSettings settings⟩
    let reference := "$\x7ba\x7d".text
    let resolved := ((perform resolver (.resolveRequired (.text reference))).run s).1
    let got := ((perform resolver (.get (.text "a".text) .null .text)).run s).1
    got = .ok (.text "x".text) ∧
      (resolved = .ok (.text "x".text) ∨
        ∃ value, resolved = .error (.failure (.tooDeep (.int 2) (.text value)))) := by
  intro settings answer resolver s reference resolved got
  let e : Expander := ⟨settings.dialect, 2, by decide, by decide, .int 2⟩
  have hmake : s.reader.makeExpander false = .ok e := rfl
  have hcloser : ∀ expander, s.reader.makeExpander false = .ok expander →
      expander.dialect.closerAt? reference 0 = some 3 := by
    rintro expander ⟨⟩
    with_unfolding_all rfl
  have hpure : ∀ name state, (resolver (.text name) state).1 = answer name := fun _ _ => rfl
  have hkey : ¬ settings.opening <:+: "a".text := by decide
  have hreachable : s.reader.Reachable := .start settings
  have hgot : got = .ok (.text "x".text) := by
    have hb : e.dialect.firstPlaceholder? "b".text = none := by rfl
    have hx : e.dialect.firstPlaceholder? "x".text = none := by rfl
    have hwritten : e.dialect.firstPlaceholder? (e.dialect.written "b".text) =
        some ⟨[], "b".text, []⟩ := by
      with_unfolding_all rfl
    have hvalue : (e.transcript answer (e.dialect.written "b".text)).outcome = .ok "x".text := by
      have hraw : answer "b".text = .text "x".text := rfl
      show (Expansion.guarded e.dialect answer e.given (1 + 2) []
        (e.dialect.written "b".text)).outcome =
        .ok "x".text
      rw [Expansion.outcome_guarded_written hb hwritten hraw, Expansion.guarded,
        Expansion.singlePass_of_none hx]
      rfl
    have hread : got = _ := outcome_get hpure hreachable.current rfl .null
    exact hread.trans (Reader.outcome_eq_ok_iff.mpr ⟨e, hmake, hvalue⟩)
  have hagree := get_iff_resolveRequired hpure hreachable rfl rfl rfl hkey hcloser rfl .null
  exact ⟨hgot, hagree.2 "x".text hgot⟩

end Properties

end Interpolation
