import Interpolation.Proofs.DialectFields
import Interpolation.Proofs.Transcript
import Interpolation.Properties

/-!
# Kept expanders are current

A reader keeps the expanders that it has made, and drops them when the dialect changes.
`Tracks x y` compares two computations on properties: from every session whose kept expanders are
those that its reader describes (`Reader.Current`), `x` leaves such a session again, and `y`, from
the same session without kept expanders, does the same as `x`.  Sequencing keeps this, so an
operation that keeps expanders tracks the operation that makes them anew at every use
(`tracks_perform`).

A reader starts with no kept expanders, so in every state that operations lead to, the kept ones are
current (`Reader.Reachable.current`), and what they are used for does not depend on them:
`steps_freshExpander` says so of any operations one after the other, whatever they set and whether
they fail.
-/

set_option autoImplicit false

namespace Interpolation

namespace Properties

variable {σ α β : Type}

/-! ## Readers and what they describe -/

/-- The expanders that a reader has kept are those that it describes; and its separator counts, or
there is none. -/
structure Reader.Current (r : Reader) : Prop where
  separator_ne : r.separator ≠ .text []
  made : ∀ lenient expander, r.keptExpander lenient = some expander →
    r.makeExpander lenient = .ok expander

/-- A reader that keeps no expanders has no old ones. -/
theorem Reader.current_dropExpanders {r : Reader} (hseparator : r.separator ≠ .text []) :
    r.dropExpanders.Current where
  separator_ne := hseparator
  made := by
    intro lenient expander hkept
    cases lenient <;> cases hkept

/-- The reader that settings start with keeps no expanders. -/
theorem Reader.current_ofSettings (settings : Settings) : (Reader.ofSettings settings).Current := by
  refine Reader.current_dropExpanders (r := .ofSettings settings) ?_
  show (settings.dialect.separator.map Value.text).getD .null ≠ .text []
  have hne := settings.dialect.separator_ne_nil
  cases hseparator : settings.dialect.separator with
  | none => exact nofun
  | some separator =>
    rintro ⟨⟩
    exact hne hseparator

/-- The expander that a reader makes has the dialect that is read from its fields, and its limit. -/
theorem Reader.makeExpander_iff_ofFields {r : Reader} {lenient : Bool} {expander : Expander} :
    r.makeExpander lenient = .ok expander ↔
      Dialect.ofFields (r.fields lenient) = .ok expander.dialect ∧
        expander.limit = r.limit.val ∧ expander.given = .int r.limit.val := by
  rw [Reader.makeExpander]
  obtain ⟨dialect, limit, limit_pos, limit_le, given⟩ := expander
  cases Dialect.ofFields (r.fields lenient) with
  | error rejection => exact iff_of_false nofun fun h => nomatch h.1
  | ok read =>
    dsimp only
    constructor
    · intro h
      cases h
      exact ⟨rfl, rfl, rfl⟩
    · rintro ⟨⟨⟩, rfl, rfl⟩
      rfl

/-- An expander has the delimiters, the separator and the limit of a reader, and is lenient or not as
it is asked for.  Delimiters and separators are those that the parts of the reader are read as: a text
is read as it stands, and a value of another kind may be read as a text too, as bytes are.  The
separator of the reader is not the empty text, so one that is a text is the separator of the
expander. -/
structure Reader.Describes (r : Reader) (lenient : Bool) (expander : Expander) : Prop where
  opening : Field.text r.opening = .ok expander.dialect.opening
  closing : Field.text r.closing = .ok expander.dialect.closing
  separator_ne : r.separator ≠ .text []
  separator : ∃ separator, Field.optionalText r.separator = .ok separator ∧
    (Dialect.separatorOf separator).val = expander.dialect.separator
  lenient_eq : expander.dialect.lenient = lenient
  limit : expander.limit = r.limit.val
  given : expander.given = .int r.limit.val

/-- A reader makes the expanders that it describes. -/
theorem Reader.makeExpander_eq_ok_iff {r : Reader} (hne : r.separator ≠ .text []) {lenient : Bool}
    {expander : Expander} :
    r.makeExpander lenient = .ok expander ↔ r.Describes lenient expander := by
  rw [Reader.makeExpander_iff_ofFields, Dialect.ofFields_eq_ok_iff, Field.required_eq_ok_iff rfl,
    Field.required_eq_ok_iff rfl, Field.countedText_eq_ok_iff, Field.countedText_eq_ok_iff]
  have hseparator : ∀ separator,
      Field.withDefault (r.fields lenient) "value_separator" none Field.optionalText =
        .ok separator ↔ Field.optionalText r.separator = .ok separator :=
    fun separator => Field.withDefault_eq_ok_iff rfl
  have hlenient : Field.withDefault (r.fields lenient) "ignore_unresolvable" true Field.bool =
      .ok expander.dialect.lenient ↔ Field.bool (.bool lenient) = .ok expander.dialect.lenient :=
    Field.withDefault_eq_ok_iff rfl
  simp only [hseparator, hlenient]
  constructor
  · rintro ⟨⟨hopening, hclosing, hcounted, hkeeps⟩, hlimit, hgiven⟩
    exact ⟨hopening, hclosing, hne, hcounted, (Except.ok.inj hkeeps).symm, hlimit, hgiven⟩
  · intro h
    exact ⟨⟨h.opening, h.closing, h.separator, congrArg Except.ok h.lenient_eq.symm⟩, h.limit,
      h.given⟩

theorem Reader.makeExpander_keep (r : Reader) (lenient lenient' : Bool) (expander : Expander) :
    (r.keep lenient expander).makeExpander lenient' = r.makeExpander lenient' := by
  cases lenient <;> rfl

/-- A reader may keep an expander that it describes. -/
theorem Reader.Current.keep {r : Reader} (h : r.Current) {lenient : Bool} {expander : Expander}
    (hmake : r.makeExpander lenient = .ok expander) : (r.keep lenient expander).Current where
  separator_ne := by
    cases lenient <;> exact h.separator_ne
  made := by
    intro lenient' expander' hkept
    rw [r.makeExpander_keep]
    cases lenient <;> cases lenient' <;> first
      | exact h.made _ _ hkept
      | cases hkept; exact hmake

/-- Setting a part drops the kept expanders, if it is one that they depend on. -/
theorem Reader.Current.set {r : Reader} (h : r.Current) (part : Part) (value : Value) :
    (r.set part value).Current := by
  cases part with
  | opening | closing => exact Reader.current_dropExpanders h.separator_ne
  | separator =>
    refine Reader.current_dropExpanders ?_
    show (if value.isTruthy then value else .null) ≠ .text []
    split
    · rename_i htruthy
      rintro rfl
      cases htruthy
    · exact nofun
  | lenientNested => exact ⟨h.separator_ne, h.made⟩

/-! ## Work on properties -/

theorem run_get (s : Session σ) : (MonadState.get : Task σ (Session σ)).run s = (.ok s, s) :=
  rfl

theorem run_modifyGet (f : Session σ → α × Session σ) (s : Session σ) :
    (modifyGet f : Task σ α).run s = (.ok (f s).1, (f s).2) :=
  rfl

theorem run_withLedger (work : Work Failure σ α) (s : Session σ) :
    (withLedger work).run s =
      ((work.run s.toLedger).1.mapError .failure, { s with toLedger := (work.run s.toLedger).2 }) :=
  rfl

/-- The session with no kept expanders. -/
def Session.fresh (s : Session σ) : Session σ :=
  { s with reader := s.reader.dropExpanders }

/-- The expander that the reader describes, made anew. -/
def freshExpander (lenient : Bool) : Task σ Expander := do
  match (← MonadState.get).reader.makeExpander lenient with
  | .error rejection => throw (.rejected rejection)
  | .ok expander => return expander

/-- With current expanders, the first computation does what the second one does without kept ones,
and leaves current ones. -/
def Tracks (x y : Task σ α) : Prop :=
  ∀ s, s.reader.Current →
    y.run s.fresh = ((x.run s).1, (x.run s).2.fresh) ∧ (x.run s).2.reader.Current

/-! ### The parts of computations -/

theorem tracks_pure (a : α) : Tracks (pure a : Task σ α) (pure a) :=
  fun _ hcurrent => ⟨rfl, hcurrent⟩

theorem tracks_throw (problem : Problem) : Tracks (throw problem : Task σ α) (throw problem) :=
  fun _ hcurrent => ⟨rfl, hcurrent⟩

/-- A sequence tracks another one if its parts do. -/
theorem Tracks.bind {x y : Task σ α} {f g : α → Task σ β} (h : Tracks x y)
    (hf : ∀ a, Tracks (f a) (g a)) : Tracks (x >>= f) (y >>= g) := by
  intro s hcurrent
  obtain ⟨hrun, hleft⟩ := h s hcurrent
  rw [run_bind, run_bind, hrun]
  rcases hx : x.run s with ⟨outcome, s'⟩
  rw [hx] at hleft
  cases outcome with
  | error problem => exact ⟨rfl, hleft⟩
  | ok a => exact hf a s' hleft

theorem tracks_withLedger (work : Work Failure σ α) : Tracks (withLedger work) (withLedger work) :=
  fun _ hcurrent => ⟨rfl, hcurrent⟩

theorem tracks_makeEntry (entry : Log.Entry) :
    Tracks (makeEntry entry : Task σ Unit) (makeEntry entry) :=
  fun _ hcurrent => ⟨rfl, hcurrent⟩

/-- A look at the session, if what follows does not depend on the kept expanders. -/
theorem tracks_get_bind {f g : Session σ → Task σ α} (h : ∀ s, Tracks (f s) (g s.fresh)) :
    Tracks (MonadState.get >>= f) (MonadState.get >>= g) :=
  fun s hcurrent => h s s hcurrent

/-! ### Expanders -/

/-- What an expander that is made anew comes to. -/
theorem run_freshExpander (lenient : Bool) (s : Session σ) :
    (freshExpander lenient).run s = match s.reader.makeExpander lenient with
      | .error rejection => (.error (.rejected rejection), s)
      | .ok expander => (.ok expander, s) := by
  rw [freshExpander, run_bind, run_get]
  dsimp only
  cases s.reader.makeExpander lenient <;> rfl

/-- An expander that has been kept is used. -/
theorem run_keptExpander_of_some {lenient : Bool} {expander : Expander} {s : Session σ}
    (h : s.reader.keptExpander lenient = some expander) :
    (keptExpander lenient).run s = (.ok expander, s) := by
  rw [keptExpander, run_bind, run_get]
  dsimp only
  rw [h]
  rfl

/-- Where no expander has been kept, one is made and kept. -/
theorem run_keptExpander_of_none {lenient : Bool} {s : Session σ}
    (h : s.reader.keptExpander lenient = none) :
    (keptExpander lenient).run s = match s.reader.makeExpander lenient with
      | .error rejection => (.error (.rejected rejection), s)
      | .ok expander => (.ok expander, { s with reader := s.reader.keep lenient expander }) := by
  rw [keptExpander, run_bind, run_get]
  dsimp only
  rw [h]
  cases s.reader.makeExpander lenient <;> rfl

/-- Using the kept expander comes to using one that is made anew. -/
theorem tracks_keptExpander (lenient : Bool) :
    Tracks (keptExpander lenient : Task σ Expander) (freshExpander lenient) := by
  intro s hcurrent
  have hdescribed : s.fresh.reader.makeExpander lenient = s.reader.makeExpander lenient := rfl
  rw [run_freshExpander, hdescribed]
  cases hkept : s.reader.keptExpander lenient with
  | some expander =>
    rw [run_keptExpander_of_some hkept, hcurrent.made lenient expander hkept]
    exact ⟨rfl, hcurrent⟩
  | none =>
    rw [run_keptExpander_of_none hkept]
    cases hmake : s.reader.makeExpander lenient with
    | error rejection => exact ⟨rfl, hcurrent⟩
    | ok expander =>
      -- the expander that is kept now is not there in the session without kept ones
      refine ⟨?_, hcurrent.keep hmake⟩
      cases lenient <;> rfl

/-! ### Operations -/

section Operations

variable (resolver : Resolver σ)

theorem tracks_rawValue (name : Value) :
    Tracks (rawValue resolver name) (rawValue resolver name) := by
  unfold rawValue
  apply Tracks.bind
  · exact fun _ hcurrent => ⟨rfl, hcurrent⟩
  · intro reply
    cases reply with
    | fault fault => exact tracks_throw _
    | _ => exact tracks_pure _

theorem tracks_contains (name : Value) :
    Tracks (contains resolver name) (contains resolver name) := by
  unfold contains
  apply (tracks_rawValue resolver name).bind
  intro raw
  split
  · exact tracks_pure _
  · exact tracks_pure _

theorem tracks_missing (names : List Value) :
    Tracks (missing resolver names) (missing resolver names) := by
  induction names with
  | nil => exact tracks_pure _
  | cons name rest ih =>
    unfold missing
    apply (tracks_contains resolver name).bind
    intro found
    apply ih.bind
    intro others
    exact tracks_pure _

theorem tracks_validate : Tracks (validate resolver) (validate resolver) := by
  unfold validate
  apply tracks_get_bind
  intro s
  apply (tracks_missing resolver s.reader.required).bind
  intro names
  cases names with
  | nil => exact tracks_pure _
  | cons name rest =>
    apply (tracks_makeEntry _).bind
    intro _
    exact tracks_throw _

/-- Resolving a text with the kept expander comes to resolving it with a new one. -/
theorem tracks_resolveWith (lenient : Bool) (text : Value) :
    Tracks (resolveWith keptExpander resolver lenient text)
      (resolveWith freshExpander resolver lenient text) := by
  unfold resolveWith
  apply (tracks_keptExpander lenient).bind
  intro expander
  exact tracks_withLedger _

theorem tracks_get (name default : Value) (target : Target) :
    Tracks (get keptExpander resolver name default target)
      (get freshExpander resolver name default target) := by
  unfold get
  apply (tracks_rawValue resolver name).bind
  intro raw
  split
  · apply (tracks_makeEntry _).bind
    intro _
    exact tracks_pure _
  · apply tracks_get_bind
    intro s
    apply (tracks_resolveWith resolver s.reader.lenientNested.isTruthy raw).bind
    intro text
    cases target.convert text with
    | ok value => exact tracks_pure _
    | error rejection => exact tracks_throw _

theorem tracks_getRequired (name : Value) (target : Target) :
    Tracks (getRequired keptExpander resolver name target)
      (getRequired freshExpander resolver name target) := by
  unfold getRequired
  apply (tracks_contains resolver name).bind
  intro found
  cases found with
  | true => exact tracks_get resolver name .null target
  | false => exact tracks_throw _

/-- An operation that keeps expanders tracks the operation that makes them anew at every use. -/
theorem tracks_perform (operation : Operation) :
    Tracks (perform resolver operation) (performWith freshExpander resolver operation) := by
  cases operation with
  | contains name => exact (tracks_contains resolver name).bind fun _ => tracks_pure _
  | get name default target => exact tracks_get resolver name default target
  | getRequired name target => exact tracks_getRequired resolver name target
  | resolve text => exact (tracks_resolveWith resolver true text).bind fun _ => tracks_pure _
  | resolveRequired text =>
    exact (tracks_resolveWith resolver false text).bind fun _ => tracks_pure _
  | require names =>
    refine Tracks.bind ?_ fun _ => tracks_pure _
    exact fun s hcurrent => ⟨rfl, hcurrent.separator_ne, hcurrent.made⟩
  | validate => exact (tracks_validate resolver).bind fun _ => tracks_pure _
  | set part value =>
    refine Tracks.bind ?_ fun _ => tracks_pure _
    intro s hcurrent
    refine ⟨?_, hcurrent.set part value⟩
    -- without kept expanders there is nothing to drop, so the part is set alike
    cases part <;> rfl

end Operations

/-! ## Reachable readers -/

/-- The readers that settings start with and operations lead to, whatever the resolvers say and
whether the operations fail. -/
inductive Reader.Reachable : Reader → Prop
  | start (settings : Settings) : Reachable (.ofSettings settings)
  | perform {σ : Type} (resolver : Resolver σ) (operation : Operation) {s : Session σ} :
    Reachable s.reader → Reachable ((perform resolver operation).run s).2.reader

/-- The kept expanders of a reader that can be reached are those that it describes. -/
theorem Reader.Reachable.current {r : Reader} (h : r.Reachable) : r.Current := by
  induction h with
  | start settings => exact Reader.current_ofSettings settings
  | @perform _ resolver operation s _ ih => exact (tracks_perform resolver operation s ih).2

/-! ## Operations one after the other -/

/-- Does operations one after the other, with expanders from a given place.  For each it gives what
the operation comes to and the session that it leaves; one that fails keeps none of those behind it
from being done. -/
def steps (expanderFor : Bool → Task σ Expander) (resolver : Resolver σ) :
    List Operation → Session σ → List (Except Problem Value × Session σ)
  | [], _ => []
  | operation :: rest, s =>
    let step := (performWith expanderFor resolver operation).run s
    step :: steps expanderFor resolver rest step.2

/-- Operations that keep expanders leave current ones at every step, and do what those do that make
them anew. -/
theorem steps_of_current (resolver : Resolver σ) (operations : List Operation) {s : Session σ}
    (hcurrent : s.reader.Current) :
    (∀ step ∈ steps keptExpander resolver operations s, step.2.reader.Current) ∧
      steps freshExpander resolver operations s.fresh =
        (steps keptExpander resolver operations s).map fun step => (step.1, step.2.fresh) := by
  induction operations generalizing s with
  | nil => exact ⟨fun step hmem => absurd hmem List.not_mem_nil, rfl⟩
  | cons operation rest ih =>
    obtain ⟨hrun, hleft⟩ := tracks_perform resolver operation s hcurrent
    obtain ⟨hcurrent', hrest⟩ := ih hleft
    constructor
    · exact List.forall_mem_cons.mpr ⟨hleft, hcurrent'⟩
    · rw [steps, hrun]
      exact congrArg _ hrest

/-- The kept expanders are never old.  Let operations be done one after the other on a reader that
settings start with: parts are set to any values, also to such as give no dialect, properties and
texts are read, and each operation may succeed or fail.  At every step each kept expander has the
delimiters, the separator and the limit that the reader has then, and is lenient as its place says.
So every operation comes to what it comes to where an expander is made anew at every use, and leaves
the same session but for the kept expanders: the resolver has been asked the same, the log has the
same entries, and the same properties are required. -/
theorem steps_freshExpander (resolver : Resolver σ) (settings : Settings) (ledger : Ledger σ)
    (operations : List Operation) :
    let start : Session σ := { ledger with reader := .ofSettings settings }
    let kept := steps keptExpander resolver operations start
    let anew := steps freshExpander resolver operations start
    (∀ step ∈ kept, ∀ lenient expander,
      step.2.reader.keptExpander lenient = some expander →
        step.2.reader.Describes lenient expander) ∧
    anew = kept.map fun step =>
      (step.1, { step.2 with reader := step.2.reader.dropExpanders }) := by
  intro start kept anew
  have hstart : start.reader.Current := Reader.current_ofSettings settings
  obtain ⟨hcurrent, hsame⟩ := steps_of_current resolver operations hstart
  constructor
  · intro step hmem lenient expander hkept
    have hreader := hcurrent step hmem
    exact (Reader.makeExpander_eq_ok_iff hreader.separator_ne).mp
      (hreader.made lenient expander hkept)
  · -- the reader that settings start with keeps no expanders
    exact hsame

end Properties

end Interpolation
