import Interpolation.Program
import Interpolation.Proofs.Failing
import Interpolation.Proofs.Origins
import Interpolation.Proofs.PropertyReference

/-!
# What comes of an action

`Action.result` is what comes of an action before anything is printed: the text that it prints, or
why there is none.  With a source of texts an action shows its result and does nothing else
(`perform_eq`).  The expander that a property is read with can always be made from settings, so no
rejection ends the program; and such a source makes no run fail with a failure of its own.

`Action.Prints` says when there is a text to print, without the computation: there is one just where
the result is a text (`result_eq_ok_iff`).  An outlet gives out what it shows of the text, if its
encoding has bytes for all of this (`Outlet.CanWrite`, `Outlet.write_eq_ok_iff`); and it shows the
text as it is if it is a terminal, or if the text has no escape character (`Outlet.shown_eq_self`).
So a verb ends in one of two ways (`runVerb_of_read`): with the status zero and what is shown, or
with the status one and no output.
-/

set_option autoImplicit false

namespace Interpolation

/-! ## Results made of others -/

section Results

variable {ε ε' α β : Type} {x : Except ε α}

theorem mapError_eq_ok_iff {f : ε → ε'} {a : α} : x.mapError f = .ok a ↔ x = .ok a := by
  cases x <;> simp [Except.mapError]

theorem mapError_eq_error_iff {f : ε → ε'} {e : ε'} :
    x.mapError f = .error e ↔ ∃ e', x = .error e' ∧ f e' = e := by
  cases x <;> simp [Except.mapError]

theorem map_eq_ok_iff {f : α → β} {b : β} : x.map f = .ok b ↔ ∃ a, x = .ok a ∧ f a = b := by
  cases x <;> simp [Except.map]

theorem map_eq_error_iff {f : α → β} {e : ε} : x.map f = .error e ↔ x = .error e := by
  cases x <;> simp [Except.map]

end Results

/-! ## Sources of texts -/

namespace Source

/-- A source that answers every name with a text or not at all. -/
def AnswersTexts (environment : Environment) (source : Source) : Prop :=
  ∀ name : Text, ∃ found : Option Text,
    source.answer environment (.text name) = .ofValue? (found.map .text)

variable {environment : Environment} {source : Source}

/-- A run with a source of texts does not fail with a failure of the source. -/
theorem AnswersTexts.not_isOfSource (h : source.AnswersTexts environment) {e : Expander}
    {text : Text} {ledger : Ledger (List Lookup)} {failure : Failure}
    (hfail : ((e.replace (.text text) (.usable (source.resolver environment))).run ledger).1 =
      .error failure) : ¬ failure.IsOfSource := by
  rw [e.replace_source environment source text ledger] at hfail
  intro hsource
  cases Expansion.ofExpansion_of_guarded hfail with
  | circular body => exact hsource
  | @refused asked failure hrefused =>
    obtain ⟨found, hfound⟩ := h asked
    rw [hfound] at hrefused
    cases found <;> cases hrefused
  | unresolvable name value start strict => exact hsource
  | tooDeep value => exact hsource

/-- A text without placeholders is resolved to itself. -/
theorem replace_of_none {e : Expander} {text : Text}
    (h : e.dialect.firstPlaceholder? text = none) (ledger : Ledger (List Lookup)) :
    ((e.replace (.text text) (.usable (source.resolver environment))).run ledger).1 = .ok text := by
  rw [e.replace_source environment source text ledger, Expander.transcript]
  exact Expansion.outcome_guarded_of_none h

end Source

/-- Without the escape character there is no control sequence to leave out. -/
theorem Text.withoutSequences_of_not_mem {text : Text} (h : .char '\x1b' ∉ text) :
    text.withoutSequences = text := by
  induction text with
  | nil =>
    rw [withoutSequences]
    rfl
  | cons c rest ih =>
    have hnone : behindSequence? (c :: rest) = none := by
      unfold behindSequence?
      split
      · rename_i hescape
        cases hescape
        exact absurd List.mem_cons_self h
      · rfl
    have hrest := ih fun hmem => h (List.mem_cons_of_mem c hmem)
    rw [withoutSequences]
    split
    · rename_i after hafter
      rw [hnone] at hafter
      cases hafter
    · exact congrArg (c :: ·) hrest

/-! ## Expanders from settings -/

namespace Settings

open Program

/-- An expander with the dialect of settings, where options take the place of what they give, and
with the limit of the settings. -/
structure Overridden (s : Settings) (o : Overrides) (e : Expander) : Prop where
  opening : e.dialect.opening = o.opening.getD s.opening
  closing : e.dialect.closing = o.closing.getD s.closing
  separator : e.dialect.separator = (Dialect.separatorOf (o.separator.or s.separator)).val
  lenient : e.dialect.lenient = (o.strict.map (!·)).getD s.lenient
  limit : e.limit = s.limit
  given : e.given = .int s.limit

/-- The fields of the dialect of settings with those of options in their places. -/
def overriddenFields (s : Settings) (o : Overrides) : List (Text × Value) :=
  [("open_delimiter".text, .text (o.opening.getD s.opening)),
    ("close_delimiter".text, .text (o.closing.getD s.closing)),
    ("value_separator".text,
      ((o.separator.or (Dialect.separatorOf s.separator).val).map Value.text).getD .null),
    ("ignore_unresolvable".text, .bool ((o.strict.map (!·)).getD s.lenient))]

theorem expander_fields (s : Settings) (o : Overrides) :
    s.expander o.fields = (Dialect.ofFields (s.overriddenFields o)).map s.expanderOf := by
  obtain ⟨opening, closing, separator, strict⟩ := o
  cases opening <;> cases closing <;> cases separator <;> cases strict <;> rfl

/-- The expander of settings and options is the one with the options in their places, and there is
one where this has delimiters that are not empty. -/
theorem expander_eq_ok_iff {s : Settings} {o : Overrides} {e : Expander} :
    s.expander o.fields = .ok e ↔ s.Overridden o e := by
  have hcounted : ∀ separator : Option Text,
      (Dialect.separatorOf (separator.or (Dialect.separatorOf s.separator).val)).val =
        (Dialect.separatorOf (separator.or s.separator)).val := by
    intro separator
    cases separator with
    -- the settings have counted their separator before, and it is counted again
    | none => exact Dialect.separatorOf_of_ne (Dialect.separatorOf s.separator).property
    | some text => rfl
  rw [expander_fields]
  constructor
  · intro h
    obtain ⟨d, hfields, rfl⟩ := map_eq_ok_iff.mp h
    obtain ⟨hopening, hclosing, ⟨separator, hseparator, hsame⟩, hlenient⟩ :=
      Dialect.ofFields_eq_ok_iff.mp hfields
    rw [Field.required_eq_ok_iff rfl, Field.countedText_eq_ok_iff] at hopening hclosing
    have hread := (Field.withDefault_eq_ok_iff rfl).mp hseparator
    rw [Dialect.optionalText_of_separator] at hread
    cases hread
    exact {
      opening := (Except.ok.inj hopening).symm
      closing := (Except.ok.inj hclosing).symm
      separator := hsame.symm.trans (hcounted _)
      lenient := (Except.ok.inj hlenient).symm
      limit := rfl
      given := rfl }
  · intro h
    obtain ⟨d, limit, limit_pos, limit_le, given⟩ := e
    obtain ⟨hopening, hclosing, hseparator, hlenient, hlimit, hgiven⟩ := h
    dsimp only at hopening hclosing hseparator hlenient hlimit hgiven
    subst hlimit hgiven
    have hfields : Dialect.ofFields (s.overriddenFields o) = .ok d := by
      have hread : Field.withDefault (s.overriddenFields o) "value_separator" none
          Field.optionalText = .ok _ :=
        (Field.withDefault_eq_ok_iff rfl).mpr (Dialect.optionalText_of_separator _)
      rw [Dialect.ofFields_eq_ok_iff, Field.required_eq_ok_iff rfl, Field.required_eq_ok_iff rfl,
        Field.countedText_eq_ok_iff, Field.countedText_eq_ok_iff]
      exact ⟨congrArg Except.ok hopening.symm, congrArg Except.ok hclosing.symm,
        ⟨_, hread, (hcounted _).trans hseparator.symm⟩, congrArg Except.ok hlenient.symm⟩
    rw [hfields]
    rfl

end Settings

/-! ## Properties of a source of texts -/

namespace Properties

variable {σ : Type} {resolver : Resolver σ}

/-- The strict expander that settings describe can be made. -/
theorem Reader.makeExpander_ofSettings (s : Settings) :
    (Reader.ofSettings s).makeExpander false =
      .ok (s.expanderOf { s.dialect with lenient := false }) := by
  have hfields : (Reader.ofSettings s).fields false =
      ({ s.dialect with lenient := false } : Dialect).toFields := rfl
  rw [makeExpander, hfields, Dialect.ofFields_toFields]
  rfl

/-- A name has a value where the reply to it is a text. -/
theorem run_contains {name : Value} {found : Option Text} {s : Session σ}
    (h : (resolver name s.source).1 = .ofValue? (found.map .text)) :
    (contains resolver name).run s =
      (.ok found.isSome, { s with source := (resolver name s.source).2 }) := by
  rcases hreply : resolver name s.source with ⟨reply, source⟩
  rw [hreply] at h
  obtain rfl : reply = .ofValue? (found.map .text) := h
  have hvalue : (rawValue resolver name).run s =
      (.ok ((found.map Value.text).getD .null), { s with source }) := by
    rw [rawValue, run_bind, run_modifyGet, hreply]
    cases found <;> rfl
  rw [contains, run_bind, hvalue]
  cases found <;> rfl

section Answers

variable {answer : Text → Reply}
variable (hpure : ∀ name state, (resolver (.text name) state).1 = answer name)
include hpure

/-- A property that must have a value and has none is missing. -/
theorem outcome_getRequired_of_absent {name : Text} (habsent : answer name = .absent)
    (s : Session σ) : ((perform resolver (.getRequired (.text name) .text)).run s).1 =
      .error (.failure (.missingProperties [.text name])) := by
  have hreply : (resolver (.text name) s.source).1 = .ofValue? ((none : Option Text).map .text) :=
    (hpure name s.source).trans habsent
  rw [perform, performWith, getRequired, run_bind, run_contains hreply]
  rfl

/-- A property that must have a value and has one is read like any other. -/
theorem outcome_getRequired_of_text {name raw : Text} (hraw : answer name = .text raw)
    {s : Session σ} (hcurrent : s.reader.Current) :
    ((perform resolver (.getRequired (.text name) .text)).run s).1 =
      s.reader.outcome s.reader.lenientNested.isTruthy answer raw := by
  have hreply : (resolver (.text name) s.source).1 = .ofValue? ((some raw).map .text) :=
    (hpure name s.source).trans hraw
  rw [perform, performWith, getRequired, run_bind, run_contains hreply]
  exact outcome_get (s := { s with source := (resolver (.text name) s.source).2 }) hpure hcurrent
    hraw .null

variable (htexts : ∀ name, ∃ found : Option Text, answer name = .ofValue? (found.map .text))
include htexts

/-- The names that are missing are those without an answer. -/
theorem run_missing (names : List Text) (s : Session σ) :
    ∃ source, (missing resolver (names.map .text)).run s =
      (.ok ((names.filter fun name => answer name matches .absent).map .text),
        { s with source }) := by
  induction names generalizing s with
  | nil => exact ⟨s.source, rfl⟩
  | cons name names ih =>
    obtain ⟨found, hfound⟩ := htexts name
    obtain ⟨source, hrest⟩ := ih { s with source := (resolver (.text name) s.source).2 }
    refine ⟨source, ?_⟩
    rw [List.map_cons, missing, run_bind, run_contains ((hpure name s.source).trans hfound)]
    dsimp only
    rw [run_bind, hrest, List.filter_cons, hfound]
    cases found <;> rfl

/-- Properties that must have a value are checked by what is missing. -/
theorem outcome_validate (names : List Text) (s : Session σ)
    (hrequired : s.reader.required = names.map .text) :
    ((perform resolver .validate).run s).1 =
      match names.filter fun name => answer name matches .absent with
      | [] => .ok .null
      | missing => .error (.failure (.missingProperties (missing.map .text))) := by
  obtain ⟨source, hmissing⟩ := run_missing hpure htexts names s
  rw [perform, performWith, validate, run_bind, run_bind, run_get]
  dsimp only
  rw [run_bind, hrequired, hmissing]
  cases names.filter fun name => answer name matches .absent <;> rfl

end Answers

end Properties

namespace Program

open Properties

/-! ## Results of actions -/

/-- A text as an expander resolves it with a source. -/
def resolved (e : Expander) (source : Source) (environment : Environment) (text : Text) :
    Except Properties.Problem Text :=
  ((e.replace (.text text) (.usable (source.resolver environment))).run ⟨[], []⟩).1.mapError
    .failure

/-- What comes of an action before anything is printed: the text to print, or why there is none. -/
def Action.result (s : Settings) (source : Source) (environment : Environment)
    (input : Characters) : Action → Except Properties.Problem Text
  | .resolve text o =>
    match s.expander o.fields with
    | .error rejection => .error (.rejected rejection)
    | .ok e => resolved e source environment (text.getD (.ofCharacters input.withLineFeeds))
  | .get name =>
    match source.answer environment (.text name) with
    | .text raw =>
      (resolved (s.expanderOf { s.dialect with lenient := false }) source environment raw).map
        (· ++ "\n".text)
    | _ => .error (.failure (.missingProperties [.text name]))
  | .validate names =>
    match names.filter fun name => source.answer environment (.text name) matches .absent with
    | [] => .ok []
    | missing => .error (.failure (.missingProperties (missing.map .text)))

/-- The wording of a problem where an action fails with it. -/
def shownProblem : Properties.Problem → Text
  | .failure failure => failure.message
  | .rejected rejection => rejection.explanation

/-- What an action that shows its result on an outlet ends with.  A text that cannot be written is a
failure of the action that resolves it, and no outcome of the one that shows a property. -/
def Action.shown (outlet : Outlet) (action : Action) (log : List Log.Entry) :
    Except Properties.Problem Text → Except Breakdown Outcome
  | .error problem => .ok (.failed action.verb (shownProblem problem) log)
  | .ok text =>
    match action with
    | .validate names =>
      .ok ⟨0, [], s!"All {names.length} required properties are defined.\n".toList, log⟩
    | .resolve _ _ =>
      match outlet.write text with
      | .ok output => .ok (.done output log)
      | .error fault => .ok (.failed .resolve (outlet.encoding.message fault).text log)
    | .get _ =>
      match outlet.write text with
      | .ok output => .ok (.done output log)
      | .error fault => .error (.unwritable outlet.encoding fault)

theorem Outcome.failed_withLog (verb : Verb) (message : Text) (log log' : List Log.Entry) :
    { failed verb message log' with log := log ++ (failed verb message log').log } =
      failed verb message (log ++ log') := by
  rw [failed, failed]
  dsimp only
  rw [← List.append_assoc log]

theorem Action.shown_withLog (outlet : Outlet) (action : Action) (log log' : List Log.Entry)
    (result : Except Properties.Problem Text) :
    (action.shown outlet log' result).map
        (fun outcome => { outcome with log := log ++ outcome.log }) =
      action.shown outlet (log ++ log') result := by
  cases result with
  | error problem => exact congrArg Except.ok (Outcome.failed_withLog _ _ log log')
  | ok text =>
    cases action with
    | validate names => rfl
    | get name =>
      dsimp only [shown]
      cases outlet.write text <;> rfl
    | resolve given o =>
      dsimp only [shown]
      cases outlet.write text with
      | ok output => rfl
      | error fault => exact congrArg Except.ok (Outcome.failed_withLog _ _ log log')

/-- An action ends with the status zero or one. -/
theorem Action.status_of_shown {outlet : Outlet} {action : Action} {log : List Log.Entry}
    {result : Except Properties.Problem Text} {outcome : Outcome}
    (h : action.shown outlet log result = .ok outcome) : outcome.status ≤ 1 := by
  cases result with
  | error problem =>
    cases h
    exact Nat.le_refl 1
  | ok text =>
    cases action with
    | validate names =>
      cases h
      exact Nat.zero_le 1
    | resolve given o | get name =>
      dsimp only [shown] at h
      split at h <;> cases h <;> simp [Outcome.done, Outcome.failed]

theorem resolved_eq (e : Expander) (source : Source) (environment : Environment) (text : Text) :
    resolved e source environment text =
      (e.transcript (fun name => source.answer environment (.text name)) text).outcome.mapError
        .failure := by
  rw [resolved, e.replace_source environment source text ⟨[], []⟩]

/-- Operations on properties are shown by what comes of them. -/
theorem withProperties_eq {s : Settings} {resolver : Resolver (List Lookup)} {verb : Verb}
    {operations : List Operation}
    {succeed : Value → List Log.Entry → Except Breakdown Outcome}
    {outcome : Except Properties.Problem Value}
    (h : ((performAll resolver operations).run ⟨⟨[], []⟩, .ofSettings s⟩).1 = outcome) :
    ∃ log, withProperties s resolver verb operations succeed =
      match outcome with
      | .ok value => succeed value log
      | .error (.failure failure) => .ok (.failed verb failure.message log)
      | .error (.rejected rejection) => .error (.settings rejection) := by
  rw [withProperties]
  rcases hrun : (performAll resolver operations).run ⟨⟨[], []⟩, .ofSettings s⟩ with ⟨left, session⟩
  rw [hrun] at h
  obtain rfl : left = outcome := h
  refine ⟨session.log, ?_⟩
  cases left with
  | ok value => rfl
  | error problem => cases problem <;> rfl

/-- An action shows its result. -/
theorem perform_eq {s : Settings} {source : Source} {environment : Environment} (outlet : Outlet)
    (input : Characters) (h : source.AnswersTexts environment) (action : Action) :
    ∃ log, action.perform outlet s (source.resolver environment) input =
      action.shown outlet log (action.result s source environment input) := by
  have hpure : ∀ (name : Text) (record : List Lookup),
      (source.resolver environment (.text name) record).1 =
        source.answer environment (.text name) := by
    intro name record
    rw [source.resolver_run]
  cases action with
  | resolve text o =>
    rw [Action.perform, resolveText, Action.result]
    cases s.expander o.fields with
    | error rejection => exact ⟨[], rfl⟩
    | ok e =>
      dsimp only
      rw [resolved]
      rcases (e.replace (.text (text.getD (.ofCharacters input.withLineFeeds)))
        (.usable (source.resolver environment))).run ⟨[], []⟩ with ⟨outcome, ledger⟩
      refine ⟨ledger.log, ?_⟩
      cases outcome with
      | error failure => rfl
      | ok result =>
        dsimp only [Except.mapError, Action.shown]
        cases outlet.write result <;> rfl
  | get name =>
    obtain ⟨found, hfound⟩ := h name
    rw [Action.perform, getProperty, Action.result, hfound]
    cases found with
    | none =>
      have hmissing : ((performAll (source.resolver environment)
          [.getRequired (.text name) .text]).run ⟨⟨[], []⟩, .ofSettings s⟩).1 = _ :=
        outcome_getRequired_of_absent hpure hfound ⟨⟨[], []⟩, .ofSettings s⟩
      obtain ⟨log, hshown⟩ := withProperties_eq hmissing
      exact ⟨log, hshown⟩
    | some raw =>
      have hread : ((performAll (source.resolver environment)
          [.getRequired (.text name) .text]).run ⟨⟨[], []⟩, .ofSettings s⟩).1 =
          (resolved (s.expanderOf { s.dialect with lenient := false }) source environment raw).map
            .text := by
        refine (outcome_getRequired_of_text (s := ⟨⟨[], []⟩, .ofSettings s⟩) hpure hfound
          (Reader.current_ofSettings s)).trans ?_
        -- the strict expander of settings can be made, so what is left is its run
        show (Reader.ofSettings s).outcome false _ raw = _
        rw [Reader.outcome, Reader.makeExpander_ofSettings, resolved_eq]
      obtain ⟨log, hshown⟩ := withProperties_eq hread
      refine ⟨log, hshown.trans ?_⟩
      dsimp only [Reply.ofValue?, Reply.ofValue, Option.map]
      rw [resolved]
      cases ((s.expanderOf { s.dialect with lenient := false }).replace (.text raw)
        (.usable (source.resolver environment))).run ⟨[], []⟩ |>.1 with
      | error failure => rfl
      | ok result => rfl
  | validate names =>
    have hchecked : ((performAll (source.resolver environment)
        [.require (names.map .text), .validate]).run ⟨⟨[], []⟩, .ofSettings s⟩).1 = _ :=
      outcome_validate hpure h names
        ⟨⟨[], []⟩, { Reader.ofSettings s with required := names.map .text }⟩ rfl
    rw [Action.perform, validateProperties, Action.result]
    obtain ⟨log, hshown⟩ := withProperties_eq hchecked
    refine ⟨log, hshown.trans ?_⟩
    cases names.filter fun name => source.answer environment (.text name) matches .absent <;> rfl

/-! ## What actions print -/

/-- What an action is to print: the text that its expander makes of the text given, a property with
the placeholders in its value resolved, or nothing if all names have values. -/
inductive Action.Prints (s : Settings) (source : Source) (environment : Environment)
    (input : Characters) : Action → Text → Prop
  | resolve {text : Option Text} {o : Overrides} {e : Expander} {result : Text} :
    s.Overridden o e →
    ((e.replace (.text (text.getD (.ofCharacters input.withLineFeeds)))
      (.usable (source.resolver environment))).run ⟨[], []⟩).1 = .ok result →
    Prints s source environment input (.resolve text o) result
  | get {name raw result : Text} :
    source.answer environment (.text name) = .text raw →
    (((s.expanderOf { s.dialect with lenient := false }).replace (.text raw)
      (.usable (source.resolver environment))).run ⟨[], []⟩).1 = .ok result →
    Prints s source environment input (.get name) (result ++ "\n".text)
  | validate {names : List Text} :
    (∀ name ∈ names, source.answer environment (.text name) ≠ .absent) →
    Prints s source environment input (.validate names) []

section Prints

variable {s : Settings} {source : Source} {environment : Environment} {input : Characters}
variable {text : Text}

theorem resolved_eq_ok_iff {e : Expander} {result : Text} :
    resolved e source environment text = .ok result ↔
      ((e.replace (.text text) (.usable (source.resolver environment))).run ⟨[], []⟩).1 =
        .ok result := by
  rw [resolved, mapError_eq_ok_iff]

/-- What comes of an action is what it is to print. -/
theorem result_eq_ok_iff {action : Action} :
    action.result s source environment input = .ok text ↔
      action.Prints s source environment input text := by
  constructor
  · intro h
    cases action with
    | resolve given o =>
      rw [Action.result] at h
      split at h
      · cases h
      · rename_i e hmake
        exact .resolve (Settings.expander_eq_ok_iff.mp hmake) (resolved_eq_ok_iff.mp h)
    | get name =>
      rw [Action.result] at h
      split at h
      · rename_i raw hraw
        obtain ⟨result, hresult, rfl⟩ := map_eq_ok_iff.mp h
        exact .get hraw (resolved_eq_ok_iff.mp hresult)
      · cases h
    | validate names =>
      rw [Action.result] at h
      split at h
      · rename_i hnone
        cases h
        refine .validate fun name hmem habsent => ?_
        have hname := List.filter_eq_nil_iff.mp hnone name hmem
        exact hname (by rw [habsent])
      · cases h
  · intro h
    cases h with
    | resolve hmake hresult =>
      rw [Action.result, Settings.expander_eq_ok_iff.mpr hmake]
      exact resolved_eq_ok_iff.mpr hresult
    | get hraw hresult =>
      rw [Action.result, hraw]
      exact map_eq_ok_iff.mpr ⟨_, resolved_eq_ok_iff.mpr hresult, rfl⟩
    | @validate names hvalues =>
      have hnone : (names.filter fun name =>
          source.answer environment (.text name) matches .absent) = [] := by
        rw [List.filter_eq_nil_iff]
        intro name hmem habsent
        apply hvalues name hmem
        cases hreply : source.answer environment (.text name) <;> rw [hreply] at habsent <;>
          first | rfl | cases habsent
      rw [Action.result, hnone]

/-- With a source of texts, no action fails with a failure of the source. -/
theorem result_not_isOfSource (h : source.AnswersTexts environment) {action : Action}
    {failure : Failure}
    (hfail : action.result s source environment input = .error (.failure failure)) :
    ¬ failure.IsOfSource := by
  have hresolved : ∀ {e : Expander} {text : Text},
      resolved e source environment text = .error (.failure failure) → ¬ failure.IsOfSource := by
    intro e text hfail
    obtain ⟨failure', hrun, ⟨⟩⟩ := mapError_eq_error_iff.mp hfail
    exact h.not_isOfSource hrun
  cases action with
  | resolve text o =>
    rw [Action.result] at hfail
    split at hfail
    · cases hfail
    · exact hresolved hfail
  | get name =>
    rw [Action.result] at hfail
    split at hfail
    · exact hresolved (map_eq_error_iff.mp hfail)
    · cases hfail
      exact id
  | validate names =>
    rw [Action.result] at hfail
    split at hfail
    · cases hfail
    · cases hfail
      exact id

end Prints

theorem Origins.answersTexts_source (origins : Origins) (entries : List (Text × Text))
    (environment : Environment) : (origins.source entries).AnswersTexts environment :=
  fun name => ⟨_, origins.answer_source entries environment name⟩

/-- A verb whose words are read shows the result of what they ask for. -/
theorem runVerb_eq {world : World} {s : Settings} {source : Source} {verb : Verb}
    {words : List Text} {action : Action} (h : source.AnswersTexts world.environment)
    (log : List Log.Entry) (hread : verb.read words = .ok action) :
    ∃ log', runVerb world s source log verb words =
      action.shown world.outlet log'
        (action.result s source world.environment world.input) := by
  obtain ⟨log', hperform⟩ := perform_eq (s := s) world.outlet world.input h action
  refine ⟨log ++ log', ?_⟩
  rw [runVerb, hread]
  dsimp only
  rw [hperform, Action.shown_withLog]

/-! ## What an outlet gives out -/

/-- An outlet can give out what it shows of a text: its encoding has bytes for all of it. -/
def Outlet.CanWrite (outlet : Outlet) (text : Text) : Prop :=
  ∀ c ∈ outlet.shown text, outlet.encoding.writes c = true

/-- An outlet gives out what it shows of a text, if it can. -/
theorem Outlet.write_eq_ok_iff {outlet : Outlet} {text output : Text} :
    outlet.write text = .ok output ↔ outlet.CanWrite text ∧ output = outlet.shown text := by
  rw [write, CanWrite, ← Encoding.fault?_eq_none_iff]
  cases outlet.encoding.fault? (outlet.shown text) with
  | none => simp [eq_comm]
  | some fault => exact iff_of_false nofun fun h => nomatch h.1

/-- A terminal shows a text as it is, and so does any outlet if the text has no escape character. -/
theorem Outlet.shown_eq_self {outlet : Outlet} {text : Text}
    (h : outlet.isTerminal = true ∨ .char '\x1b' ∉ text) : outlet.shown text = text := by
  rw [shown]
  rcases h with hterminal | hescape
  · exact if_pos hterminal
  · rw [Text.withoutSequences_of_not_mem hescape, ite_self]

/-- The empty text is given out as it is. -/
theorem Outlet.write_nil (outlet : Outlet) : outlet.write [] = .ok [] := by
  have hshown : outlet.shown [] = [] := shown_eq_self (.inr List.not_mem_nil)
  refine write_eq_ok_iff.mpr ⟨fun c hmem => ?_, hshown.symm⟩
  rw [hshown] at hmem
  cases hmem

/-! ## How verbs end -/

/-- A run that ends with an exit status and an output. -/
def EndsWith (run : Except Breakdown Outcome) (status : Nat) (output : Text) : Prop :=
  ∃ outcome, run = .ok outcome ∧ outcome.status = status ∧ outcome.output = output

section Ends

variable {s : Settings} {source : Source} {environment : Environment} {input : Characters}
variable {outlet : Outlet} {action : Action} {log : List Log.Entry} {text output : Text}

/-- An action with a text to print ends with the status zero where the text can be written. -/
theorem Action.shown_endsWith_zero_iff (h : action.Prints s source environment input text) :
    EndsWith (action.shown outlet log (.ok text)) 0 output ↔ outlet.write text = .ok output := by
  cases h with
  | validate hvalues =>
    rw [outlet.write_nil]
    simp [EndsWith, shown, eq_comm]
  | resolve | get =>
    dsimp only [EndsWith, shown]
    cases outlet.write _ with
    | ok written => simp [Outcome.done]
    | error fault => simp [Outcome.failed]

/-- An action fails where its text cannot be written, unless it shows a property. -/
theorem Action.shown_endsWith_one (h : action.Prints s source environment input text)
    (hget : action.verb ≠ .get) (hwrite : ¬ outlet.CanWrite text) :
    EndsWith (action.shown outlet log (.ok text)) 1 [] := by
  cases hwritten : outlet.write text with
  | ok output => exact absurd (Outlet.write_eq_ok_iff.mp hwritten).1 hwrite
  | error fault =>
    cases h with
    | validate hvalues =>
      rw [outlet.write_nil] at hwritten
      cases hwritten
    | get => exact absurd rfl hget
    | resolve =>
      dsimp only [shown]
      rw [hwritten]
      exact ⟨_, rfl, rfl, rfl⟩

/-- The result of an action is shown with the status zero just where it is a text that the outlet can
give out. -/
theorem Action.result_endsWith_zero_iff :
    EndsWith (action.shown outlet log (action.result s source environment input)) 0 output ↔
      ∃ text, action.Prints s source environment input text ∧ outlet.CanWrite text ∧
        output = outlet.shown text := by
  simp only [← Outlet.write_eq_ok_iff, ← result_eq_ok_iff]
  cases hresult : action.result s source environment input with
  | ok text =>
    rw [shown_endsWith_zero_iff (result_eq_ok_iff.mp hresult)]
    constructor
    · exact fun hwrite => ⟨text, rfl, hwrite⟩
    · rintro ⟨_, ⟨⟩, hwrite⟩
      exact hwrite
  | error problem =>
    constructor
    · rintro ⟨_, ⟨⟩, ⟨⟩, -⟩
    · rintro ⟨text, ⟨⟩, -⟩

/-- Where it is no such text, and no property is to be shown, the status is one. -/
theorem Action.result_endsWith_one
    (h : ∀ text, action.Prints s source environment input text →
      action.verb ≠ .get ∧ ¬ outlet.CanWrite text) :
    EndsWith (action.shown outlet log (action.result s source environment input)) 1 [] := by
  cases hresult : action.result s source environment input with
  | error problem => exact ⟨_, rfl, rfl, rfl⟩
  | ok text =>
    have hprints := result_eq_ok_iff.mp hresult
    obtain ⟨hget, hwrite⟩ := h text hprints
    exact shown_endsWith_one hprints hget hwrite

end Ends

end Program

end Interpolation
