import Mathlib.Data.Set.Card
import Interpolation.Proofs.Failing
import Interpolation.Proofs.SourceAnswers
import Interpolation.Proofs.Visits

/-!
# Expanding against a finite table

Without a separator, an engine that is given a table of texts never reads a text that it has made
itself: it expands the text that it is given, values of the table, and bodies that stand in these or
in other such bodies.  `Arises` is the least family that holds these bodies, and it is finite.

At a visit at depth `n`, the bodies that are being expanded are `n` different members of the family
(`Visit.Ordered`, kept by `ensures_expandNoting`).  So no visit is deeper than the family has
members, and where the limit is not below that number it is never exceeded: the cycle check alone
ends every expansion.
-/

set_option autoImplicit false

namespace Interpolation

/-- The bodies that arise from a text and from values: those that stand in the text, in a value, or
in a body that arises. -/
inductive Arises (d : Dialect) (values : List Text) (text : Text) : Text → Prop
  | text {body : Text} : body ∈ d.bodies text → Arises d values text body
  | value {value body : Text} : value ∈ values → body ∈ d.bodies value → Arises d values text body
  | body {outer body : Text} : Arises d values text outer → body ∈ d.bodies outer →
    Arises d values text body

/-- The bodies that arise are finitely many, as they are parts of the text or of a value. -/
theorem finite_arises (d : Dialect) (values : List Text) (text : Text) :
    {body | Arises d values text body}.Finite := by
  have hpart : ∀ body, Arises d values text body → ∃ whole ∈ text :: values, body <:+: whole := by
    intro body h
    induction h with
    | text hmem => exact ⟨text, List.mem_cons_self, Dialect.isInfix_of_mem_bodies hmem⟩
    | @value value _ hvalue hmem =>
      exact ⟨value, List.mem_cons_of_mem _ hvalue, Dialect.isInfix_of_mem_bodies hmem⟩
    | body _ hmem ih =>
      obtain ⟨whole, hwhole, houter⟩ := ih
      exact ⟨whole, hwhole, (Dialect.isInfix_of_mem_bodies hmem).trans houter⟩
  apply ((text :: values).flatMap List.sublists).finite_toSet.subset
  intro body h
  obtain ⟨whole, hwhole, hinfix⟩ := hpart body h
  exact List.mem_flatMap.mpr ⟨whole, hwhole, List.mem_sublists.mpr hinfix.sublist⟩

/-- A visit at which the bodies that are being expanded are as many as it is deep, all different,
and all of a family. -/
structure Visit.Ordered (family : Text → Prop) (visit : Visit) : Prop where
  nodup : visit.active.Nodup
  length_eq : visit.active.length = visit.depth
  arises : ∀ body ∈ visit.active, family body

/-- One level deeper, where one more body of the family is being expanded, a visit is ordered again.
-/
theorem Visit.Ordered.cons {family : Text → Prop} {depth : Nat} {active : List Text}
    {value body : Text} (h : (Visit.mk depth active value).Ordered family) (hnew : body ∉ active)
    (hbody : family body) (value' : Text) :
    (Visit.mk (depth + 1) (body :: active) value').Ordered family where
  nodup := List.nodup_cons.mpr ⟨hnew, h.nodup⟩
  length_eq := congrArg (· + 1) h.length_eq
  arises := List.forall_mem_cons.mpr ⟨hbody, h.arises⟩

/-- A finite family with `n` members has no ordered visit that is deeper than `n`. -/
theorem Visit.Ordered.depth_le {family : Text → Prop} {visit : Visit} (h : visit.Ordered family)
    (hfinite : {body | family body}.Finite) : visit.depth ≤ {body | family body}.ncard := by
  have hsubset : (visit.active.toFinset : Set Text) ⊆ {body | family body} := by
    intro body hmem
    exact h.arises body (List.mem_toFinset.mp hmem)
  calc visit.depth = visit.active.toFinset.card := by
        rw [List.toFinset_card_of_nodup h.nodup, h.length_eq]
    _ = (visit.active.toFinset : Set Text).ncard := (Set.ncard_coe_finset _).symm
    _ ≤ {body | family body}.ncard := Set.ncard_le_ncard hsubset hfinite

/-- A resolver that answers a name with nothing or with one of some values. -/
def Resolver.AnswersFrom {σ : Type} (resolver : Resolver σ) (values : List Text) : Prop :=
  ∀ name s, (resolver (.text name) s).1 = .absent ∨
    ∃ value ∈ values, (resolver (.text name) s).1 = .text value

/-- Nothing that such a resolver answers is refused. -/
theorem Resolver.AnswersFrom.checked_ne_error {σ : Type} {resolver : Resolver σ}
    {values : List Text} (h : resolver.AnswersFrom values) (name : Text) (s : σ)
    (failure : Failure) : (resolver (.text name) s).1.checked name ≠ .error failure := by
  intro hrefused
  rcases h name s with habsent | ⟨value, -, hvalue⟩
  · rw [habsent] at hrefused
    cases hrefused
  · rw [hvalue] at hrefused
    cases hrefused

/-- A table of texts. -/
def Source.ofTexts (entries : List (Text × Text)) : Source :=
  .table (entries.map fun (name, value) => (name, .text value))

/-- A table of texts answers a name with nothing or with one of its values. -/
theorem Source.answersFrom_ofTexts (environment : Environment) (entries : List (Text × Text)) :
    ((ofTexts entries).resolver environment).AnswersFrom (entries.map Prod.snd) := by
  intro name record
  show Reply.ofValue? (Value.member? (entries.map _) name) = .absent ∨
    ∃ value ∈ _, Reply.ofValue? (Value.member? (entries.map _) name) = .text value
  rw [Value.member?]
  cases hfind : (entries.map fun entry => (entry.1, Value.text entry.2)).find? (·.1 = name) with
  | none => exact .inl rfl
  | some member =>
    obtain ⟨entry, hmem, rfl⟩ := List.mem_map.mp (List.mem_of_find?_eq_some hfind)
    exact .inr ⟨entry.2, List.mem_map_of_mem hmem, rfl⟩

namespace Expansion

variable {σ : Type} {dialect : Dialect} {resolver : Resolver σ} {values : List Text} {text : Text}

/-- The noted visits are ordered, in the family of a text and values. -/
def AllOrdered (dialect : Dialect) (values : List Text) (text : Text)
    (ledger : Ledger (σ × List Visit)) : Prop :=
  ∀ visit ∈ ledger.source.2, visit.Ordered (Arises dialect values text)

/-- The noted visits are ordered, and a failure of the limit comes from a visit at a given depth. -/
def FailsOrdered (dialect : Dialect) (values : List Text) (text : Text) (deepest : Nat)
    (failure : Failure) (s : Session (σ × List Visit)) : Prop :=
  AllOrdered dialect values text s.toLedger ∧
    (failure.IsTooDeep → ∃ visit ∈ s.source.2, visit.depth = deepest)

variable {deepest : Nat} {active : List Text}

/-- A question for a name is answered with nothing or with one of the values. -/
theorem ensures_ask (hreply : resolver.AnswersFrom values) (name : Text) :
    Ensures (During active (AllOrdered dialect values text)) (ask resolver.besideNotes name)
      (fun found s => During active (AllOrdered dialect values text) s ∧
        ∀ value, found = some value → value ∈ values)
      (FailsOrdered dialect values text deepest) := by
  intro s hs
  rw [run_ask]
  rcases hreply name s.source.1 with habsent | ⟨value, hmem, hvalue⟩
  · rw [show (resolver.besideNotes (.text name) s.source).1 = .absent from habsent]
    refine ⟨hs, ?_⟩
    rintro value ⟨⟩
  · rw [show (resolver.besideNotes (.text name) s.source).1 = .text value from hvalue]
    refine ⟨hs, ?_⟩
    rintro _ ⟨⟩
    exact hmem

/-- All visits of an expansion are ordered if the first one is, and the limit is exceeded only at
the greatest depth. -/
theorem ensures_expandNoting (hseparator : dialect.separator = none)
    (hreply : resolver.AnswersFrom values) (limit : Value) {depth room : Nat} {value : Text}
    (hdepth : depth + room = deepest)
    (hvisit : (Visit.mk depth active value).Ordered (Arises dialect values text))
    (hbodies : ∀ body ∈ dialect.bodies value, Arises dialect values text body) :
    Ensures (During active (AllOrdered dialect values text))
      (expandNoting dialect resolver limit depth room value)
      (fun _ => During active (AllOrdered dialect values text))
      (FailsOrdered dialect values text deepest) := by
  -- on the levels that are left: each one deeper has one more body being expanded
  induction room generalizing depth active value with
  | zero =>
    rw [expandNoting]
    apply (ensures_noteVisit hvisit).bind
    intro _
    apply ensures_throw
    rintro s ⟨hs, hmem⟩
    exact ⟨hs.2, fun _ => ⟨_, hmem, hdepth⟩⟩
  | succ room ih =>
    rw [expandNoting, spliceFrom_zero]
    apply (ensures_noteVisit hvisit).bind
    intro _ s hs
    refine ensures_walkFrom ?_ s hs.1
    intro body hmem start
    have harises := hbodies body hmem
    apply ensures_within
    · intro _ s hs
      exact ⟨hs.2, fun h => h.elim⟩
    · intro hnew
      have hinner := hvisit.cons hnew harises
      have hdepth' : depth + 1 + room = deepest := by omega
      apply ensures_fillIn
      · exact ih hdepth' (hinner body) fun _ => .body harises
      · intro name
        rw [lookUp_of_separator_none hseparator]
        exact ensures_ask hreply name
      · intro value hvalue
        exact ih hdepth' (hinner value) fun _ => .value hvalue
      · exact fun name s hs => hs
      · exact fun _ name s hs => ⟨hs.2, fun h => h.elim⟩

end Expansion

namespace Expander

open Expansion

/-- The visits of a run with a table of texts are ordered, and a failure of the limit comes from a
visit that is deeper than the limit. -/
theorem runNoting_ofTexts (e : Expander) (hseparator : e.dialect.separator = none)
    (environment : Environment) (entries : List (Text × Text)) (text : Text)
    (ledger : Ledger (List Lookup)) :
    let noted := (e.runNoting ((Source.ofTexts entries).resolver environment) text).run
      ⟨(ledger.source, []), ledger.log⟩
    AllOrdered e.dialect (entries.map Prod.snd) text noted.2 ∧
      ∀ failure, noted.1 = .error failure → failure.IsTooDeep →
        ∃ visit ∈ noted.2.source.2, visit.depth = e.limit + 1 := by
  intro noted
  have hfirst : (Visit.mk 0 [] text).Ordered (Arises e.dialect (entries.map Prod.snd) text) :=
    ⟨List.nodup_nil, rfl, fun body hmem => absurd hmem List.not_mem_nil⟩
  have hrun := ensures_expandNoting hseparator
    (Source.answersFrom_ofTexts environment entries) e.given (Nat.zero_add (e.limit + 1)) hfirst
    (fun _ => .text) ⟨⟨(ledger.source, []), ledger.log⟩, []⟩
    ⟨rfl, fun visit hmem => absurd hmem List.not_mem_nil⟩
  have hnoted : noted = _ := e.run_runNoting _ text _
  rcases hpair : (expandNoting e.dialect ((Source.ofTexts entries).resolver environment) e.given 0
    (e.limit + 1) text).run ⟨⟨(ledger.source, []), ledger.log⟩, []⟩ with ⟨outcome, s'⟩
  rw [hpair] at hrun hnoted
  rw [hnoted]
  cases outcome with
  | ok result =>
    refine ⟨hrun.2, ?_⟩
    rintro failure ⟨⟩
  | error failure =>
    refine ⟨hrun.1, ?_⟩
    rintro _ ⟨⟩
    exact hrun.2

/-- Let an expander without a separator be given a table of texts, and let the family be the bodies
that arise from the text and the values.  At every visit of the run at depth `n`, the bodies that
are being expanded are `n` different members of the family, and the family is finite.  If it has no
more members than the limit allows levels, the run succeeds, or it fails because a body stands
inside its own expansion, or, if placeholders may not stay, because one has no value: the limit is
not what ends it. -/
theorem replace_ofTexts (e : Expander) (hseparator : e.dialect.separator = none)
    (environment : Environment) (entries : List (Text × Text)) (text : Text)
    (ledger : Ledger (List Lookup)) :
    let resolver := (Source.ofTexts entries).resolver environment
    let run := (e.replace (.text text) (.usable resolver)).run ledger
    let noted := (e.runNoting resolver text).run ⟨(ledger.source, []), ledger.log⟩
    let family := {body | Arises e.dialect (entries.map Prod.snd) text body}
    (noted.1 = run.1 ∧ noted.2.source.1 = run.2.source ∧ noted.2.log = run.2.log) ∧
    (∀ visit ∈ noted.2.source.2,
      visit.active.Nodup ∧ visit.active.length = visit.depth ∧
        ∀ body ∈ visit.active, body ∈ family) ∧
    family.Finite ∧
    (family.ncard ≤ e.limit →
      (∃ result, run.1 = .ok result) ∨
      (∃ body, run.1 = .error (.circular (.text body))) ∨
      (e.dialect.lenient = false ∧ ∃ name value start,
        run.1 = .error (.unresolvable (.text name) (.text value) (.int start)))) := by
  intro resolver run noted family
  have hsame := e.runNoting_run resolver text ledger []
  have hfinite : family.Finite := finite_arises e.dialect (entries.map Prod.snd) text
  obtain ⟨hordered, hdeep⟩ := e.runNoting_ofTexts hseparator environment entries text ledger
  refine ⟨hsame, ?_, hfinite, ?_⟩
  · intro visit hmem
    have hvisit := hordered visit hmem
    exact ⟨hvisit.nodup, hvisit.length_eq, hvisit.arises⟩
  · intro hcard
    have htranscript : run.1 = _ := congrArg Prod.fst
      (e.replace_source environment (.ofTexts entries) text ledger)
    cases hrun : run.1 with
    | ok result => exact .inl ⟨result, rfl⟩
    | error failure =>
      rw [hrun] at htranscript
      cases ofExpansion_of_guarded htranscript.symm with
      | circular body => exact .inr (.inl ⟨body, rfl⟩)
      | @refused asked _ hrefused =>
        have hfrom := Source.answersFrom_ofTexts environment entries
        exact absurd hrefused (hfrom.checked_ne_error asked [] failure)
      | unresolvable name value start strict =>
        exact .inr (.inr ⟨strict, name, value, start, rfl⟩)
      | tooDeep value =>
        obtain ⟨visit, hmem, hdepth⟩ := hdeep _ (hsame.1.trans hrun) trivial
        have hle := (hordered visit hmem).depth_le hfinite
        have : visit.depth ≤ e.limit := hle.trans hcard
        omega

/-- From a reference to a name whose value is a reference two bodies arise, so a limit of two is not
what ends the run. -/
theorem replace_ofTexts_two :
    let dialect : Dialect := { Dialect.shell with separator := none, separator_ne_nil := by decide }
    let e : Expander := ⟨dialect, 2, by decide, by decide, .int 2⟩
    let entries := [("a".text, dialect.written "b".text), ("b".text, "x".text)]
    let text := dialect.written "a".text
    let run :=
      (e.replace (.text text) (.usable ((Source.ofTexts entries).resolver []))).run ⟨[], []⟩
    e.dialect.separator = none ∧
    {body | Arises dialect (entries.map Prod.snd) text body}.ncard ≤ e.limit ∧
    ((∃ result, run.1 = .ok result) ∨
      (∃ body, run.1 = .error (.circular (.text body))) ∨
      (e.dialect.lenient = false ∧ ∃ name value start,
        run.1 = .error (.unresolvable (.text name) (.text value) (.int start)))) := by
  intro dialect e entries text run
  have ha : dialect.firstPlaceholder? "a".text = none := by rfl
  have hb : dialect.firstPlaceholder? "b".text = none := by rfl
  have hx : dialect.firstPlaceholder? "x".text = none := by rfl
  have htext : dialect.firstPlaceholder? text = some ⟨[], "a".text, []⟩ := by with_unfolding_all rfl
  have hvalue : dialect.firstPlaceholder? (dialect.written "b".text) = some ⟨[], "b".text, []⟩ :=
    by with_unfolding_all rfl
  have harises : {body | Arises dialect (entries.map Prod.snd) text body} ⊆
      ((["a".text, "b".text] : List Text).toFinset : Set Text) := by
    intro body h
    rw [Finset.mem_coe, List.mem_toFinset]
    induction h with
    | text hmem =>
      rw [Dialect.bodies_of_some htext,
        Dialect.bodies_of_none Dialect.firstPlaceholder?_nil] at hmem
      rw [List.mem_singleton.mp hmem]
      decide
    | @value value _ hvalues hmem =>
      have hvalues : value = dialect.written "b".text ∨ value = "x".text := by
        simpa [entries] using hvalues
      rcases hvalues with rfl | rfl
      · rw [Dialect.bodies_of_some hvalue,
          Dialect.bodies_of_none Dialect.firstPlaceholder?_nil] at hmem
        rw [List.mem_singleton.mp hmem]
        decide
      · rw [Dialect.bodies_of_none hx] at hmem
        cases hmem
    | @body outer _ _ hmem ih =>
      have houter : outer = "a".text ∨ outer = "b".text := by simpa using ih
      rcases houter with rfl | rfl
      · rw [Dialect.bodies_of_none ha] at hmem
        cases hmem
      · rw [Dialect.bodies_of_none hb] at hmem
        cases hmem
  have hcard : {body | Arises dialect (entries.map Prod.snd) text body}.ncard ≤ e.limit := by
    calc _ ≤ ((["a".text, "b".text] : List Text).toFinset : Set Text).ncard :=
          Set.ncard_le_ncard harises (Finset.finite_toSet _)
      _ = e.limit := by
          rw [Set.ncard_coe_finset]
          decide
  have hrun := e.replace_ofTexts rfl [] entries text ⟨[], []⟩
  exact ⟨rfl, hcard, hrun.2.2.2 hcard⟩

end Expander

end Interpolation
