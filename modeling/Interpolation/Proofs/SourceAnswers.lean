import Interpolation.Proofs.Interchange
import Interpolation.Proofs.Splicing
import Interpolation.Source

/-!
# What sources answer and record

A source does not look at the record that it is given: it adds to it, and what it adds and what it
answers are functions of the name (`resolver_run`).  These functions are `Source.answer` and
`Source.lookups`.  So a run of an expander with a source is the run with those answers, and its
record is what the source adds for the names of that run, one after the other (`replace_source`).

A chain that is made longer answers as before where it had an answer, and else as what has been
appended (`answer_chain_append_of_ne_absent`, `answer_chain_append_of_absent`).
-/

set_option autoImplicit false

namespace Interpolation

/-! ## Chains of resolvers -/

namespace Resolver

variable {σ : Type} {name : Value} {s : σ}

/-- A chain goes on where its first resolver has no answer, and else it stops. -/
theorem chain_cons {first : Resolver σ} {rest : List (Resolver σ)} :
    chain (first :: rest) name s =
      match (first name s).1 with
      | .absent => chain rest name (first name s).2
      | reply => (reply, (first name s).2) := by
  show (match (first name s).1 with
    | .absent => chain rest name
    | reply => pure reply) (first name s).2 = _
  cases (first name s).1 <;> rfl

theorem chain_cons_of_absent {first : Resolver σ} {rest : List (Resolver σ)}
    (h : (first name s).1 = .absent) :
    chain (first :: rest) name s = chain rest name (first name s).2 := by
  rw [chain_cons, h]

theorem chain_cons_of_ne_absent {first : Resolver σ} {rest : List (Resolver σ)}
    (h : (first name s).1 ≠ .absent) :
    chain (first :: rest) name s = first name s := by
  rw [chain_cons]
  split
  · exact absurd ‹_› h
  · rfl

variable {resolvers more : List (Resolver σ)}

/-- A longer chain asks what has been appended where the chain had no answer. -/
theorem chain_append_of_absent (h : (chain resolvers name s).1 = .absent) :
    chain (resolvers ++ more) name s = chain more name (chain resolvers name s).2 := by
  induction resolvers generalizing s with
  | nil => rfl
  | cons first rest ih =>
    by_cases hfirst : (first name s).1 = .absent
    · rw [chain_cons_of_absent hfirst] at h ⊢
      rw [List.cons_append, chain_cons_of_absent hfirst, ih h]
    · rw [chain_cons_of_ne_absent hfirst] at h
      exact absurd h hfirst

/-- A longer chain does as the chain where the chain had an answer. -/
theorem chain_append_of_ne_absent (h : (chain resolvers name s).1 ≠ .absent) :
    chain (resolvers ++ more) name s = chain resolvers name s := by
  induction resolvers generalizing s with
  | nil => exact absurd rfl h
  | cons first rest ih =>
    by_cases hfirst : (first name s).1 = .absent
    · rw [chain_cons_of_absent hfirst] at h ⊢
      rw [List.cons_append, chain_cons_of_absent hfirst, ih h]
    · rw [List.cons_append, chain_cons_of_ne_absent hfirst, chain_cons_of_ne_absent hfirst]

end Resolver

namespace Source

variable {environment : Environment} {name : Value}

/-! ## Answers and look-ups -/

/-- What a source says to a name. -/
def answer (environment : Environment) (source : Source) (name : Value) : Reply :=
  (source.resolver environment name []).1

/-- The look-ups that a source records when it is asked for a name. -/
def lookups (environment : Environment) (source : Source) (name : Value) : List Lookup :=
  (source.resolver environment name []).2

/-- A resolver that only adds to its record, and to which the record so far makes no difference. -/
def OnlyAdds (resolver : Resolver (List Lookup)) : Prop :=
  ∀ name record, resolver name record = ((resolver name []).1, record ++ (resolver name []).2)

theorem onlyAdds_of_pure (reply : Value → Reply) : OnlyAdds fun name => pure (reply name) := by
  intro name record
  show (reply name, record) = (reply name, record ++ [])
  rw [List.append_nil]

/-- A chain of resolvers that only add to their records does so too. -/
theorem OnlyAdds.chain {resolvers : List (Resolver (List Lookup))}
    (h : ∀ resolver ∈ resolvers, OnlyAdds resolver) : OnlyAdds (Resolver.chain resolvers) := by
  intro name record
  induction resolvers generalizing record with
  | nil =>
    show (Reply.absent, record) = (.absent, record ++ [])
    rw [List.append_nil]
  | cons first rest ih =>
    have ih := ih fun resolver hmem => h resolver (List.mem_cons_of_mem _ hmem)
    have hfirst := h first List.mem_cons_self name record
    by_cases habsent : (first name []).1 = .absent
    · have habsent' : (first name record).1 = .absent := by rw [hfirst, habsent]
      rw [Resolver.chain_cons_of_absent habsent, Resolver.chain_cons_of_absent habsent', hfirst,
        ih (record ++ (first name []).2), ih (first name []).2, List.append_assoc]
    · have habsent' : (first name record).1 ≠ .absent := by rw [hfirst]; exact habsent
      rw [Resolver.chain_cons_of_ne_absent habsent, Resolver.chain_cons_of_ne_absent habsent',
        hfirst]

mutual

/-- A source only adds to the record. -/
theorem onlyAdds_resolver (environment : Environment) :
    (source : Source) → OnlyAdds (source.resolver environment)
  | table entries => onlyAdds_of_pure (entryOf entries)
  | .environment stem given => onlyAdds_of_pure fun name =>
    .ofValue? (Value.member? (given.getD environment.members) (stem.plain ++ name.plain))
  | function answer => onlyAdds_of_pure fun name => answer name.plain
  | custom _ answer => onlyAdds_of_pure fun name => answer name.plain
  | tagged tag inner => by
    intro name record
    have hinner := onlyAdds_resolver environment inner name
    show inner.resolver environment name (record ++ [⟨tag, name.plain⟩]) =
      ((inner.resolver environment name [⟨tag, name.plain⟩]).1,
        record ++ (inner.resolver environment name [⟨tag, name.plain⟩]).2)
    rw [hinner (record ++ _), hinner [_], List.append_assoc]
  | chain sources => OnlyAdds.chain (onlyAdds_resolvers environment sources)

/-- Sources only add to the record. -/
theorem onlyAdds_resolvers (environment : Environment) :
    (sources : List Source) → ∀ resolver ∈ resolvers environment sources, OnlyAdds resolver
  | [] => by
    intro resolver hmem
    cases hmem
  | first :: rest => by
    intro resolver hmem
    rcases List.mem_cons.mp hmem with rfl | hmem
    · exact onlyAdds_resolver environment first
    · exact onlyAdds_resolvers environment rest resolver hmem

end

/-- What a source does when it is asked for a name: it gives its answer, and adds its look-ups to
the record. -/
theorem resolver_run (environment : Environment) (source : Source) (name : Value)
    (record : List Lookup) :
    source.resolver environment name record =
      (source.answer environment name, record ++ source.lookups environment name) :=
  onlyAdds_resolver environment source name record

/-- The tag does not change the answers. -/
theorem answer_tagged (tag : Text) (source : Source) :
    (tagged tag source).answer environment name = source.answer environment name := by
  show (source.resolver environment name [⟨tag, name.plain⟩]).1 = _
  rw [resolver_run]

/-- A tagged source records the name before what the source records. -/
theorem lookups_tagged (tag : Text) (source : Source) :
    (tagged tag source).lookups environment name =
      ⟨tag, name.plain⟩ :: source.lookups environment name := by
  show (source.resolver environment name [⟨tag, name.plain⟩]).2 = _
  rw [resolver_run]
  rfl

/-! ## Chains of sources -/

theorem resolver_chain (sources : List Source) :
    (chain sources).resolver environment = Resolver.chain (resolvers environment sources) :=
  rfl

theorem resolvers_eq_map (sources : List Source) :
    resolvers environment sources = sources.map (resolver environment) := by
  induction sources with
  | nil => rfl
  | cons first rest ih => rw [resolvers, ih, List.map_cons]

theorem resolvers_append (sources more : List Source) :
    resolvers environment (sources ++ more) =
      resolvers environment sources ++ resolvers environment more := by
  simp only [resolvers_eq_map, List.map_append]

/-- A chain answers as its first source, or else as the others. -/
theorem answer_chain_cons (first : Source) (rest : List Source) :
    (chain (first :: rest)).answer environment name =
      match first.answer environment name with
      | .absent => (chain rest).answer environment name
      | reply => reply := by
  have hrest : (Resolver.chain (resolvers environment rest) name
      (first.lookups environment name)).1 = (chain rest).answer environment name := by
    rw [← resolver_chain, resolver_run]
  rw [← hrest, answer, resolver_chain, resolvers, Resolver.chain_cons]
  show (match first.answer environment name with
    | .absent => Resolver.chain (resolvers environment rest) name (first.lookups environment name)
    | reply => (reply, first.lookups environment name)).1 = _
  cases first.answer environment name <;> rfl

/-- A chain has no answer where none of its sources has one. -/
theorem answer_chain_eq_absent_iff {sources : List Source} :
    (chain sources).answer environment name = .absent ↔
      ∀ source ∈ sources, source.answer environment name = .absent := by
  -- the record that the first sources leave makes no difference to the others
  have hrecord : ∀ record : List Lookup,
      (Resolver.chain (resolvers environment sources) name record).1 = .absent ↔
        ∀ source ∈ sources, source.answer environment name = .absent := by
    induction sources with
    | nil =>
      intro record
      exact iff_of_true rfl fun source hmem => absurd hmem List.not_mem_nil
    | cons first rest ih =>
      intro record
      have hfirst := resolver_run environment first name record
      rw [resolvers, List.forall_mem_cons]
      by_cases habsent : first.answer environment name = .absent
      · have hreply : (first.resolver environment name record).1 = .absent := by
          rw [hfirst, habsent]
        rw [Resolver.chain_cons_of_absent hreply, ih]
        simp only [habsent, true_and]
      · have hreply : (first.resolver environment name record).1 ≠ .absent := by
          rw [hfirst]
          exact habsent
        rw [Resolver.chain_cons_of_ne_absent hreply]
        exact iff_of_false hreply fun h => habsent h.1
  exact hrecord []

section Append

variable {sources more : List Source}

/-- A chain that has been made longer answers as what has been appended, where it had no answer. -/
theorem answer_chain_append_of_absent
    (h : (chain sources).answer environment name = .absent) :
    (chain (sources ++ more)).answer environment name =
      (chain more).answer environment name := by
  rw [answer, resolver_chain, resolvers_append, Resolver.chain_append_of_absent h,
    ← resolver_chain, resolver_run]

/-- A chain that has been made longer does as before where it had an answer. -/
theorem answer_chain_append_of_ne_absent
    (h : (chain sources).answer environment name ≠ .absent) :
    (chain (sources ++ more)).answer environment name =
        (chain sources).answer environment name ∧
      (chain (sources ++ more)).lookups environment name =
        (chain sources).lookups environment name := by
  have hrun : (chain (sources ++ more)).resolver environment name [] =
      (chain sources).resolver environment name [] := by
    rw [resolver_chain, resolvers_append, Resolver.chain_append_of_ne_absent h, ← resolver_chain]
  exact ⟨congrArg Prod.fst hrun, congrArg Prod.snd hrun⟩

end Append

/-! ## Runs with sources -/

/-- A source is in step with its answers, where its record holds its look-ups for the names that
have been asked for. -/
theorem inStep_recording (environment : Environment) (source : Source) (record : List Lookup) :
    Resolver.InStep
      (fun found asked =>
        found = record ++ asked.flatMap fun name => source.lookups environment (.text name))
      (source.resolver environment)
      (Resolver.recording fun name => source.answer environment (.text name)) := by
  intro name found asked hfound
  rw [resolver_run]
  refine ⟨rfl, ?_⟩
  show found ++ _ = record ++ (asked ++ [name]).flatMap _
  rw [hfound, List.flatMap_append, List.flatMap_singleton, List.append_assoc]

end Source

/-- Resolving a text with a source comes to what its answers come to, and records its look-ups for
the names that were asked for. -/
theorem Expander.replace_source (e : Expander) (environment : Environment) (source : Source)
    (text : Text) (ledger : Ledger (List Lookup)) :
    let transcript := e.transcript (fun name => source.answer environment (.text name)) text
    (e.replace (.text text) (.usable (source.resolver environment))).run ledger =
      (transcript.outcome,
        ⟨ledger.source ++
            transcript.asked.flatMap fun name => source.lookups environment (.text name),
          ledger.log ++ transcript.log⟩) := by
  dsimp only
  have hstart : ledger.source = ledger.source ++
      ([] : List Text).flatMap fun name => source.lookups environment (.text name) := by
    rw [List.flatMap_nil, List.append_nil]
  obtain ⟨houtcome, hrecord, hlog⟩ :=
    e.replace_of_inStep (source.inStep_recording environment ledger.source) text ledger
      ⟨[], ledger.log⟩ hstart rfl
  rw [replace_run] at houtcome hrecord hlog
  rcases hrun : (e.replace (.text text) (.usable (source.resolver environment))).run ledger with
    ⟨outcome, ⟨record, log⟩⟩
  rw [hrun] at houtcome hrecord hlog
  dsimp only at houtcome hrecord hlog
  rw [houtcome, hrecord, hlog, List.nil_append]

end Interpolation
