import Interpolation.Proofs.SourceAnswers

/-!
# Chains of chains

A source may be a chain of sources that are chains in their turn, to any depth.  Its *leaves* are
the sources in it that are no chains, from left to right.  `resolverOver_eq_chain` says that the
whole tree does exactly what one chain of its leaves does, so two trees with the same leaves cannot
be told apart.  The leaves may do anything there, also change their answers from one time to the
next: a `behaviour` says how each resolves, and `resolver` is one behaviour among others.

`AskedInOrder` says what one chain does: the leaves are asked from left to right, each from the
state that the one before has left, up to and including the first that has an answer.
-/

set_option autoImplicit false

namespace Interpolation

variable {σ : Type}

/-! ## Chains in chains -/

namespace Resolver

variable {resolvers more more' : List (Resolver σ)}

theorem chain_singleton (resolver : Resolver σ) : chain [resolver] = resolver := by
  funext name s
  by_cases h : (resolver name s).1 = .absent
  · rw [chain_cons_of_absent h]
    exact Prod.ext h.symm rfl
  · exact chain_cons_of_ne_absent h

/-- A chain at the start of a chain may be written out. -/
theorem chain_chain_cons : chain (chain resolvers :: more) = chain (resolvers ++ more) := by
  funext name s
  by_cases h : (chain resolvers name s).1 = .absent
  · rw [chain_cons_of_absent h, chain_append_of_absent h]
  · rw [chain_cons_of_ne_absent h, chain_append_of_ne_absent h]

theorem chain_append_congr (h : chain more = chain more') :
    chain (resolvers ++ more) = chain (resolvers ++ more') := by
  funext name s
  by_cases hanswer : (chain resolvers name s).1 = .absent
  · rw [chain_append_of_absent hanswer, chain_append_of_absent hanswer, h]
  · rw [chain_append_of_ne_absent hanswer, chain_append_of_ne_absent hanswer]

end Resolver

/-- Whether a reply is an answer: a text, also the empty one, a value that is no text, or that the
resolver has failed. -/
def Reply.isAnswer : Reply → Bool
  | absent => false
  | _ => true

theorem Reply.isAnswer_eq_false_iff {reply : Reply} : reply.isAnswer = false ↔ reply = .absent := by
  cases reply <;> simp [isAnswer]

namespace Source

/-! ## Leaves -/

mutual

/-- The sources in a tree of chains that are no chains, from left to right. -/
def leaves : Source → List Source
  | chain sources => leavesOf sources
  | leaf => [leaf]

def leavesOf : List Source → List Source
  | [] => []
  | first :: rest => leaves first ++ leavesOf rest

end

mutual

/-- The resolver of a tree of chains, where a behaviour says how each leaf resolves. -/
def resolverOver (behaviour : Source → Resolver σ) : Source → Resolver σ
  | chain sources => Resolver.chain (resolversOver behaviour sources)
  | leaf => behaviour leaf

def resolversOver (behaviour : Source → Resolver σ) : List Source → List (Resolver σ)
  | [] => []
  | first :: rest => resolverOver behaviour first :: resolversOver behaviour rest

end

mutual

/-- Where the leaves resolve as they do in an environment, so does the tree. -/
theorem resolverOver_resolver (environment : Environment) :
    (source : Source) → source.resolverOver (resolver environment) = source.resolver environment
  | chain sources => congrArg Resolver.chain (resolversOver_resolver environment sources)
  | table _ | .environment .. | function _ | custom .. | tagged .. => rfl

theorem resolversOver_resolver (environment : Environment) :
    (sources : List Source) →
      resolversOver (resolver environment) sources = resolvers environment sources
  | [] => rfl
  | first :: rest => by
    rw [resolversOver, resolvers, resolverOver_resolver environment first,
      resolversOver_resolver environment rest]

end

mutual

/-- A tree of chains does what one chain of its leaves does. -/
theorem resolverOver_eq_chain (behaviour : Source → Resolver σ) :
    (source : Source) →
      source.resolverOver behaviour = Resolver.chain (source.leaves.map behaviour)
  | chain sources => chain_resolversOver behaviour sources
  | table _ | .environment .. | function _ | custom .. | tagged .. =>
    (Resolver.chain_singleton _).symm

theorem chain_resolversOver (behaviour : Source → Resolver σ) :
    (sources : List Source) →
      Resolver.chain (resolversOver behaviour sources) =
        Resolver.chain ((leavesOf sources).map behaviour)
  | [] => rfl
  | first :: rest => by
    rw [resolversOver, leavesOf, List.map_append, resolverOver_eq_chain behaviour first,
      Resolver.chain_chain_cons]
    exact Resolver.chain_append_congr (chain_resolversOver behaviour rest)

end

/-! ## Asking in order -/

section AskedInOrder

variable (behaviour : Source → Resolver σ) (name : Value)

/-- Sources that are asked for a name one after the other, from one state to another, none of which
has an answer. -/
inductive Silent : (sources : List Source) → (s s' : σ) → Prop
  | nil (s : σ) : Silent [] s s
  | cons {source : Source} {rest : List Source} {s s' s'' : σ} :
    behaviour source name s = (.absent, s') → Silent rest s' s'' → Silent (source :: rest) s s''

/-- What asking sources in order for a name comes to, from one state to another: which of them are
asked, and the reply. -/
inductive AskedInOrder : (sources : List Source) → (s : σ) → (asked : List Source) →
    (reply : Reply) → (s' : σ) → Prop
  /-- All are asked, and none has an answer. -/
  | unanswered {sources : List Source} {s s' : σ} : Silent behaviour name sources s s' →
    AskedInOrder sources s sources .absent s'
  /-- Those before the first that has an answer are asked, and it itself, and its answer counts. -/
  | answered {silent later : List Source} {first : Source} {reply : Reply} {s s' s'' : σ} :
    Silent behaviour name silent s s' → behaviour first name s' = (reply, s'') →
    reply ≠ .absent → AskedInOrder (silent ++ first :: later) s (silent ++ [first]) reply s''

/-- A behaviour that also notes the sources that are asked. -/
def noting : Source → Resolver (σ × List Source) := fun source name state =>
  ((behaviour source name state.1).1, ((behaviour source name state.1).2, state.2 ++ [source]))

variable {behaviour name}

/-- A source without an answer may be asked before the others. -/
theorem AskedInOrder.cons {source : Source} {sources asked : List Source} {reply : Reply}
    {s s' s'' : σ} (hfirst : behaviour source name s = (.absent, s'))
    (h : AskedInOrder behaviour name sources s' asked reply s'') :
    AskedInOrder behaviour name (source :: sources) s (source :: asked) reply s'' := by
  cases h with
  | unanswered hsilent => exact .unanswered (.cons hfirst hsilent)
  | answered hsilent hreply hanswer => exact .answered (.cons hfirst hsilent) hreply hanswer

/-- A chain of sources asks them in order, and that is what is noted. -/
theorem askedInOrder_chain (behaviour : Source → Resolver σ) (name : Value) (sources : List Source)
    (s : σ) (notes : List Source) :
    ∃ asked reply s', AskedInOrder behaviour name sources s asked reply s' ∧
      Resolver.chain (sources.map behaviour) name s = (reply, s') ∧
      Resolver.chain (sources.map (noting behaviour)) name (s, notes) =
        (reply, (s', notes ++ asked)) := by
  induction sources generalizing s notes with
  | nil => exact ⟨[], .absent, s, .unanswered (.nil s), rfl, by rw [List.append_nil]; rfl⟩
  | cons source rest ih =>
    rcases hfirst : behaviour source name s with ⟨reply, s'⟩
    have hnoted : noting behaviour source name (s, notes) = (reply, (s', notes ++ [source])) := by
      rw [noting, hfirst]
    by_cases habsent : reply = .absent
    · subst habsent
      obtain ⟨asked, reply, s'', hasked, hrun, hnotes⟩ := ih s' (notes ++ [source])
      refine ⟨source :: asked, reply, s'', hasked.cons hfirst, ?_, ?_⟩
      · rw [List.map_cons, Resolver.chain_cons_of_absent (by rw [hfirst]), hfirst, hrun]
      · rw [List.map_cons, Resolver.chain_cons_of_absent (by rw [hnoted]), hnoted, hnotes,
          List.append_assoc, List.singleton_append]
    · refine ⟨[source], reply, s', .answered (.nil s) hfirst habsent, ?_, ?_⟩
      · rw [List.map_cons, Resolver.chain_cons_of_ne_absent (by rw [hfirst]; exact habsent), hfirst]
      · rw [List.map_cons, Resolver.chain_cons_of_ne_absent (by rw [hnoted]; exact habsent), hnoted]

end AskedInOrder

/-! ## Trees with the same leaves -/

/-- A chain answers with the first answer of its sources. -/
theorem answer_chain_eq_find? (environment : Environment) (sources : List Source) (name : Value) :
    (chain sources).answer environment name =
      ((sources.map (·.answer environment name)).find? Reply.isAnswer).getD .absent := by
  induction sources with
  | nil => rfl
  | cons first rest ih =>
    rw [answer_chain_cons, List.map_cons]
    by_cases h : first.answer environment name = .absent
    · rw [h, ih]
      rfl
    · have hanswer : (first.answer environment name).isAnswer = true := by
        rw [← Bool.not_eq_false, Reply.isAnswer_eq_false_iff]
        exact h
      rw [List.find?_cons_of_pos hanswer]
      cases hreply : first.answer environment name with
      | absent => exact absurd hreply h
      | text _ | other _ | fault _ => rfl

/-- A tree of chains is a list of its leaves in order of priority.  It answers a name with the first
answer of the leaves from left to right.  The leaves are asked in this order, each at most once, up
to and including the first that has an answer, also where what they answer may change; the tree in
an environment is one such case.  So two trees with the same leaves make the same resolver, and
whatever an expander does with the one it does with the other. -/
theorem resolver_of_leaves (source : Source) :
    (∀ (environment : Environment) (name : Value),
      source.answer environment name =
        ((source.leaves.map (·.answer environment name)).find? Reply.isAnswer).getD .absent) ∧
    (∀ environment : Environment,
      source.resolverOver (resolver environment) = source.resolver environment) ∧
    (∀ {σ : Type} (behaviour : Source → Resolver σ) (name : Value) (s : σ),
      ∃ asked reply s', AskedInOrder behaviour name source.leaves s asked reply s' ∧
        source.resolverOver behaviour name s = (reply, s') ∧
        source.resolverOver (noting behaviour) name (s, []) = (reply, (s', asked))) ∧
    ∀ other : Source, other.leaves = source.leaves →
      ∀ {σ : Type} (behaviour : Source → Resolver σ),
        other.resolverOver behaviour = source.resolverOver behaviour ∧
        ∀ (e : Expander) (text : Value) (ledger : Ledger σ),
          (e.replace text (.usable (other.resolverOver behaviour))).run ledger =
            (e.replace text (.usable (source.resolverOver behaviour))).run ledger ∧
          (e.report text (.usable (other.resolverOver behaviour))).run ledger =
            (e.report text (.usable (source.resolverOver behaviour))).run ledger := by
  refine ⟨?_, fun environment => resolverOver_resolver environment source, ?_, ?_⟩
  · intro environment name
    have hchain : source.resolver environment = (chain source.leaves).resolver environment := by
      rw [← resolverOver_resolver, resolverOver_eq_chain, resolver_chain, resolvers_eq_map]
    rw [← answer_chain_eq_find?, answer, hchain, ← answer]
  · intro σ behaviour name s
    obtain ⟨asked, reply, s', hasked, hrun, hnotes⟩ :=
      askedInOrder_chain behaviour name source.leaves s []
    rw [resolverOver_eq_chain, resolverOver_eq_chain]
    exact ⟨asked, reply, s', hasked, hrun, hnotes⟩
  · intro other hleaves σ behaviour
    have hsame : other.resolverOver behaviour = source.resolverOver behaviour := by
      rw [resolverOver_eq_chain, resolverOver_eq_chain, hleaves]
    refine ⟨hsame, fun e text ledger => ?_⟩
    rw [hsame]
    exact ⟨rfl, rfl⟩

/-- Three sources may be put into chains of two in either way; the empty text that the first one has
for a name is an answer. -/
theorem resolver_of_leaves_regrouped :
    let first := table [("a".text, .text [])]
    let second := function fun name => .text name
    let third := Source.environment (.text []) none
    let tree := chain [chain [first, second], third]
    let other := chain [first, chain [second, third]]
    other.leaves = tree.leaves ∧ other.resolver [] = tree.resolver [] ∧
    tree.answer [] (.text "a".text) = .text [] ∧
    tree.answer [] (.text "b".text) = .text "b".text := by
  intro first second third tree other
  have hleaves : other.leaves = tree.leaves := rfl
  obtain ⟨hanswer, hover, -, hsame⟩ := resolver_of_leaves tree
  have hresolver : other.resolver [] = tree.resolver [] := by
    rw [← hover, ← (hsame other hleaves (resolver [])).1, (resolver_of_leaves other).2.1]
  refine ⟨hleaves, hresolver, ?_, ?_⟩
  · rw [hanswer]
    rfl
  · rw [hanswer]
    rfl

end Source

end Interpolation
