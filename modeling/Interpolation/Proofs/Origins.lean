import Interpolation.Program.Sources
import Interpolation.Proofs.FileVariables
import Interpolation.Proofs.SourceAnswers

/-!
# The origins of values

An item defines the name before its first equals sign, and gives it the text behind the sign.  Items
are read as definitions where each of them defines a name, and a name has its last definition
(`definitionsOf_eq`, `lastWritten?_definition?`).

The source of certain origins answers with a text or not at all: a definition comes before a
variable of the environment, and this before an entry of the variables file (`answer_source`).
-/

set_option autoImplicit false

namespace Interpolation

namespace Text

theorem indexOf?_singleton (c : CodePoint) (text : Text) :
    indexOf? [c] text = if c ∈ text then some (text.takeWhile (· ≠ c)).length else none := by
  induction text with
  | nil => rfl
  | cons d rest ih =>
    rw [indexOf?, ih]
    by_cases hd : c = d
    · simp [hd]
    · have hne : d ≠ c := fun h => hd h.symm
      by_cases hrest : c ∈ rest <;> simp [hd, hne, hrest]

/-- A text is cut at a character that stands in it. -/
theorem cutAt?_singleton (c : CodePoint) (text : Text) :
    cutAt? [c] text =
      if c ∈ text then
        some (text.takeWhile (· ≠ c), text.drop ((text.takeWhile (· ≠ c)).length + 1))
      else none := by
  rw [cutAt?, indexOf?_singleton]
  split
  · rw [Option.map_some]
    congr 2
    exact (List.prefix_iff_eq_take.mp (List.takeWhile_prefix _)).symm
  · rfl

end Text

namespace Program

/-! ## Definitions -/

/-- An item with an equals sign and something before it. -/
def isDefinition (item : Text) : Bool :=
  .char '=' ∈ item ∧ item.head? ≠ some (.char '=')

/-- The value that an item gives to a name: the text behind its first equals sign, if the name is
what stands before that. -/
def valueFor? (name item : Text) : Option Text :=
  if .char '=' ∈ item ∧ item.takeWhile (· ≠ .char '=') = name then
    some (item.drop (name.length + 1))
  else none

/-- The value that the last of several items for a name gives to it. -/
def lastDefinition? (items : List Text) (name : Text) : Option Text :=
  (items.filterMap (valueFor? name)).getLast?

theorem definition?_eq (item : Text) :
    definition? item =
      if isDefinition item then
        some (item.takeWhile (· ≠ .char '='),
          item.drop ((item.takeWhile (· ≠ .char '=')).length + 1))
      else none := by
  rw [definition?, Text.cutAt?_singleton, isDefinition]
  cases item with
  | nil => rfl
  | cons c rest =>
    by_cases hc : c = .char '='
    · simp [hc]
    · have hne : .char '=' ≠ c := fun h => hc h.symm
      by_cases hrest : .char '=' ∈ rest <;> simp [hc, hne, hrest]

/-- Items are read as definitions up to the first one that is none. -/
theorem definitionsOf_eq (before : List (Text × Text)) (items : List Text) :
    definitionsOf before items =
      match items.find? (!isDefinition ·) with
      | some item => .error item
      | none => .ok ((items.filterMap definition?).foldl
        (fun definitions d => Value.setMember definitions d.1 d.2) before) := by
  induction items generalizing before with
  | nil => rfl
  | cons item rest ih =>
    rw [definitionsOf]
    cases hitem : isDefinition item with
    | false =>
      have hnone : definition? item = none := by rw [definition?_eq, hitem]; rfl
      rw [hnone, List.find?_cons_of_pos (by simp [hitem])]
    | true =>
      have hsome := definition?_eq item
      rw [if_pos hitem] at hsome
      rw [hsome, List.find?_cons_of_neg (by simp [hitem]), List.filterMap_cons_some hsome,
        List.foldl_cons]
      exact ih _

/-- A name is given its last definition. -/
theorem lastWritten?_definition? {items : List Text} (h : ∀ item ∈ items, isDefinition item)
    (name : Text) :
    Value.lastWritten? (items.filterMap definition?) name = lastDefinition? items name := by
  rw [Value.lastWritten?, lastDefinition?, List.filterMap_filterMap]
  congr 1
  apply List.filterMap_congr
  intro item hmem
  have hitem := h item hmem
  have hequals : .char '=' ∈ item := by
    rw [isDefinition, decide_eq_true_eq] at hitem
    exact hitem.1
  rw [definition?_eq, if_pos hitem, valueFor?]
  by_cases hname : item.takeWhile (· ≠ .char '=') = name
  · subst hname
    simp [hequals]
  · dsimp only [Option.bind_some]
    rw [if_neg hname, if_neg fun h => hname h.2]

end Program

/-! ## Answers that are texts -/

namespace Source

variable {environment : Environment} {name : Value}

/-- Where the sources of a chain answer with texts, the chain answers with the first one. -/
theorem answer_chain_cons_of_texts {first : Source} {rest : List Source}
    {found other : Option Text}
    (hfirst : first.answer environment name = .ofValue? (found.map .text))
    (hrest : (chain rest).answer environment name = .ofValue? (other.map .text)) :
    (chain (first :: rest)).answer environment name =
      .ofValue? ((found.or other).map .text) := by
  rw [answer_chain_cons, hfirst, hrest]
  cases found <;> rfl

end Source

namespace Program

theorem answer_tableOf (entries : List (Text × Text)) (environment : Environment) (name : Text) :
    (tableOf entries).answer environment (.text name) =
      .ofValue? (((entries.find? (·.1 = name)).map (·.2)).map .text) := by
  show Reply.ofValue?
    (Value.member? (entries.map fun entry => (entry.1, Value.text entry.2)) name) = _
  rw [Value.member?, List.find?_map, Option.map_map, Option.map_map]
  rfl

theorem answer_environment (stem : Text) (environment : Environment) (name : Text) :
    (Source.environment (.text stem) none).answer environment (.text name) =
      .ofValue? ((environment.get? (stem ++ name)).map .text) := by
  show Reply.ofValue? (Value.member? environment.members (stem ++ name)) = _
  rw [Value.member?, Environment.members, List.find?_map, Option.map_map, Environment.get?,
    Option.map_map]
  rfl

/-- What the source of origins says to a name: a definition comes first, then a variable of the
environment if that is looked at, and then an entry of the file. -/
theorem Origins.answer_source (origins : Origins) (entries : List (Text × Text))
    (environment : Environment) (name : Text) :
    (origins.source entries).answer environment (.text name) =
      .ofValue? ((((origins.definitions.find? (·.1 = name)).map (·.2)).or
        ((if origins.fromEnvironment then environment.get? (origins.stem ++ name) else none).or
          ((entries.find? (·.1 = name)).map (·.2)))).map .text) := by
  have hfile : (Source.chain [tableOf entries]).answer environment (.text name) =
      .ofValue? (((entries.find? (·.1 = name)).map (·.2)).map .text) := by
    have hnone : (Source.chain []).answer environment (.text name) =
        .ofValue? ((none : Option Text).map .text) := rfl
    have hchain := Source.answer_chain_cons_of_texts (answer_tableOf entries environment name) hnone
    rwa [Option.or_none] at hchain
  rw [source, List.append_assoc, List.singleton_append]
  apply Source.answer_chain_cons_of_texts (answer_tableOf _ environment name)
  cases origins.fromEnvironment with
  | false => exact hfile
  | true =>
    exact Source.answer_chain_cons_of_texts (answer_environment _ environment name) hfile

end Program

end Interpolation
