import Interpolation.Proofs.Actions
import Interpolation.Proofs.ReaderLimits

/-!
# The sources of a command line

The options of the group give items, a switch for the environment with a stem, and a variables file.
Where an item is no definition, the command line cannot be followed.  Else all commands have one
source, which is one map from names to texts: to a name it says its last definition, or else the
variable of the environment if that is looked at, or else the last value in the file.

The map has texts only, so a command never fails because of what the source says.

The reader of variables files has limits.  A file with an object that goes over them is not loaded:
a number with too many digits makes the command line one that cannot be followed, and with too deep
an object the program breaks off (`runWords_of_overLimit`).
-/

set_option autoImplicit false

namespace Interpolation

namespace Program

open CommandLine

/-- What the sources that options give say to a name. -/
def mergedValue? (reading : Reading) (environment : Environment) (written : List (Text × Value))
    (name : Text) : Option Text :=
  (lastDefinition? (reading.values "define") name).or
    ((if (reading.switch? "env").getD false then
        environment.get? ((reading.value? "env_prefix").getD [] ++ name)
      else none).or
      (Variables.value? written name))

section Options

variable {world : World} {s : Settings} {words : List Text} {reading : Reading}
variable {file : Option Text} (hwords : readWords group.parameters false words = .ok reading)
variable (hfile : givenFile world.files reading = .ok file)
include hwords hfile

/-- A command line with an item that is no definition cannot be followed. -/
theorem runWords_of_not_isDefinition {item : Text}
    (hitem : (reading.values "define").find? (!isDefinition ·) = some item) :
    runWords world s words =
      .ok ⟨2, [],
        ((UsageProblem.badDefinition item).report name groupManner).withoutSequences.shown,
        [startEntry words]⟩ := by
  have hne : words ≠ [] := by
    rintro rfl
    cases hwords
    cases hitem
  rw [runWords, if_neg hne, readOrigins, hwords]
  dsimp only
  rw [origins, givenDefinitions, definitionsOf_eq, hitem, hfile]
  rfl

/-- The origins that options give, where their items are definitions. -/
def originsOf (reading : Reading) (file : Option Text) : Origins where
  definitions := Value.lastOfEach ((reading.values "define").filterMap definition?)
  fromEnvironment := (reading.switch? "env").getD false
  stem := (reading.value? "env_prefix").getD []
  file := file

variable (hitems : ∀ item ∈ reading.values "define", isDefinition item)
include hitems

/-- A command line whose items are definitions is run with the origins of its options. -/
theorem runWords_eq_runFrom {verb : Verb} {rest : List Text}
    (hverb : chooseVerb world.files reading.others = .ok (verb, rest)) :
    runWords world s words =
      runFrom world s (originsOf reading file) [startEntry words] verb rest := by
  have hne : words ≠ [] := by
    rintro rfl
    cases hwords
    cases hverb
  have hgiven : origins world.files reading = .ok (originsOf reading file) := by
    have hnone : (reading.values "define").find? (!isDefinition ·) = none := by
      rw [List.find?_eq_none]
      intro item hmem
      simp [hitems item hmem]
    rw [origins, givenDefinitions, definitionsOf_eq, hnone, hfile]
    rfl
  rw [runWords, if_neg hne, readOrigins, hwords]
  dsimp only
  rw [hgiven]
  dsimp only
  rw [hverb]

/-- A command line whose items are definitions, and whose variables are loaded, has the source of
its options. -/
theorem runWords_of_loads {written : List (Text × Value)}
    (hloads : Variables.Loads world.files (shortPath (file.getD world.defaultFile)) written) :
    ∃ (origins : Origins) (entries : List (Text × Text)) (log : List Log.Entry),
      (∀ verb rest, chooseVerb world.files reading.others = .ok (verb, rest) →
        runWords world s words = runVerb world s (origins.source entries) log verb rest) ∧
      ∀ name, (origins.source entries).answer world.environment (.text name) =
        .ofValue? ((mergedValue? reading world.environment written name).map .text) := by
  obtain ⟨entry, hload⟩ := Variables.load_eq_ok_iff.mpr ⟨written, hloads, rfl⟩
  let given := originsOf reading file
  let entries := Variables.ofMembers (Value.lastOfEach written)
  refine ⟨given, entries, [startEntry words, entry, sourceEntry (given.source entries)], ?_, ?_⟩
  · intro verb rest hverb
    rw [runWords_eq_runFrom hwords hfile hitems hverb, runFrom]
    have hpath : given.file.getD world.defaultFile = file.getD world.defaultFile := rfl
    rw [hpath, hload]
    rfl
  · intro name
    have hdefined : (given.definitions.find? (·.1 = name)).map (·.2) =
        lastDefinition? (reading.values "define") name :=
      (Value.find?_lastOfEach _ name).trans (lastWritten?_definition? hitems name)
    rw [given.answer_source entries, hdefined, Variables.find?_ofMembers_lastOfEach]
    rfl

/-- How a command line ends whose variables file goes over a limit: a number with too many digits is
complained about, and with too deep an object the program breaks off. -/
theorem runWords_of_overLimit {fault : Json.Fault}
    (hload : Variables.load world.files (shortPath (file.getD world.defaultFile)) =
      .error (.json fault))
    (hover : fault.problem.OverLimit Characters.digitLimit) :
    (∃ digits, Characters.digitLimit < digits ∧
      ∀ verb rest, chooseVerb world.files reading.others = .ok (verb, rest) →
        runWords world s words =
          .ok ⟨2, [], ((UsageProblem.badVariables (Characters.digitLimitMessage digits).text).report
            name groupManner).withoutSequences.shown, [startEntry words]⟩) ∨
    ∃ container, fault.problem = .tooDeep container ∧
      ∀ verb rest, chooseVerb world.files reading.others = .ok (verb, rest) →
        runWords world s words = .error (.file (.json fault)) := by
  have hrun : ∀ verb rest, chooseVerb world.files reading.others = .ok (verb, rest) →
      runWords world s words =
        if (Variables.Problem.json fault).isInContent then
          ofGroupEnding [startEntry words] (.problem (.badVariables fault.message.text))
        else .error (.file (.json fault)) := by
    intro verb rest hverb
    have hpath : (originsOf reading file).file = file := rfl
    rw [runWords_eq_runFrom hwords hfile hitems hverb, runFrom, hpath, hload]
    rfl
  obtain ⟨problem, position, line, column⟩ := fault
  cases hover with
  | @digits digits hlt =>
    exact .inl ⟨digits, hlt, fun verb rest hverb => (hrun verb rest hverb).trans rfl⟩
  | depth container =>
    exact .inr ⟨container, rfl, fun verb rest hverb => (hrun verb rest hverb).trans rfl⟩

omit hitems

end Options

end Program

end Interpolation
