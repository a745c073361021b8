import Interpolation.Proofs.FloatTexts
import Interpolation.Proofs.SpelledMembers

/-!
# Variables that are written as numbers and booleans

A variable whose value is written as `true` or `false` has these characters as its value, and one
that is written as a whole number has its characters too, except that the zero loses a minus sign.
A number with a fraction or an exponent is read as the nearest floating-point number, and the value
is the shortest numeral of that number: so `1.10` becomes `1.1`.  Such a number keeps its characters
only if they have the form that floating-point numbers are written in.
-/

set_option autoImplicit false

namespace Interpolation

namespace Variables

open Json

/-- A path that leads to a file with such members, with the characters of their values. -/
inductive Spells (files : Files) (path : Text) : List SpelledMember → Prop
  | file {content : List UInt8} {text : Characters} {members : List SpelledMember} :
    files.lookUp path = .entry (.file content) → Utf8.decode content = .ok text →
    SpellsObject Characters.digitLimit (depthLimit - 1) text.withLineFeeds members →
    Spells files path members

variable {files : Files} {path : Text} {members : List SpelledMember} {member : SpelledMember}

/-- The members with their characters are members that the file gives. -/
theorem Spells.loads (h : Spells files path members) :
    Loads files path (members.map SpelledMember.entry) := by
  cases h with
  | file hfile hdecode hspells =>
    exact .file hfile hdecode (holdsObject_iff.mpr ⟨members, hspells, rfl⟩)

/-- A file that gives members gives them with their characters. -/
theorem exists_spells {content : List UInt8} (hfile : files.lookUp path = .entry (.file content))
    {written : List (Text × Value)} (h : Loads files path written) :
    ∃ members, Spells files path members ∧ written = members.map SpelledMember.entry := by
  cases h with
  | nothing hnothing =>
    rw [hfile] at hnothing
    cases hnothing
  | file hfile hdecode hholds =>
    obtain ⟨members, hspells, rfl⟩ := holdsObject_iff.mp hholds
    exact ⟨members, .file hfile hdecode hspells, rfl⟩

/-- A value that is written as a word is that of the word. -/
theorem Spells.value_of_word (h : Spells files path members) (hmem : member ∈ members)
    {value : Value} (hword : (member.spelling, value) ∈ words) : member.value = value := by
  cases h with
  | file _ _ hspells =>
    obtain ⟨inner, after, hread, hinner⟩ := hspells.readValue_of_mem hmem
    exact readValue_word hword hread hinner

/-- A value that is written as a number is that of the number. -/
theorem Spells.value_of_literal (h : Spells files path members) (hmem : member ∈ members)
    {literal : Literal} (hwritten : literal.IsWritten member.spelling) :
    literal.value Characters.digitLimit = .ok member.value := by
  cases h with
  | file _ _ hspells =>
    obtain ⟨inner, after, hread, hinner⟩ := hspells.readValue_of_mem hmem
    exact readValue_literal hwritten hread hinner

/-- The value of a variable is that of its last member. -/
theorem value?_map_entry (members : List SpelledMember) {name : Text}
    (hlast : SpelledMember.last? members name = some member) :
    value? (members.map SpelledMember.entry) name = textOf? member.value := by
  rw [value?, lastWritten?_map_entry, hlast]
  rfl

/-- The value of a number is given as it is written in JSON text. -/
theorem textOf?_of_literal {longest : Nat} {literal : Literal} {value : Value}
    (h : literal.value longest = .ok value) :
    textOf? value = some (.ofCharacters (Json.write value)) := by
  by_cases hwhole : literal.IsWhole
  · rw [Literal.value_of_isWhole hwhole] at h
    split at h
    · cases h
    · cases h
      rfl
  · rw [Literal.value_of_not_isWhole hwhole] at h
    cases h
    rfl

/-- What a variables file makes of numbers and booleans.  A file that is loaded holds members with
the characters of their values, and a file that holds such members is loaded.  Of the last member of
a name, the value is `true` or `false` where it is written so; a whole number as it is written,
which has no more digits than may be read, but for the sign of zero; and the numeral of the nearest
floating-point number where a number has a fraction or an exponent, which is what is written only if
it has the form of such numerals. -/
theorem load_literals (files : Files) (path : Text) :
    (∀ content entries entry, files.lookUp path = .entry (.file content) →
      load files path = .ok (entries, entry) → ∃ members, Spells files path members) ∧
    ∀ members, Spells files path members →
      ∃ entries entry, load files path = .ok (entries, entry) ∧
        ∀ name member, SpelledMember.last? members name = some member →
          let value := (entries.find? (·.1 = name)).map (·.2)
          (member.spelling = "true".toList ∨ member.spelling = "false".toList →
            value = some (.ofCharacters member.spelling)) ∧
          ∀ literal : Literal, literal.IsWritten member.spelling →
            (literal.IsWhole → literal.whole.length ≤ Characters.digitLimit ∧
              value = some (.ofCharacters
                (if member.spelling = ['-', '0'] then ['0'] else member.spelling))) ∧
            (¬ literal.IsWhole →
              value = some (.ofCharacters (floatLayout.write literal.nearest)) ∧
              (value = some (.ofCharacters member.spelling) → IsFloatText member.spelling)) := by
  constructor
  · intro content entries entry hfile hload
    obtain ⟨written, hloads, -⟩ := load_eq_ok_iff.mp ⟨entry, hload⟩
    obtain ⟨members, hspells, -⟩ := exists_spells hfile hloads
    exact ⟨members, hspells⟩
  · intro members hspells
    obtain ⟨entry, hload⟩ := load_eq_ok_iff.mpr ⟨_, hspells.loads, rfl⟩
    refine ⟨_, entry, hload, ?_⟩
    intro name member hlast value
    have hmem : member ∈ members := (List.mem_filter.mp (List.mem_of_getLast? hlast)).1
    have hvalue : value = textOf? member.value := by
      rw [← value?_map_entry members hlast]
      exact find?_ofMembers_lastOfEach _ name
    refine ⟨?_, ?_⟩
    · intro hbool
      rw [hvalue]
      rcases hbool with hbool | hbool
      · have hword : (member.spelling, Value.bool true) ∈ words := by simp [hbool, words]
        rw [hspells.value_of_word hmem hword, hbool]
        rfl
      · have hword : (member.spelling, Value.bool false) ∈ words := by simp [hbool, words]
        rw [hspells.value_of_word hmem hword, hbool]
        rfl
    · intro literal hwritten
      have hread := hspells.value_of_literal hmem hwritten
      rw [textOf?_of_literal hread] at hvalue
      refine ⟨?_, ?_⟩
      · intro hwhole
        obtain ⟨hlength, hwrite⟩ := Literal.write_of_isWhole hwritten hwhole hread
        refine ⟨hlength, ?_⟩
        rw [hvalue, hwrite]
      · intro hnot
        rw [Literal.value_of_not_isWhole hnot] at hread
        have hfloat : value = some (.ofCharacters (floatLayout.write literal.nearest)) := by
          rw [hvalue, ← Except.ok.inj hread]
          rfl
        refine ⟨hfloat, ?_⟩
        intro hkept
        have hsame := Text.ofCharacters_inj.mp (Option.some.inj (hfloat.symm.trans hkept))
        exact hwritten.isFloatText hsame

/-- The file `{"b":true,"n":-0,"x":1E3}` gives the word as it is written, the zero without its sign,
and the numeral of a floating-point number. -/
theorem load_literals_word_zero_exponent :
    let third := "\"x\":1E3\x7d".toList
    let second := "\"n\":-0,".toList ++ third
    let first := "\"b\":true,".toList ++ second
    let content := '\x7b' :: first
    let files : Files := [(⟨false, ["v".text]⟩, .file (content.map fun c => .ofNat c.toNat))]
    ∃ entries entry, load files "v".text = .ok (entries, entry) ∧
      (entries.find? (·.1 = "b".text)).map (·.2) = some "true".text ∧
      (entries.find? (·.1 = "n".text)).map (·.2) = some "0".text ∧
      (entries.find? (·.1 = "x".text)).map (·.2) = some "1000.0".text := by
  intro third second first content files
  let zero : Literal := ⟨true, ['0'], [], none⟩
  let thousand : Literal := ⟨false, ['1'], [], some 3⟩
  let members : List SpelledMember :=
    [⟨"b".text, "true".toList, .bool true⟩, ⟨"n".text, "-0".toList, .int 0⟩,
      ⟨"x".text, "1E3".toList, .float thousand.nearest⟩]
  have hlast : SpellsMembers 4300 984 third
      [⟨"x".text, "1E3".toList, .float thousand.nearest⟩] [] := by
    have hname : readName third = .ok ("x".text, ⟨third.drop 4, by decide⟩) := by
      with_unfolding_all rfl
    have hvalue : readValue 4300 984 (third.drop 4) =
        .ok (.float thousand.nearest, ⟨third.drop 7, by decide⟩) := by with_unfolding_all rfl
    exact .last hname hvalue rfl rfl
  have hmembers : SpellsMembers 4300 984 first members [] := by
    have hname : readName first = .ok ("b".text, ⟨first.drop 4, by decide⟩) := by
      with_unfolding_all rfl
    have hvalue : readValue 4300 984 (first.drop 4) =
        .ok (.bool true, ⟨first.drop 8, by decide⟩) := by with_unfolding_all rfl
    have hname' : readName second = .ok ("n".text, ⟨second.drop 4, by decide⟩) := by
      with_unfolding_all rfl
    have hvalue' : readValue 4300 984 (second.drop 4) =
        .ok (.int 0, ⟨second.drop 6, by decide⟩) := by with_unfolding_all rfl
    exact .more hname hvalue rfl rfl (.more hname' hvalue' rfl rfl hlast)
  have hdecode : Utf8.decode (content.map fun c => .ofNat c.toNat) = .ok content := by
    with_unfolding_all rfl
  have hspells : Spells files "v".text members :=
    .file rfl hdecode (.members rfl hmembers rfl)
  have hzero : zero.IsWritten ['-', '0'] :=
    @Literal.IsWritten.parts true ['0'] [] [] [] none Characters.isNumeral_zero .none .none
  have hone : Characters.IsNumeral ['1'] := ⟨⟨by simp, by simp⟩, by simp⟩
  have hthree : Characters.IsDigits ['3'] := ⟨by simp, by simp⟩
  have hthousand : thousand.IsWritten ['1', 'E', '3'] :=
    @Literal.IsWritten.parts false ['1'] [] [] ['E', '3'] (some 3) hone .none
      (.unsigned (.inr rfl) hthree)
  obtain ⟨entries, entry, hload, hvalues⟩ := (load_literals files "v".text).2 members hspells
  refine ⟨entries, entry, hload, ?_, ?_, ?_⟩
  · exact (hvalues "b".text _ rfl).1 (.inl rfl)
  · exact (((hvalues "n".text _ rfl).2 zero hzero).1 ⟨rfl, rfl⟩).2
  · have hexponent : ¬ thousand.IsWhole := nofun
    have hwrite : floatLayout.write thousand.nearest = "1000.0".toList := by
      decide +kernel
    have hvalue := (((hvalues "x".text _ rfl).2 thousand hthousand).2 hexponent).1
    rw [hwrite] at hvalue
    exact hvalue

/-- A number with a zero at its end: the file `{"v":1.10}` gives `1.1` to the name `v`. -/
theorem load_literals_trailing_zero :
    let content := "\x7b\"v\":1.10\x7d".toList
    let files : Files := [(⟨false, ["v".text]⟩, .file (content.map fun c => .ofNat c.toNat))]
    let literal : Literal := ⟨false, ['1'], ['1', '0'], none⟩
    let member : SpelledMember := ⟨"v".text, "1.10".toList, .float literal.nearest⟩
    Spells files "v".text [member] ∧ literal.IsWritten member.spelling ∧
    (∃ entry, load files "v".text = .ok ([("v".text, "1.1".text)], entry)) ∧
    "1.1".text ≠ .ofCharacters member.spelling := by
  intro content files literal member
  have hname : readName (skipBlanks content.tail) =
      .ok ("v".text, ⟨"1.10\x7d".toList, by decide⟩) := by with_unfolding_all rfl
  have hvalue : readValue 4300 984 "1.10\x7d".toList =
      .ok (.float literal.nearest, ⟨['\x7d'], by decide⟩) := by with_unfolding_all rfl
  have hmembers : SpellsMembers 4300 984 (skipBlanks content.tail) [member] [] :=
    .last hname hvalue rfl rfl
  have hdecode : Utf8.decode (content.map fun c => .ofNat c.toNat) = .ok content := by
    with_unfolding_all rfl
  have hspells : Spells files "v".text [member] :=
    .file rfl hdecode (.members rfl hmembers rfl)
  have hwrite : floatLayout.write literal.nearest = "1.1".toList := by decide +kernel
  have hmember : ofMember? member.entry = some ("v".text, "1.1".text) := by
    show some ("v".text, Text.ofCharacters (floatLayout.write literal.nearest)) = _
    rw [hwrite]
    rfl
  have hentries : [("v".text, "1.1".text)] =
      ofMembers (Value.lastOfEach ([member].map SpelledMember.entry)) := by
    show _ = [member.entry].filterMap ofMember?
    rw [List.filterMap_cons_some hmember]
    rfl
  refine ⟨hspells, ?_, load_eq_ok_iff.mpr ⟨_, hspells.loads, hentries⟩, by decide⟩
  have hwhole : Characters.IsNumeral ['1'] := ⟨⟨by simp, by simp⟩, by simp⟩
  have hfraction : Characters.IsDigits ['1', '0'] := ⟨by simp, by simp⟩
  exact @Literal.IsWritten.parts false ['1'] ['1', '0'] _ [] none hwhole (.digits hfraction) .none

end Variables

end Interpolation
