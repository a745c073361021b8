import Interpolation.Proofs.FileVariables
import Interpolation.Proofs.NumberLiterals

/-!
# Members with the characters of their values

The members of an object are read one by one, and what is left behind each value is an end of the
text (`leavesEnd`): so between the place where a value starts and what is left stand the characters
that it is written in.  `SpellsMembers` keeps them with the members, and `SpellsObject` says that a
text holds an object with such members; a text holds an object exactly if it does so with the
characters (`holdsObject_iff`).

What these characters say is what has been read: each value is read from a text that starts with
them (`SpellsObject.readValue_of_mem`).
-/

set_option autoImplicit false

namespace Interpolation

namespace Json

variable {longest : Nat} {text : Characters}

/-! ## What is left is an end of the text -/

theorem skipBlanks_isSuffix (text : Characters) : skipBlanks text <:+ text :=
  List.dropWhile_suffix isBlank

/-- Behind a character, what follows the next blanks is shorter than the text. -/
theorem length_skipBlanks_lt_cons (c : Char) (rest : Characters) :
    (skipBlanks rest).length < (c :: rest).length :=
  Nat.lt_succ_of_le (length_skipBlanks_le rest)

/-- So it is if blanks stand before the character. -/
theorem length_skipBlanks_lt {c : Char} {rest : Characters} (h : skipBlanks text = c :: rest) :
    (skipBlanks rest).length < text.length := by
  have htext := length_skipBlanks_le text
  rw [h] at htext
  exact (length_skipBlanks_lt_cons c rest).trans_le htext

theorem isSuffix_of_readCode? {read : Nat × Characters} (h : readCode? text = some read) :
    read.2 <:+ text := by
  unfold readCode? at h
  split at h
  · rename_i a b c d next rest
    obtain ⟨code, -, rfl⟩ := Option.map_eq_some_iff.mp h
    exact ⟨[a, b, c, d], rfl⟩
  · cases h

theorem isSuffix_of_readEscape {read : Nat × Characters} (h : readEscape text = .ok read) :
    read.2 <:+ text := by
  unfold readEscape at h
  split at h
  · cases h
  · rename_i digits
    split at h
    · cases h
    · rename_i code rest hcode
      have hrest : rest <:+ 'u' :: digits :=
        (isSuffix_of_readCode? hcode).trans (List.suffix_cons _ _)
      split at h
      · rename_i digits'
        split at h
        · split at h
          · cases h
          · rename_i low rest' hlow
            have hrest' : rest' <:+ '\\' :: 'u' :: digits' :=
              (isSuffix_of_readCode? hlow).trans (List.suffix_append ['\\', 'u'] _)
            split at h
            · simp only [Except.ok.injEq] at h
              subst h
              exact hrest'.trans hrest
            · simp only [Except.ok.injEq] at h
              subst h
              exact hrest
        · simp only [Except.ok.injEq] at h
          subst h
          exact hrest
      · simp only [Except.ok.injEq] at h
        subst h
        exact hrest
  · split at h
    · cases h
      exact List.suffix_cons _ _
    · cases h

theorem isSuffix_of_readText {opened : Characters} {before : Text} {read : Text × Characters}
    (h : readText opened before text = .ok read) : read.2 <:+ text := by
  fun_induction readText opened before text with
  | case1 => cases h
  | case2 =>
    cases h
    exact List.suffix_cons _ _
  | case3 => cases h
  | case4 => cases h
  | case5 before rest _ code rest' hescape ih =>
    have hrest := isSuffix_of_readEscape hescape
    exact ((ih h).trans hrest).trans (List.suffix_cons _ _)
  | case6 => cases h
  | case7 before c rest _ _ _ ih => exact (ih h).trans (List.suffix_cons _ _)

/-- A reader that leaves an end of the text, where it succeeds. -/
def LeavesEnd {α : Type} (read : Read α text) : Prop :=
  ∀ result after, read = .ok (result, after) → after.val <:+ text

/-- Blanks and a character may be skipped before what is left. -/
theorem isSuffix_of_skipBlanks {c : Char} {rest : Characters} (h : skipBlanks text = c :: rest) :
    rest <:+ text :=
  (h ▸ List.suffix_cons c rest).trans (skipBlanks_isSuffix text)

theorem leavesEnd_readQuoted (text : Characters) : LeavesEnd (readQuoted text) := by
  intro name after h
  unfold readQuoted at h
  split at h
  · rename_i htext
    cases h
    exact isSuffix_of_readText htext
  · cases h

theorem leavesEnd_readName (text : Characters) : LeavesEnd (readName text) := by
  intro name after h
  unfold readName at h
  split at h
  · rename_i rest
    split at h
    · cases h
    · rename_i hquoted
      split at h
      · rename_i hcolon
        cases h
        have hend := (isSuffix_of_skipBlanks hcolon).trans (leavesEnd_readQuoted rest _ _ hquoted)
        exact hend.trans (List.suffix_cons _ _)
      · cases h
  · cases h

theorem leavesEnd_readPlain (longest : Nat) (text : Characters) :
    LeavesEnd (readPlain longest text) := by
  intro value after h
  rcases cases_of_readPlain h with ⟨word, -, htext⟩ | ⟨_, spelling, -, -, htext⟩
  · exact ⟨word, htext.symm⟩
  · exact ⟨spelling, htext.symm⟩

/-- A value leaves an end of the text, if what is read inside it does. -/
theorem leavesEnd_readValue_of {room : Nat}
    (hitems : ∀ inner : Characters, inner.length < text.length → ∀ room,
      LeavesEnd (readItems longest room [] inner))
    (hmembers : ∀ inner : Characters, inner.length < text.length → ∀ room,
      LeavesEnd (readMembers longest room [] inner)) : LeavesEnd (readValue longest room text) := by
  intro value after h
  unfold readValue at h
  split at h
  · rename_i rest
    split at h
    · cases h
    · rename_i hquoted
      cases h
      exact (leavesEnd_readQuoted rest _ _ hquoted).trans (List.suffix_cons _ _)
  · rename_i rest
    have hshort := length_skipBlanks_lt_cons '[' rest
    split at h
    · cases h
    · split at h
      · rename_i hbracket
        cases h
        exact (isSuffix_of_skipBlanks hbracket).trans (List.suffix_cons _ _)
      · split at h
        · cases h
        · rename_i hread
          cases h
          have hend := (hitems _ hshort _ _ _ hread).trans (skipBlanks_isSuffix rest)
          exact hend.trans (List.suffix_cons _ _)
  · rename_i rest
    have hshort := length_skipBlanks_lt_cons '\x7b' rest
    split at h
    · cases h
    · split at h
      · rename_i hbrace
        cases h
        exact (isSuffix_of_skipBlanks hbrace).trans (List.suffix_cons _ _)
      · split at h
        · cases h
        · rename_i hread
          cases h
          have hend := (hmembers _ hshort _ _ _ hread).trans (skipBlanks_isSuffix rest)
          exact hend.trans (List.suffix_cons _ _)
  · exact leavesEnd_readPlain _ _ _ _ h

/-- A reader for a later part of a text leaves what it leaves of that part. -/
theorem eq_ok_of_widen {α : Type} {before : Characters} {le : before.length ≤ text.length}
    {read : Read α before} {result : α}
    {after : { after : Characters // after.length < text.length }}
    (h : read.widen le = .ok (result, after)) :
    ∃ after', read = .ok (result, after') ∧ after'.val = after.val := by
  cases read with
  | error stop => cases h
  | ok read =>
    cases h
    exact ⟨read.2, rfl, rfl⟩

/-- The items of a list leave an end of the text, if the first value and the items behind it do. -/
theorem leavesEnd_readItems_of {room : Nat} (before : List Value)
    (hvalue : LeavesEnd (readValue longest room text))
    (hitems : ∀ inner : Characters, inner.length < text.length → ∀ before,
      LeavesEnd (readItems longest room before inner)) :
    LeavesEnd (readItems longest room before text) := by
  intro items after h
  unfold readItems at h
  split at h
  · cases h
  · rename_i value behind lt hread
    have hbehind := hvalue _ _ hread
    split at h
    · rename_i hbracket
      cases h
      exact (isSuffix_of_skipBlanks hbracket).trans hbehind
    · rename_i rest hcomma
      have hrest := (isSuffix_of_skipBlanks hcomma).trans hbehind
      obtain ⟨after', hthere, hsame⟩ := eq_ok_of_widen h
      have hinner := (skipBlanks_isSuffix rest).trans hrest
      have hshort := (length_skipBlanks_lt hcomma).trans lt
      rw [← hsame]
      exact (hitems _ hshort _ _ _ hthere).trans hinner
    · cases h

/-- The members of an object leave an end of the text, if the first value and the members behind it
do. -/
theorem leavesEnd_readMembers_of {room : Nat} (before : List (Text × Value))
    (hvalue : ∀ inner : Characters, inner.length < text.length →
      LeavesEnd (readValue longest room inner))
    (hmembers : ∀ inner : Characters, inner.length < text.length → ∀ before,
      LeavesEnd (readMembers longest room before inner)) :
    LeavesEnd (readMembers longest room before text) := by
  intro members after h
  unfold readMembers at h
  split at h
  · cases h
  · rename_i name colon lt hname
    have hcolon := (skipBlanks_isSuffix colon).trans (leavesEnd_readName text _ _ hname)
    have hshort := (length_skipBlanks_le colon).trans_lt lt
    dsimp only at h
    split at h
    · cases h
    · rename_i value behind lt' hread
      have hbehind := (hvalue _ hshort _ _ hread).trans hcolon
      split at h
      · rename_i hbrace
        cases h
        exact (isSuffix_of_skipBlanks hbrace).trans hbehind
      · rename_i rest hcomma
        have hrest := (isSuffix_of_skipBlanks hcomma).trans hbehind
        obtain ⟨after', hthere, hsame⟩ := eq_ok_of_widen h
        have hinner := (skipBlanks_isSuffix rest).trans hrest
        have hshort' := ((length_skipBlanks_lt hcomma).trans lt').trans hshort
        rw [← hsame]
        exact (hmembers _ hshort' _ _ _ hthere).trans hinner
      · cases h

/-- Values, items and members leave an end of the text. -/
theorem leavesEnd (text : Characters) :
    (∀ room, LeavesEnd (readValue longest room text)) ∧
    (∀ room before, LeavesEnd (readItems longest room before text)) ∧
    ∀ room before, LeavesEnd (readMembers longest room before text) := by
  induction hn : text.length using Nat.strongRecOn generalizing text with
  | ind n ih =>
    subst hn
    have hvalue : ∀ room, LeavesEnd (readValue longest room text) := fun room =>
      leavesEnd_readValue_of (fun inner hlt room => (ih _ hlt inner rfl).2.1 room [])
        fun inner hlt room => (ih _ hlt inner rfl).2.2 room []
    refine ⟨hvalue, fun room before => ?_, fun room before => ?_⟩
    · exact leavesEnd_readItems_of before (hvalue room) fun inner hlt =>
        (ih _ hlt inner rfl).2.1 room
    · exact leavesEnd_readMembers_of before (fun inner hlt => (ih _ hlt inner rfl).1 room)
        fun inner hlt => (ih _ hlt inner rfl).2.2 room

/-! ## Members with the characters of their values -/

/-- A member of an object, with the characters that its value is written in. -/
structure SpelledMember where
  name : Text
  spelling : Characters
  value : Value

/-- A member, but for the characters. -/
def SpelledMember.entry (member : SpelledMember) : Text × Value :=
  (member.name, member.value)

/-- The members that are written at the start of a text, up to the closing brace, and what stands
behind it. -/
inductive SpellsMembers (longest room : Nat) : Characters → List SpelledMember → Characters → Prop
  | last {text spelling rest : Characters} {name : Text} {value : Value}
    {colon : { after : Characters // after.length < text.length }}
    {after : { after : Characters // after.length < (skipBlanks colon).length }} :
    readName text = .ok (name, colon) →
    readValue longest room (skipBlanks colon) = .ok (value, after) →
    skipBlanks colon = spelling ++ after.val → skipBlanks after = '\x7d' :: rest →
    SpellsMembers longest room text [⟨name, spelling, value⟩] rest
  | more {text spelling rest left : Characters} {name : Text} {value : Value}
    {members : List SpelledMember} {colon : { after : Characters // after.length < text.length }}
    {after : { after : Characters // after.length < (skipBlanks colon).length }} :
    readName text = .ok (name, colon) →
    readValue longest room (skipBlanks colon) = .ok (value, after) →
    skipBlanks colon = spelling ++ after.val → skipBlanks after = ',' :: rest →
    SpellsMembers longest room (skipBlanks rest) members left →
    SpellsMembers longest room text (⟨name, spelling, value⟩ :: members) left

/-- Members that are read are written at the start of the text. -/
theorem spellsMembers_of_readMembers {text : Characters} {room : Nat}
    {before members : List (Text × Value)}
    {after : { after : Characters // after.length < text.length }}
    (h : readMembers longest room before text = .ok (members, after)) :
    ∃ spelled, SpellsMembers longest room text spelled after.val ∧
      members = before ++ spelled.map SpelledMember.entry := by
  unfold readMembers at h
  split at h
  · cases h
  · rename_i name colon lt hname
    dsimp only at h
    split at h
    · cases h
    · rename_i value behind lt' hvalue
      obtain ⟨spelling, hspelling⟩ := (leavesEnd _).1 _ _ _ hvalue
      split at h
      · rename_i rest hbrace
        cases h
        exact ⟨[⟨name, spelling, value⟩], .last hname hvalue hspelling.symm hbrace, rfl⟩
      · rename_i rest hcomma
        obtain ⟨after', hthere, hsame⟩ := eq_ok_of_widen h
        have hcolon := (length_skipBlanks_le colon).trans_lt lt
        have hshort := ((length_skipBlanks_lt hcomma).trans lt').trans hcolon
        obtain ⟨spelled, hspelled, rfl⟩ := spellsMembers_of_readMembers hthere
        refine ⟨⟨name, spelling, value⟩ :: spelled,
          .more hname hvalue hspelling.symm hcomma (hsame ▸ hspelled), ?_⟩
        rw [List.map_cons, List.append_assoc, List.singleton_append]
        rfl
      · cases h
termination_by text.length

/-- Members are read as they are written. -/
theorem readMembers_of_spellsMembers {room : Nat} {spelled : List SpelledMember} {left : Characters}
    (h : SpellsMembers longest room text spelled left) (before : List (Text × Value)) :
    ∃ after, readMembers longest room before text =
      .ok (before ++ spelled.map SpelledMember.entry, after) ∧ after.val = left := by
  induction h generalizing before with
  | @last text spelling rest name value colon after hname hvalue _ hbrace =>
    unfold readMembers
    rw [hname]
    dsimp only
    rw [hvalue]
    dsimp only
    split
    · rename_i rest' hbrace'
      exact ⟨_, rfl, (List.cons.inj (hbrace'.symm.trans hbrace)).2⟩
    · rename_i hcomma
      cases hcomma.symm.trans hbrace
    · rename_i hother _
      exact absurd hbrace (hother rest)
  | @more text spelling rest left name value members colon after hname hvalue _ hcomma _ ih =>
    obtain ⟨after', hread, hleft⟩ := ih (before ++ [(name, value)])
    unfold readMembers
    rw [hname]
    dsimp only
    rw [hvalue]
    dsimp only
    split
    · rename_i hbrace
      cases hbrace.symm.trans hcomma
    · rename_i rest' hcomma'
      obtain rfl : rest' = rest := (List.cons.inj (hcomma'.symm.trans hcomma)).2
      rw [hread, List.map_cons, List.append_assoc, List.singleton_append]
      exact ⟨_, rfl, hleft⟩
    · rename_i hother
      exact absurd hcomma (hother rest)

/-- Members start with the quote of a name. -/
theorem SpellsMembers.head? {room : Nat} {members : List SpelledMember} {left : Characters}
    (h : SpellsMembers longest room text members left) : text.head? = some '"' := by
  have hquote : ∀ {name : Text} {colon : { after : Characters // after.length < text.length }},
      readName text = .ok (name, colon) → text.head? = some '"' := by
    intro name colon hname
    unfold readName at hname
    split at hname
    · rfl
    · cases hname
  cases h with
  | last hname => exact hquote hname
  | more hname => exact hquote hname

/-- A text that holds an object, with the characters of the values of its members. -/
inductive SpellsObject (longest room : Nat) (text : Characters) : List SpelledMember → Prop
  | empty {rest after : Characters} : skipBlanks text = '\x7b' :: rest →
    skipBlanks rest = '\x7d' :: after → skipBlanks after = [] → SpellsObject longest room text []
  | members {rest left : Characters} {members : List SpelledMember} :
    skipBlanks text = '\x7b' :: rest →
    SpellsMembers longest room (skipBlanks rest) members left → skipBlanks left = [] →
    SpellsObject longest room text members

/-- A text holds an object where it holds one with the characters of the values. -/
theorem holdsObject_iff {room : Nat} {written : List (Text × Value)} :
    HoldsObject longest room text written ↔
      ∃ members, SpellsObject longest room text members ∧
        written = members.map SpelledMember.entry := by
  constructor
  · intro h
    cases h with
    | empty hbrace hclose hrest => exact ⟨[], .empty hbrace hclose hrest, rfl⟩
    | members hbrace _ hread hrest =>
      obtain ⟨members, hspells, rfl⟩ := spellsMembers_of_readMembers hread
      exact ⟨members, .members hbrace hspells hrest, rfl⟩
  · rintro ⟨members, h, rfl⟩
    cases h with
    | empty hbrace hclose hrest => exact .empty hbrace hclose hrest
    | @members rest left members hbrace hspells hrest =>
      obtain ⟨after, hread, rfl⟩ := readMembers_of_spellsMembers hspells []
      refine .members hbrace ?_ hread hrest
      intro after' hclose
      have hquote := hspells.head?
      rw [hclose] at hquote
      cases hquote

/-- The value of a member is read from a text that starts with its characters. -/
theorem SpellsMembers.readValue_of_mem {room : Nat} {members : List SpelledMember}
    {left : Characters} (h : SpellsMembers longest room text members left)
    {member : SpelledMember} (hmem : member ∈ members) :
    ∃ (inner : Characters) (after : { after : Characters // after.length < inner.length }),
      readValue longest room inner = .ok (member.value, after) ∧
        inner = member.spelling ++ after.val := by
  induction h with
  | last _ hvalue hspelling _ =>
    obtain rfl := List.mem_singleton.mp hmem
    exact ⟨_, _, hvalue, hspelling⟩
  | more _ hvalue hspelling _ _ ih =>
    rcases List.mem_cons.mp hmem with rfl | hmem
    · exact ⟨_, _, hvalue, hspelling⟩
    · exact ih hmem

/-- The value of a member of an object is read from a text that starts with its characters. -/
theorem SpellsObject.readValue_of_mem {room : Nat} {members : List SpelledMember}
    (h : SpellsObject longest room text members) {member : SpelledMember}
    (hmem : member ∈ members) :
    ∃ (inner : Characters) (after : { after : Characters // after.length < inner.length }),
      readValue longest room inner = .ok (member.value, after) ∧
        inner = member.spelling ++ after.val := by
  cases h with
  | empty => cases hmem
  | members _ hspells _ => exact hspells.readValue_of_mem hmem

/-! ## The last member of a name -/

/-- The last member that is written for a name. -/
def SpelledMember.last? (members : List SpelledMember) (name : Text) :
    Option SpelledMember :=
  (members.filter (·.name = name)).getLast?

/-- The last value that is written for a name is that of its last member. -/
theorem lastWritten?_map_entry (members : List SpelledMember) (name : Text) :
    Value.lastWritten? (members.map SpelledMember.entry) name =
      (SpelledMember.last? members name).map SpelledMember.value := by
  have hvalues : ((members.map SpelledMember.entry).filterMap fun m =>
      if m.1 = name then some m.2 else none) =
        (members.filter (·.name = name)).map SpelledMember.value := by
    induction members with
    | nil => rfl
    | cons member members ih =>
      rw [List.map_cons, List.filterMap_cons, ih]
      by_cases hname : member.name = name <;> simp [SpelledMember.entry, hname]
  rw [Value.lastWritten?, hvalues, List.getLast?_map, SpelledMember.last?]

end Json

end Interpolation
