import Interpolation.Proofs.SpelledMembers

/-!
# The limits of the reader of JSON text

A reader stops where a whole number has more digits than it takes, and where lists and objects stand
deeper in each other than it goes (`Problem.OverLimit`).  The limits do nothing else: two readers
with any limits agree, that is, what the one reads the other one reads too, unless it goes over a
limit of its own (`Agrees`).  There is one lemma for each reader, which asks for the agreement of
the readers of what stands inside, and one induction on the length of the text (`agrees_readers`).

So a text that holds an object, whatever limits are enough for it, is read as this object or is a
text with a number that is too long or with too deep an object (`HoldsObject.holdsObject_or_read`).
-/

set_option autoImplicit false

namespace Interpolation

namespace Json

open Characters

variable {longest longest' : Nat} {text : Characters} {α : Type}

/-- What a text has too much of for a reader. -/
inductive Problem.OverLimit (longest : Nat) : Problem → Prop
  | digits {digits : Nat} : longest < digits → OverLimit longest (.tooManyDigits digits)
  | depth (container : Container) : OverLimit longest (.tooDeep container)

/-- A reader gives what another one gives, unless it goes over a limit. -/
def Agrees (longest : Nat) (read read' : Read α text) : Prop :=
  ∀ result, read' = .ok result →
    read = .ok result ∨ ∃ stop, read = .error stop ∧ stop.1.OverLimit longest

theorem Agrees.refl (read : Read α text) : Agrees longest read read :=
  fun _ h => .inl h

/-- Readers of a later part of a text agree on the text from an earlier place on. -/
theorem Agrees.widen {before : Characters} {read read' : Read α before}
    (h : Agrees longest read read') (le : before.length ≤ text.length) :
    Agrees longest (read.widen le) (read'.widen le) := by
  intro result hresult
  cases read' with
  | error stop => cases hresult
  | ok result' =>
    rcases h result' rfl with rfl | ⟨stop, rfl, hover⟩
    · exact .inl hresult
    · exact .inr ⟨stop, rfl, hover⟩

/-! ## One lemma for each reader -/

/-- A number has one value, unless it has too many digits. -/
theorem Literal.value_eq_or (literal : Literal) (longest : Nat) {value : Value}
    (h : literal.value longest' = .ok value) :
    literal.value longest = .ok value ∨
      ∃ digits, literal.value longest = .error digits ∧ longest < digits := by
  unfold Literal.value at h ⊢
  split at h
  · rename_i hwhole
    rw [if_pos hwhole]
    split at h
    · cases h
    · by_cases hlong : longest < literal.whole.length
      · exact .inr ⟨_, if_pos hlong, hlong⟩
      · exact .inl ((if_neg hlong).trans h)
  · rename_i hwhole
    rw [if_neg hwhole]
    exact .inl h

theorem agrees_readPlain (text : Characters) :
    Agrees longest (readPlain longest text) (readPlain longest' text) := by
  intro result h
  unfold readPlain at h ⊢
  split at h
  · exact .inl h
  · split at h
    · cases h
    · rename_i literal rest hliteral
      split at h
      · rename_i value hvalue
        rcases literal.value_eq_or longest hvalue with hsame | ⟨digits, hlong, hlt⟩
        · left
          rw [hsame]
          exact h
        · right
          rw [hlong]
          exact ⟨_, rfl, .digits hlt⟩
      · cases h

/-- Values agree, if what is read inside them does. -/
theorem agrees_readValue_of {room room' : Nat}
    (hitems : ∀ inner : Characters, inner.length < text.length → ∀ room room',
      Agrees longest (readItems longest room [] inner) (readItems longest' room' [] inner))
    (hmembers : ∀ inner : Characters, inner.length < text.length → ∀ room room',
      Agrees longest (readMembers longest room [] inner) (readMembers longest' room' [] inner)) :
    Agrees longest (readValue longest room text) (readValue longest' room' text) := by
  intro result h
  unfold readValue at h ⊢
  split at h
  · exact .inl h
  · rename_i rest
    have hshort := length_skipBlanks_lt_cons '[' rest
    split at h
    · cases h
    · cases room with
      | zero => exact .inr ⟨_, rfl, .depth .list⟩
      | succ room =>
        dsimp only
        split at h
        · exact .inl h
        · split at h
          · cases h
          · rename_i items after lt hread
            rcases hitems _ hshort room _ _ hread with hsame | ⟨stop, hstop, hover⟩
            · left
              rw [hsame]
              exact h
            · right
              rw [hstop]
              exact ⟨stop, rfl, hover⟩
  · rename_i rest
    have hshort := length_skipBlanks_lt_cons '\x7b' rest
    split at h
    · cases h
    · cases room with
      | zero => exact .inr ⟨_, rfl, .depth .object⟩
      | succ room =>
        dsimp only
        split at h
        · exact .inl h
        · split at h
          · cases h
          · rename_i members after lt hread
            rcases hmembers _ hshort room _ _ hread with hsame | ⟨stop, hstop, hover⟩
            · left
              rw [hsame]
              exact h
            · right
              rw [hstop]
              exact ⟨stop, rfl, hover⟩
  · exact agrees_readPlain _ _ h

/-- The items of a list agree, if the first value and the items behind it do. -/
theorem agrees_readItems_of {room room' : Nat} (before : List Value)
    (hvalue : Agrees longest (readValue longest room text) (readValue longest' room' text))
    (hitems : ∀ inner : Characters, inner.length < text.length → ∀ before,
      Agrees longest (readItems longest room before inner)
        (readItems longest' room' before inner)) :
    Agrees longest (readItems longest room before text) (readItems longest' room' before text) := by
  intro result h
  unfold readItems at h ⊢
  split at h
  · cases h
  · rename_i value behind lt hread
    rcases hvalue _ hread with hsame | ⟨stop, hstop, hover⟩
    · rw [hsame]
      dsimp only
      split at h
      · exact .inl h
      · rename_i rest hcomma
        have hshort := (length_skipBlanks_lt hcomma).trans lt
        exact (hitems _ hshort _).widen _ result h
      · cases h
    · right
      rw [hstop]
      exact ⟨stop, rfl, hover⟩

/-- The members of an object agree, if the first value and the members behind it do. -/
theorem agrees_readMembers_of {room room' : Nat} (before : List (Text × Value))
    (hvalue : ∀ inner : Characters, inner.length < text.length →
      Agrees longest (readValue longest room inner) (readValue longest' room' inner))
    (hmembers : ∀ inner : Characters, inner.length < text.length → ∀ before,
      Agrees longest (readMembers longest room before inner)
        (readMembers longest' room' before inner)) :
    Agrees longest (readMembers longest room before text)
      (readMembers longest' room' before text) := by
  intro result h
  unfold readMembers at h ⊢
  split at h
  · cases h
  · rename_i name colon lt hname
    have hshort := (length_skipBlanks_le colon).trans_lt lt
    dsimp only at h ⊢
    split at h
    · cases h
    · rename_i value behind lt' hread
      rcases hvalue _ hshort _ hread with hsame | ⟨stop, hstop, hover⟩
      · rw [hsame]
        dsimp only
        split at h
        · exact .inl h
        · rename_i rest hcomma
          have hshort' := ((length_skipBlanks_lt hcomma).trans lt').trans hshort
          exact (hmembers _ hshort' _).widen _ result h
        · cases h
      · right
        rw [hstop]
        exact ⟨stop, rfl, hover⟩

/-! ## All readers -/

/-- Readers of values, items and members agree, whatever their limits. -/
theorem agrees_readers (longest longest' : Nat) (text : Characters) :
    (∀ room room', Agrees longest (readValue longest room text) (readValue longest' room' text)) ∧
    (∀ room room' before, Agrees longest (readItems longest room before text)
      (readItems longest' room' before text)) ∧
    ∀ room room' before, Agrees longest (readMembers longest room before text)
      (readMembers longest' room' before text) := by
  induction hn : text.length using Nat.strongRecOn generalizing text with
  | ind n ih =>
    subst hn
    have hvalue : ∀ room room',
        Agrees longest (readValue longest room text) (readValue longest' room' text) :=
      fun room room' => agrees_readValue_of
        (fun inner hlt room room' => (ih _ hlt inner rfl).2.1 room room' [])
        fun inner hlt room room' => (ih _ hlt inner rfl).2.2 room room' []
    refine ⟨hvalue, fun room room' before => ?_, fun room room' before => ?_⟩
    · exact agrees_readItems_of before (hvalue room room') fun inner hlt =>
        (ih _ hlt inner rfl).2.1 room room'
    · exact agrees_readMembers_of before (fun inner hlt => (ih _ hlt inner rfl).1 room room')
        fun inner hlt => (ih _ hlt inner rfl).2.2 room room'

/-- An object is not read where its members are not. -/
theorem readValue_of_readMembers_error {room : Nat} {rest : Characters} {stop : Stop}
    (htext : text = '\x7b' :: rest) (hinner : ∀ after, skipBlanks rest ≠ '\x7d' :: after)
    (h : readMembers longest room [] (skipBlanks rest) = .error stop) :
    readValue longest (room + 1) text = .error stop := by
  subst htext
  rw [readValue]
  split
  · rename_i after hempty
    exact absurd hempty (hinner after)
  · rw [h]

/-- What stops the reading of the members is the fault of the text. -/
theorem read_of_readMembers_error {room : Nat} {rest place : Characters} {problem : Problem}
    (htext : skipBlanks text = '\x7b' :: rest) (hinner : ∀ after, skipBlanks rest ≠ '\x7d' :: after)
    (h : readMembers longest room [] (skipBlanks rest) = .error (problem, place)) :
    read longest (room + 1) text =
      .error (Fault.at text problem (text.length - place.length)) := by
  rw [read, if_neg (head?_ne_byteOrderMark htext), readValue_of_readMembers_error htext hinner h]

/-- A text that holds an object within some limits holds this object within any others too, or it is
read as a text that goes over them. -/
theorem HoldsObject.holdsObject_or_read {room : Nat} {written : List (Text × Value)}
    (h : HoldsObject longest' room text written) (longest room' : Nat) :
    HoldsObject longest room' text written ∨
      ∃ fault, read longest (room' + 1) text = .error fault ∧ fault.problem.OverLimit longest := by
  cases h with
  | empty hbrace hclose hrest => exact .inl (.empty hbrace hclose hrest)
  | members hbrace hinner hread hrest =>
    rcases (agrees_readers longest longest' _).2.2 room' room [] _ hread with
      hsame | ⟨⟨problem, place⟩, hstop, hover⟩
    · exact .inl (.members hbrace hinner hsame hrest)
    · exact .inr ⟨_, read_of_readMembers_error hbrace hinner hstop, hover⟩

/-! ## An object with one whole number -/

/-- A character of a text that stands for itself between quotes. -/
def IsPlain (c : Char) : Prop :=
  c ≠ '"' ∧ c ≠ '\\' ∧ 0x20 ≤ c.toNat

/-- Plain characters are read as they stand, up to the closing quote. -/
theorem readText_of_isPlain {name : Characters} (h : ∀ c ∈ name, IsPlain c) (opened : Characters)
    (before : Text) (rest : Characters) :
    readText opened before (name ++ '"' :: rest) =
      .ok (before.reverse ++ .ofCharacters name, rest) := by
  induction name generalizing before with
  | nil =>
    rw [List.nil_append, readText, Text.ofCharacters, List.map_nil, List.append_nil]
  | cons c name ih =>
    obtain ⟨hquote, hbackslash, hcontrol⟩ := h c List.mem_cons_self
    have hrest := ih (fun d hd => h d (List.mem_cons_of_mem c hd)) (.char c :: before)
    rw [List.cons_append, readText, if_neg (Nat.not_lt.mpr hcontrol), hrest, List.reverse_cons,
      List.append_assoc]
    · rfl
    · exact fun h => hquote h
    · exact fun h => hbackslash h

/-- A name of plain characters is read as it stands, up to the colon behind it. -/
theorem readName_of_isPlain {name : Characters} (h : ∀ c ∈ name, IsPlain c) (rest : Characters) :
    ∃ lt, readName ('"' :: (name ++ '"' :: ':' :: rest)) =
      .ok (.ofCharacters name, ⟨rest, lt⟩) := by
  have htext : ∀ opened, readText opened [] (name ++ '"' :: ':' :: rest) =
      .ok (.ofCharacters name, ':' :: rest) :=
    fun opened => readText_of_isPlain h opened [] (':' :: rest)
  obtain ⟨lt, hquoted⟩ : ∃ lt, readQuoted (name ++ '"' :: ':' :: rest) =
      .ok (.ofCharacters name, ⟨':' :: rest, lt⟩) := by
    unfold readQuoted
    split
    · rename_i hread
      cases hread.symm.trans (htext _)
      exact ⟨length_of_readText hread, rfl⟩
    · rename_i hread
      cases hread.symm.trans (htext _)
  have hcolon : skipBlanks (':' :: rest) = ':' :: rest := List.dropWhile_cons_of_neg (by decide)
  refine ⟨by simp only [List.length_cons, List.length_append] at lt ⊢; omega, ?_⟩
  rw [readName, hquoted]
  dsimp only
  split
  · rename_i hafter
    cases hafter.symm.trans hcolon
    rfl
  · rename_i hother
    exact absurd hcolon (hother rest)

/-- A digit does not start a word. -/
theorem readWord?_of_isDigit {c : Char} (h : c.isDigit = true) (rest : Characters) :
    readWord? (c :: rest) = none := by
  have hwords : ∀ word ∈ words, ∃ d tail, word.1 = d :: tail ∧ d.isDigit = false := by
    simp [words]
  rw [readWord?, Option.map_eq_none_iff, List.find?_eq_none]
  intro word hmem hstarts
  obtain ⟨d, tail, htail, hd⟩ := hwords word hmem
  rw [htail, List.isPrefixOf_cons_cons] at hstarts
  have hsame : d = c := by simpa using (Bool.and_eq_true_iff.mp hstarts).1
  rw [hsame, h] at hd
  cases hd

/-- A numeral before a closing brace is a literal. -/
theorem readLiteral?_of_isNumeral {numeral : Characters} (h : IsNumeral numeral)
    (rest : Characters) :
    readLiteral? (numeral ++ '\x7d' :: rest) =
      some (⟨false, numeral, [], none⟩, '\x7d' :: rest) := by
  obtain ⟨c, digits, rfl⟩ := List.exists_cons_of_ne_nil h.digits.1
  have hhead : (c :: digits ++ '\x7d' :: rest).head? ≠ some '-' := by
    intro hminus
    cases hminus
    have hdigit := h.digits.2 '-' List.mem_cons_self
    cases hdigit
  have hbrace : ∀ d, ('\x7d' :: rest).head? = some d → d.isDigit = false := by
    rintro d ⟨⟩
    rfl
  rw [readLiteral?_of_head? hhead, readUnsigned?, readWhole?_of_isNumeral h hbrace]
  rfl

theorem skipBlanks_of_isNumeral {numeral : Characters} (h : IsNumeral numeral)
    (rest : Characters) : skipBlanks (numeral ++ rest) = numeral ++ rest := by
  obtain ⟨c, digits, rfl⟩ := List.exists_cons_of_ne_nil h.digits.1
  refine List.dropWhile_cons_of_neg fun hblank => ?_
  have hdigit := h.digits.2 c List.mem_cons_self
  simp only [isBlank, Bool.or_eq_true, decide_eq_true_eq] at hblank
  rcases hblank with ((rfl | rfl) | rfl) | rfl <;> cases hdigit

/-- A whole number before a closing brace is read as it stands, if it is not too long. -/
theorem readValue_of_isNumeral {numeral : Characters} (h : IsNumeral numeral)
    (longest room : Nat) (rest : Characters) :
    ∃ lt, readValue longest room (skipBlanks (numeral ++ '\x7d' :: rest)) =
      if longest < numeral.length then
        .error (.tooManyDigits numeral.length, numeral ++ '\x7d' :: rest)
      else .ok (.int (wholeNumber numeral), ⟨'\x7d' :: rest, lt⟩) := by
  rw [skipBlanks_of_isNumeral h]
  have hliteral := readLiteral?_of_isNumeral h rest
  obtain ⟨c, digits, rfl⟩ := List.exists_cons_of_ne_nil h.digits.1
  have hdigit := h.digits.2 c List.mem_cons_self
  have hword := readWord?_of_isDigit hdigit (digits ++ '\x7d' :: rest)
  have hplain : c ≠ '"' ∧ c ≠ '[' ∧ c ≠ '\x7b' := by
    refine ⟨?_, ?_, ?_⟩
    all_goals
      rintro rfl
      cases hdigit
  rw [readValue_of_head? rfl hplain]
  unfold readPlain
  split
  · rename_i hread
    cases hread.symm.trans hword
  · split
    · rename_i hread
      cases hread.symm.trans hliteral
    · rename_i hread
      cases hread.symm.trans hliteral
      rw [Literal.value_of_isWhole ⟨rfl, rfl⟩]
      refine ⟨length_of_readLiteral? hread, ?_⟩
      by_cases hlong : longest < (c :: digits).length
      · rw [if_pos hlong, if_pos hlong]
      · rw [if_neg hlong, if_neg hlong]
        rfl

/-- An object with one member: a name of plain characters, and a whole number. -/
def oneNumber (name numeral : Characters) : Characters :=
  '\x7b' :: '"' :: (name ++ '"' :: ':' :: (numeral ++ ['\x7d']))

section OneNumber

variable {name numeral : Characters} (hname : ∀ c ∈ name, IsPlain c) (hnumeral : IsNumeral numeral)
include hname hnumeral

/-- An object with a whole number is read where this has no more digits than the reader takes. -/
theorem holdsObject_oneNumber (hle : numeral.length ≤ longest) (room : Nat) :
    HoldsObject longest room (oneNumber name numeral)
      [(.ofCharacters name, .int (wholeNumber numeral))] := by
  obtain ⟨lt, hread⟩ := readName_of_isPlain hname (numeral ++ ['\x7d'])
  obtain ⟨lt', hvalue⟩ := readValue_of_isNumeral hnumeral longest room []
  rw [if_neg (Nat.not_lt.mpr hle)] at hvalue
  have hmembers : SpellsMembers longest room _ [⟨.ofCharacters name, numeral, _⟩] [] :=
    .last hread hvalue (skipBlanks_of_isNumeral hnumeral _) rfl
  exact holdsObject_iff.mpr ⟨_, .members rfl hmembers rfl, rfl⟩

/-- With more digits it is not. -/
theorem read_oneNumber (hlt : longest < numeral.length) (room : Nat) :
    ∃ fault, read longest (room + 1) (oneNumber name numeral) = .error fault ∧
      fault.problem = .tooManyDigits numeral.length := by
  obtain ⟨lt, hread⟩ := readName_of_isPlain hname (numeral ++ ['\x7d'])
  obtain ⟨lt', hvalue⟩ := readValue_of_isNumeral hnumeral longest room []
  rw [if_pos hlt] at hvalue
  have hmembers : readMembers longest room []
      ('"' :: (name ++ '"' :: ':' :: (numeral ++ ['\x7d']))) =
        .error (.tooManyDigits numeral.length, numeral ++ ['\x7d']) := by
    rw [readMembers, hread]
    dsimp only
    rw [hvalue]
  exact ⟨_, read_of_readMembers_error rfl nofun hmembers, rfl⟩

/-- It is written in characters of ASCII that are no control characters, if the name is. -/
theorem ascii_oneNumber (hascii : ∀ c ∈ name, c.toNat < 0x80) :
    ∀ c ∈ oneNumber name numeral, 0x20 ≤ c.toNat ∧ c.toNat < 0x80 := by
  have hdigit : ∀ c ∈ numeral, 0x20 ≤ c.toNat ∧ c.toNat < 0x80 := by
    intro c hmem
    have hc := hnumeral.digits.2 c hmem
    simp only [Char.isDigit, Bool.and_eq_true, decide_eq_true_eq, UInt32.le_iff_toNat_le] at hc
    exact ⟨Nat.le_trans (by decide) hc.1, Nat.lt_of_le_of_lt hc.2 (by decide)⟩
  intro c hmem
  simp only [oneNumber, List.mem_cons, List.mem_append, List.not_mem_nil, or_false] at hmem
  rcases hmem with rfl | rfl | hmem | rfl | rfl | hmem | rfl
  case inr.inr.inl => exact ⟨(hname c hmem).2.2, hascii c hmem⟩
  case inr.inr.inr.inr.inr.inl => exact hdigit c hmem
  all_goals decide

theorem decode_oneNumber (hascii : ∀ c ∈ name, c.toNat < 0x80) :
    Utf8.decode ((oneNumber name numeral).map fun c => .ofNat c.toNat) =
      .ok (oneNumber name numeral) :=
  Utf8.decode_of_ascii fun c hmem => (ascii_oneNumber hname hnumeral hascii c hmem).2

theorem withLineFeeds_oneNumber (hascii : ∀ c ∈ name, c.toNat < 0x80) :
    (oneNumber name numeral).withLineFeeds = oneNumber name numeral :=
  Characters.withLineFeeds_of_not_mem fun hmem =>
    absurd (ascii_oneNumber hname hnumeral hascii _ hmem).1 (by decide)

end OneNumber

end Json

/-! ## Variables files -/

namespace Variables

open Json

variable {files : Files} {path : Text}

/-- The fault of what a file holds keeps its variables from being loaded. -/
theorem load_of_read_error {content : List UInt8} {text : Characters} {fault : Json.Fault}
    (hfile : files.lookUp path = .entry (.file content)) (hdecode : Utf8.decode content = .ok text)
    (hread : read Characters.digitLimit depthLimit text.withLineFeeds = .error fault) :
    load files path = .error (.json fault) := by
  rw [load, membersAt?, hfile]
  dsimp only
  rw [hdecode]
  dsimp only
  rw [membersOf, hread]
  rfl

/-- The members that a path gives within some limits are loaded, or there is too much in the file.
-/
theorem loads_or_load {longest room : Nat} {written : List (Text × Value)}
    (h : Gives longest room files path written) :
    Loads files path written ∨ ∃ fault, load files path = .error (.json fault) ∧
      fault.problem.OverLimit Characters.digitLimit := by
  cases h with
  | nothing hnothing => exact .inl (.nothing hnothing)
  | file hfile hdecode hholds =>
    rcases hholds.holdsObject_or_read Characters.digitLimit (depthLimit - 1) with
      hloads | ⟨fault, hread, hover⟩
    · exact .inl (.file hfile hdecode hloads)
    · exact .inr ⟨fault, load_of_read_error hfile hdecode hread, hover⟩

section OneNumber

variable {name numeral : Characters} (hname : ∀ c ∈ name, IsPlain c)
variable (hascii : ∀ c ∈ name, c.toNat < 0x80) (hnumeral : Characters.IsNumeral numeral)
variable (hfile : files.lookUp path =
  .entry (.file ((oneNumber name numeral).map fun c => .ofNat c.toNat)))
include hname hascii hnumeral hfile

/-- A file with one number gives it, with limits that are large enough. -/
theorem gives_oneNumber (room : Nat) : Gives numeral.length room files path
    [(.ofCharacters name, .int (Characters.wholeNumber numeral))] := by
  refine .file hfile (decode_oneNumber hname hnumeral hascii) ?_
  rw [withLineFeeds_oneNumber hname hnumeral hascii]
  exact holdsObject_oneNumber hname hnumeral (Nat.le_refl _) room

/-- With more digits than the limit the number keeps the file from being loaded. -/
theorem load_oneNumber (hlt : Characters.digitLimit < numeral.length) :
    ∃ fault, load files path = .error (.json fault) ∧
      fault.problem = .tooManyDigits numeral.length := by
  obtain ⟨fault, hread, hproblem⟩ := read_oneNumber hname hnumeral hlt (depthLimit - 1)
  rw [← withLineFeeds_oneNumber hname hnumeral hascii] at hread
  have hdecode := decode_oneNumber hname hnumeral hascii
  exact ⟨fault, load_of_read_error hfile hdecode hread, hproblem⟩

end OneNumber

end Variables

end Interpolation
