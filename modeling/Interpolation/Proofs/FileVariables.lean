import Mathlib.Data.List.Nodup
import Interpolation.Variables

/-!
# What a variables file gives

An object is written with members in some order, and of several members with one name the last one
counts (`find?_lastOfEach`).  A text holds an object exactly where it can be read as one, and what
is read is what counts of the members that are written (`read_eq_object_iff`).

A path gives the members that are written in the file that it leads to, and where it leads nowhere,
none.  Variables are loaded exactly from the paths that give members (`load_eq_ok_iff`), and a name
then has the value of the last member that is written for it, unless this is null
(`find?_ofMembers_lastOfEach`).
-/

set_option autoImplicit false

namespace Interpolation

/-! ## Members that are written for a name -/

namespace Value

variable {κ α : Type} [DecidableEq κ]

/-- The last value that is written for a name. -/
def lastWritten? (written : List (κ × α)) (name : κ) : Option α :=
  (written.filterMap fun m => if m.1 = name then some m.2 else none).getLast?

theorem lastWritten?_cons (m : κ × α) (written : List (κ × α)) (name : κ) :
    lastWritten? (m :: written) name =
      (lastWritten? written name).or (if m.1 = name then some m.2 else none) := by
  rw [lastWritten?, List.filterMap_cons]
  split
  · rename_i h
    rw [h, Option.or_none]
    rfl
  · rename_i value h
    rw [h, List.getLast?_cons, lastWritten?]
    cases (written.filterMap fun m => if m.1 = name then some m.2 else none).getLast? <;> rfl

/-- A member that has been set is found, and the others are found as before. -/
theorem find?_setMember (members : List (κ × α)) (name key : κ) (value : α) :
    ((setMember members name value).find? (·.1 = key)).map (·.2) =
      if name = key then some value else (members.find? (·.1 = key)).map (·.2) := by
  rw [setMember]
  split
  · rename_i hany
    have hkeys : (fun m : κ × α => decide (m.1 = key)) ∘
        (fun m => if m.1 = name then (name, value) else m) = fun m => decide (m.1 = key) := by
      funext m
      by_cases hm : m.1 = name <;> simp [hm]
    rw [List.find?_map, hkeys, Option.map_map]
    by_cases hname : name = key
    · subst hname
      rw [if_pos rfl]
      obtain ⟨m, hmem, hm⟩ := List.any_eq_true.mp hany
      cases hfind : members.find? (·.1 = name) with
      | none => exact absurd hm (List.find?_eq_none.mp hfind m hmem)
      | some found =>
        have hfound : found.1 = name := by simpa using List.find?_some hfind
        simp [hfound]
    · rw [if_neg hname]
      cases hfind : members.find? (·.1 = key) with
      | none => rfl
      | some found =>
        have hfound : found.1 = key := by simpa using List.find?_some hfind
        have hother : found.1 ≠ name := fun h => hname (h.symm.trans hfound)
        simp [hother]
  · rename_i hany
    rw [List.find?_append, List.find?_singleton]
    by_cases hname : name = key
    · subst hname
      have hnone : members.find? (·.1 = name) = none := by
        rw [List.find?_eq_none]
        intro m hmem hm
        exact hany (List.any_eq_true.mpr ⟨m, hmem, hm⟩)
      simp [hnone]
    · simp [hname]

/-- After several members have been set, the last one for a name is found, or else the one that was
there before. -/
theorem find?_foldl_setMember (written members : List (κ × α)) (key : κ) :
    ((written.foldl (fun members m => setMember members m.1 m.2) members).find? (·.1 = key)).map
        (·.2) =
      (lastWritten? written key).or ((members.find? (·.1 = key)).map (·.2)) := by
  induction written generalizing members with
  | nil => rfl
  | cons m written ih =>
    rw [List.foldl_cons, ih, find?_setMember, lastWritten?_cons]
    by_cases hm : m.1 = key <;> cases lastWritten? written key <;> simp [hm]

/-- Of the members that are written for a name the last one counts. -/
theorem find?_lastOfEach (written : List (κ × α)) (key : κ) :
    ((lastOfEach written).find? (·.1 = key)).map (·.2) = lastWritten? written key := by
  rw [lastOfEach, find?_foldl_setMember]
  exact Option.or_none

/-- Setting a member makes no second one for its name. -/
theorem nodup_setMember {members : List (κ × α)} (h : (members.map (·.1)).Nodup) (name : κ)
    (value : α) : ((setMember members name value).map (·.1)).Nodup := by
  rw [setMember]
  split
  · have hkeys : (fun m : κ × α => m.1) ∘ (fun m => if m.1 = name then (name, value) else m) =
        fun m => m.1 := by
      funext m
      by_cases hm : m.1 = name <;> simp [hm]
    rw [List.map_map, hkeys]
    exact h
  · rename_i hany
    rw [List.map_append, List.map_singleton, ← List.concat_eq_append, List.nodup_concat]
    refine ⟨fun hmem => hany ?_, h⟩
    obtain ⟨m, hm, hname⟩ := List.mem_map.mp hmem
    exact List.any_eq_true.mpr ⟨m, hm, by simpa using hname⟩

/-- Only one member counts for a name. -/
theorem nodup_lastOfEach (written : List (κ × α)) : ((lastOfEach written).map (·.1)).Nodup := by
  have hrun : ∀ members : List (κ × α), (members.map (·.1)).Nodup →
      ((written.foldl (fun members m => setMember members m.1 m.2) members).map (·.1)).Nodup := by
    induction written with
    | nil => exact fun members h => h
    | cons m written ih => exact fun members h => ih _ (nodup_setMember h m.1 m.2)
  exact hrun [] List.nodup_nil

end Value

/-! ## Texts that hold an object -/

namespace Json

/-- A text that holds an object, in which a whole number has no more than so many digits and so many
lists and objects may stand in each other, with the members as they are written. -/
inductive HoldsObject (longest room : Nat) (text : Characters) : List (Text × Value) → Prop
  | empty {rest after : Characters} : skipBlanks text = '\x7b' :: rest →
    skipBlanks rest = '\x7d' :: after → skipBlanks after = [] → HoldsObject longest room text []
  | members {rest : Characters} {written : List (Text × Value)}
    {after : { after : Characters // after.length < (skipBlanks rest).length }} :
    skipBlanks text = '\x7b' :: rest → (∀ after, skipBlanks rest ≠ '\x7d' :: after) →
    readMembers longest room [] (skipBlanks rest) = .ok (written, after) →
    skipBlanks after.val = [] → HoldsObject longest room text written

/-- No word and no number is an object. -/
theorem readPlain_ne_object {longest : Nat} {text : Characters} {members : List (Text × Value)}
    {after : { after : Characters // after.length < text.length }} :
    readPlain longest text ≠ .ok (.object members, after) := by
  intro h
  unfold readPlain at h
  split at h
  · rename_i value rest hword
    obtain ⟨word, hfind, hvalue⟩ := Option.map_eq_some_iff.mp hword
    have hwords : ∀ w ∈ words, ∀ members, w.2 ≠ .object members := by
      simp [words]
    have hword := hwords word (List.mem_of_find?_eq_some hfind) members
    simp only [Prod.mk.injEq] at hvalue
    simp only [Except.ok.injEq, Prod.mk.injEq] at h
    exact hword (hvalue.1.trans h.1)
  · split at h
    · cases h
    · rename_i literal rest _
      have hvalue : ∀ value, literal.value longest = .ok value → value ≠ .object members := by
        intro value hvalue
        unfold Literal.value at hvalue
        split at hvalue
        · split at hvalue
          · cases hvalue
          · cases hvalue
            exact nofun
        · cases hvalue
          exact nofun
      split at h
      · rename_i value hok
        simp only [Except.ok.injEq, Prod.mk.injEq] at h
        exact hvalue value hok h.1
      · cases h

/-- A value is read as an object where it is written as one. -/
theorem readValue_eq_object_iff {longest room : Nat} {text : Characters}
    {members : List (Text × Value)}
    {after : { after : Characters // after.length < text.length }} :
    readValue longest (room + 1) text = .ok (.object members, after) ↔
      ∃ rest, text = '\x7b' :: rest ∧
        ((skipBlanks rest = '\x7d' :: after.val ∧ members = []) ∨
          (∀ after, skipBlanks rest ≠ '\x7d' :: after) ∧
            ∃ written left, readMembers longest room [] (skipBlanks rest) = .ok (written, left) ∧
              left.val = after.val ∧ members = Value.lastOfEach written) := by
  constructor
  · intro h
    unfold readValue at h
    split at h
    · split at h <;> cases h
    · dsimp only at h
      split at h
      · cases h
      · split at h <;> cases h
    · rename_i rest
      refine ⟨rest, rfl, ?_⟩
      dsimp only at h
      split at h
      · rename_i after' hempty
        cases h
        exact .inl ⟨hempty, rfl⟩
      · rename_i inner hinner
        split at h
        · cases h
        · rename_i written left hlt hmembers
          cases h
          exact .inr ⟨hinner, written, ⟨left, hlt⟩, hmembers, rfl, rfl⟩
    · exact absurd h readPlain_ne_object
  · rintro ⟨rest, rfl, ⟨hempty, rfl⟩ | ⟨hinner, written, left, hmembers, hleft, rfl⟩⟩
    · rw [readValue]
      split
      · rename_i after' hread
        have hsame : after' = after.val := (List.cons.inj (hread.symm.trans hempty)).2
        exact congrArg (fun after => Except.ok (Value.object [], after)) (Subtype.ext hsame)
      · rename_i hinner
        exact absurd hempty (hinner _)
    · obtain ⟨left, hlt⟩ := left
      obtain rfl : left = after.val := hleft
      rw [readValue]
      split
      · rename_i after' hempty
        exact absurd hempty (hinner _)
      · rw [hmembers]

/-- A text that starts with a brace behind blanks does not start with a byte order mark. -/
theorem head?_ne_byteOrderMark {text rest : Characters} (h : skipBlanks text = '\x7b' :: rest) :
    text.head? ≠ some '\uFEFF' := by
  intro hhead
  obtain ⟨tail, rfl⟩ := List.head?_eq_some_iff.mp hhead
  have hskip : skipBlanks ('\uFEFF' :: tail) = '\uFEFF' :: tail :=
    List.dropWhile_cons_of_neg (by decide)
  have hchar := (List.cons.inj (hskip.symm.trans h)).1
  exact absurd hchar (by decide)

/-- A text can be read as an object where it holds one; what is read is what counts of the members
that are written. -/
theorem read_eq_object_iff {longest room : Nat} {text : Characters}
    {members : List (Text × Value)} :
    read longest (room + 1) text = .ok (.object members) ↔
      ∃ written, HoldsObject longest room text written ∧ members = Value.lastOfEach written := by
  constructor
  · intro h
    unfold read at h
    split at h
    · cases h
    · split at h
      · cases h
      · rename_i value after hlt hvalue
        split at h
        · rename_i hafter
          cases h
          obtain ⟨rest, htext, ⟨hempty, rfl⟩ | ⟨hinner, written, left, hmembers, hleft, rfl⟩⟩ :=
            readValue_eq_object_iff.mp hvalue
          · exact ⟨[], .empty htext hempty hafter, rfl⟩
          · exact ⟨written, .members htext hinner hmembers (hleft ▸ hafter), rfl⟩
        · cases h
  · rintro ⟨written, hholds, rfl⟩
    have hvalue : ∃ after, readValue longest (room + 1) (skipBlanks text) =
        .ok (.object (Value.lastOfEach written), after) ∧ skipBlanks after.val = [] := by
      cases hholds with
      | @empty rest after htext hempty hafter =>
        have hle := length_skipBlanks_le rest
        have hlt : after.length < (skipBlanks text).length := by
          rw [hempty] at hle
          rw [htext]
          simp only [List.length_cons] at hle ⊢
          omega
        refine ⟨⟨after, hlt⟩, readValue_eq_object_iff.mpr ⟨rest, htext, .inl ⟨hempty, rfl⟩⟩, hafter⟩
      | @members rest written after htext hinner hmembers hafter =>
        have hle := length_skipBlanks_le rest
        have hlt : after.val.length < (skipBlanks text).length := by
          have := after.property
          rw [htext]
          simp only [List.length_cons]
          omega
        exact ⟨⟨after.val, hlt⟩, readValue_eq_object_iff.mpr
          ⟨rest, htext, .inr ⟨hinner, written, after, hmembers, rfl, rfl⟩⟩, hafter⟩
    obtain ⟨after, hvalue, hafter⟩ := hvalue
    obtain ⟨rest, hbrace⟩ : ∃ rest, skipBlanks text = '\x7b' :: rest := by
      cases hholds <;> exact ⟨_, ‹_›⟩
    rw [read, if_neg (head?_ne_byteOrderMark hbrace), hvalue]
    dsimp only
    rw [hafter]

end Json

/-! ## Files of ASCII characters -/

/-- The bytes of ASCII characters are read as these characters. -/
theorem Utf8.decode_of_ascii {text : Characters} (h : ∀ c ∈ text, c.toNat < 0x80) :
    Utf8.decode (text.map fun c => .ofNat c.toNat) = .ok text := by
  have hfrom : ∀ position before,
      Utf8.decodeFrom position before (text.map fun c => .ofNat c.toNat) =
        .ok (before.reverse ++ text) := by
    induction text with
    | nil =>
      intro position before
      rw [List.map_nil, Utf8.decodeFrom, List.append_nil]
    | cons c text ih =>
      intro position before
      have hsmall := h c List.mem_cons_self
      have hbyte : (UInt8.ofNat c.toNat).toNat = c.toNat :=
        Nat.mod_eq_of_lt (Nat.lt_trans hsmall (by decide))
      rw [List.map_cons, Utf8.decodeFrom, hbyte, if_pos hsmall, Char.ofNat_toNat,
        ih fun d hd => h d (List.mem_cons_of_mem c hd), List.reverse_cons, List.append_assoc]
      rfl
  exact hfrom 0 []

/-- Without carriage returns all lines end with line feeds. -/
theorem Characters.withLineFeeds_of_not_mem {text : Characters} (h : '\r' ∉ text) :
    text.withLineFeeds = text := by
  fun_induction Characters.withLineFeeds text with
  | case1 => rfl
  | case2 => exact absurd List.mem_cons_self h
  | case3 => exact absurd List.mem_cons_self h
  | case4 c text _ _ ih => rw [ih fun hmem => h (List.mem_cons_of_mem c hmem)]

/-! ## Variables -/

namespace Variables

open Json

/-- The members that are written in the file that a path leads to, in which a whole number has no
more than so many digits and so many lists and objects may stand in each other; none where the path
leads nowhere. -/
inductive Gives (longest room : Nat) (files : Files) (path : Text) : List (Text × Value) → Prop
  | nothing : files.lookUp path = .nothing → Gives longest room files path []
  | file {content : List UInt8} {text : Characters} {written : List (Text × Value)} :
    files.lookUp path = .entry (.file content) → Utf8.decode content = .ok text →
    HoldsObject longest room text.withLineFeeds written → Gives longest room files path written

/-- The members that a path gives within the limits of the reader of variables files. -/
abbrev Loads (files : Files) (path : Text) (written : List (Text × Value)) : Prop :=
  Gives Characters.digitLimit (depthLimit - 1) files path written

/-- The value that members give to a name: that of the last one that is written for it, unless this
is null. -/
def value? (written : List (Text × Value)) (name : Text) : Option Text :=
  (Value.lastWritten? written name).bind textOf?

theorem membersOf_eq_ok_iff {path : Text} {text : Characters} {members : List (Text × Value)} :
    membersOf path text = .ok members ↔
      ∃ written, HoldsObject Characters.digitLimit (depthLimit - 1) text written ∧
        members = Value.lastOfEach written := by
  rw [← read_eq_object_iff, membersOf]
  show _ ↔ read Characters.digitLimit depthLimit text = _
  cases read Characters.digitLimit depthLimit text with
  | error fault => simp
  | ok value => cases value <;> simp

theorem membersAt?_eq_none_iff {files : Files} {path : Text} :
    membersAt? files path = .ok none ↔ files.lookUp path = .nothing := by
  rw [membersAt?]
  cases files.lookUp path with
  | nothing => simp
  | nameTooLong => simp
  | entry e =>
    cases e with
    | directory => simp
    | file content =>
      cases hdecode : Utf8.decode content with
      | error fault => simp [hdecode]
      | ok text =>
        cases hmembers : membersOf path text.withLineFeeds <;>
          simp [hdecode, hmembers, Except.map]

theorem membersAt?_eq_some_iff {files : Files} {path : Text} {members : List (Text × Value)} :
    membersAt? files path = .ok (some members) ↔
      ∃ content text, files.lookUp path = .entry (.file content) ∧
        Utf8.decode content = .ok text ∧ membersOf path text.withLineFeeds = .ok members := by
  rw [membersAt?]
  cases files.lookUp path with
  | nothing => simp
  | nameTooLong => simp
  | entry e =>
    cases e with
    | directory => simp
    | file content =>
      cases hdecode : Utf8.decode content with
      | error fault => simp [hdecode]
      | ok text =>
        cases hmembers : membersOf path text.withLineFeeds <;>
          simp [hdecode, hmembers, Except.map]

/-- Variables are loaded from the paths that give members. -/
theorem load_eq_ok_iff {files : Files} {path : Text} {entries : List (Text × Text)} :
    (∃ entry, load files path = .ok (entries, entry)) ↔
      ∃ written, Loads files path written ∧ entries = ofMembers (Value.lastOfEach written) := by
  have hload : (∃ entry, load files path = .ok (entries, entry)) ↔
      (membersAt? files path = .ok none ∧ entries = []) ∨
        ∃ members, membersAt? files path = .ok (some members) ∧ entries = ofMembers members := by
    rw [load]
    cases membersAt? files path with
    | error problem => simp [Except.map]
    | ok found => cases found <;> simp [Except.map, eq_comm]
  rw [hload, membersAt?_eq_none_iff]
  simp only [membersAt?_eq_some_iff, membersOf_eq_ok_iff]
  constructor
  · rintro (⟨hnothing, rfl⟩ | ⟨members, ⟨content, text, hfile, hdecode, written, hholds, rfl⟩, rfl⟩)
    · exact ⟨[], .nothing hnothing, rfl⟩
    · exact ⟨written, .file hfile hdecode hholds, rfl⟩
  · rintro ⟨written, hgives, rfl⟩
    cases hgives with
    | nothing hnothing => exact .inl ⟨hnothing, rfl⟩
    | file hfile hdecode hholds =>
      exact .inr ⟨_, ⟨_, _, hfile, hdecode, written, hholds, rfl⟩, rfl⟩

/-- Where no two members have the same name, a name has the value of its member. -/
theorem find?_ofMembers {members : List (Text × Value)} (hnodup : (members.map (·.1)).Nodup)
    (name : Text) :
    ((ofMembers members).find? (·.1 = name)).map (·.2) =
      ((members.find? (·.1 = name)).map (·.2)).bind textOf? := by
  induction members with
  | nil => rfl
  | cons m members ih =>
    rw [List.map_cons, List.nodup_cons] at hnodup
    have ih := ih hnodup.2
    rw [ofMembers, List.filterMap_cons, ← ofMembers]
    by_cases hkey : m.1 = name
    · rw [List.find?_cons_of_pos (by simpa using hkey), ofMember?, hkey]
      cases hvalue : textOf? m.2 with
      | none =>
        -- a null member gives nothing, and there is no other member of its name
        have hrest : members.find? (·.1 = name) = none := by
          rw [List.find?_eq_none]
          intro other hmem hother
          exact hnodup.1 (hkey ▸ List.mem_map.mpr ⟨other, hmem, by simpa using hother⟩)
        rw [hrest] at ih
        simpa [hvalue] using ih
      | some text => simp [hvalue]
    · rw [List.find?_cons_of_neg (by simpa using hkey), ← ih, ofMember?]
      cases textOf? m.2 with
      | none => rfl
      | some text => simp [hkey]

/-- A name has the value that the members give to it. -/
theorem find?_ofMembers_lastOfEach (written : List (Text × Value)) (name : Text) :
    ((ofMembers (Value.lastOfEach written)).find? (·.1 = name)).map (·.2) =
      value? written name := by
  rw [find?_ofMembers (Value.nodup_lastOfEach written), Value.find?_lastOfEach]
  rfl

end Variables

end Interpolation
