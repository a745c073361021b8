import Interpolation.Proofs.Nesting

/-!
# Bodies with properly nested placeholders

A body is *proper* if it is made of characters of neither delimiter and of placeholders whose bodies
are proper.  Where the two delimiters have no character in common, one may expect that the closing
delimiter of a placeholder with a proper body is the one right behind the body.

The search for it counts short openings, not opening delimiters.  An opening delimiter has the short
opening once or, where that is a single bracket, any number of times, and goes so many levels deeper
(`exists_levels`), while a closing delimiter goes one level back.  So a proper body leaves nothing
unclosed exactly if the short opening stands in the opening delimiter once or the body has no
placeholder (`ProperBody.exists_unclosed`).  In these cases the closing delimiter is the expected
one, and in the others it is another one further on, or there is none (`closer?_properBody`).
-/

set_option autoImplicit false

namespace Interpolation

namespace Dialect

variable {d : Dialect} {nested : Nat} {front rest body : Text}

/-! ## How much deeper an opening delimiter goes -/

/-- The short opening is the opening delimiter, or the bracket at its end. -/
theorem shortOpening_cases (d : Dialect) :
    d.shortOpening = d.opening ∨
      ∃ front bracket, d.opening = front ++ [bracket] ∧ d.shortOpening = [bracket] := by
  unfold shortOpening shortOpeningOf
  split
  · split
    · rename_i bracket _ hlast
      obtain ⟨front, hfront⟩ := List.getLast?_eq_some_iff.mp hlast
      exact .inr ⟨front, bracket, hfront, rfl⟩
    · exact .inl rfl
  · exact .inl rfl

/-- In itself, the opening delimiter stands once. -/
theorem existsUnique_of_shortOpening_eq (h : d.shortOpening = d.opening) :
    ∃! i, d.shortOpening <+: d.opening.drop i := by
  refine ⟨0, by simp [h], fun i hi => ?_⟩
  have hle := hi.length_le
  have hpos := d.opening_length_pos
  rw [h, List.length_drop] at hle
  omega

/-- A bracket stands once in a text that ends in it, if it is not in what is before. -/
theorem existsUnique_bracket_iff {bracket : CodePoint} :
    (∃! i, [bracket] <+: (front ++ [bracket]).drop i) ↔ bracket ∉ front := by
  have hstands : ∀ i, [bracket] <+: (front ++ [bracket]).drop i ↔
      (front ++ [bracket])[i]? = some bracket := by
    intro i
    rw [← List.head?_drop]
    cases (front ++ [bracket]).drop i <;> simp [eq_comm]
  simp only [hstands]
  constructor
  · intro honce hmem
    obtain ⟨i, hi, hbracket⟩ := List.getElem_of_mem hmem
    have hfirst : (front ++ [bracket])[i]? = some bracket := by
      rw [List.getElem?_append_left hi, List.getElem?_eq_getElem hi, hbracket]
    have hlast : (front ++ [bracket])[front.length]? = some bracket := by simp
    have hsame := honce.unique hfirst hlast
    omega
  · intro hfresh
    refine ⟨front.length, by simp, fun i hi => ?_⟩
    dsimp only at hi
    rcases Nat.lt_trichotomy i front.length with hlt | heq | hgt
    · rw [List.getElem?_append_left hlt] at hi
      exact absurd (List.mem_of_getElem? hi) hfresh
    · exact heq
    · rw [List.getElem?_eq_none (by simp; omega)] at hi
      cases hi

/-- Where the short opening is a bracket, a text without characters of the closing delimiter goes
one level deeper with every bracket. -/
theorem closerIn?_append_of_bracket {bracket : CodePoint} (hshort : d.shortOpening = [bracket])
    (h : ∀ c ∈ front, c ∉ d.closing) :
    d.closerIn? nested (front ++ rest) =
      (d.closerIn? (nested + front.count bracket) rest).map (front.length + ·) := by
  induction front generalizing nested with
  | nil => simp
  | cons c front ih =>
    obtain ⟨hc, hfront⟩ := List.forall_mem_cons.mp h
    have hclosing : ¬ d.closing <+: c :: (front ++ rest) :=
      not_isPrefix_cons_of_not_mem d.closing_ne_nil hc
    by_cases hbracket : c = bracket
    · subst hbracket
      have hdeeper : d.closerIn? nested (c :: (front ++ rest)) =
          (d.closerIn? (nested + 1) (front ++ rest)).map ([c].length + ·) := by
        rw [← List.singleton_append, ← hshort]
        refine closerIn?_shortOpening ?_
        rw [hshort]
        exact hclosing
      rw [List.cons_append, hdeeper, ih hfront, List.count_cons_self, map_add_map_add,
        Nat.add_right_comm, Nat.add_assoc nested, List.length_singleton, List.length_cons,
        Nat.add_comm 1]
    · have hopening : ¬ d.shortOpening <+: c :: (front ++ rest) := by
        rw [hshort]
        exact not_isPrefix_cons_of_not_mem (List.cons_ne_nil _ _) (by simpa using hbracket)
      rw [List.cons_append, closerIn?_cons hclosing hopening, ih hfront,
        List.count_cons_of_ne hbracket, map_add_map_add, List.length_cons, Nat.add_comm 1]

/-- An opening delimiter goes some levels deeper, and one level exactly if the short opening stands
in it once. -/
theorem exists_levels (disjoint : ∀ c ∈ d.opening, c ∉ d.closing) :
    ∃ levels, 0 < levels ∧ (levels = 1 ↔ ∃! i, d.shortOpening <+: d.opening.drop i) ∧
      ∀ nested rest, d.closerIn? nested (d.opening ++ rest) =
        (d.closerIn? (nested + levels) rest).map (d.opening.length + ·) := by
  rcases d.shortOpening_cases with hshort | ⟨front, bracket, hopening, hshort⟩
  · have honce := existsUnique_of_shortOpening_eq hshort
    exact ⟨1, Nat.one_pos, iff_of_true rfl honce, Nestable.closerIn?_opening ⟨disjoint, honce⟩⟩
  · have hcount : d.opening.count bracket = front.count bracket + 1 := by
      rw [hopening, List.count_append, List.count_singleton_self]
    refine ⟨d.opening.count bracket, by omega, ?_, fun nested rest =>
      closerIn?_append_of_bracket hshort disjoint⟩
    rw [hcount, hshort, hopening, existsUnique_bracket_iff, ← List.count_eq_zero]
    omega

/-! ## What a proper body leaves unclosed -/

/-- A body made of characters of neither delimiter, and of placeholders with such bodies. -/
inductive ProperBody (d : Dialect) : Text → Prop
  | nil : ProperBody d []
  | char {c : CodePoint} {rest : Text} :
    c ∉ d.opening → c ∉ d.closing → ProperBody d rest → ProperBody d (c :: rest)
  | placeholder {inner rest : Text} :
    ProperBody d inner → ProperBody d rest → ProperBody d (d.written inner ++ rest)

/-- A text with a placeholder is not plain. -/
theorem not_plain_written_append (inner rest : Text) : ¬ d.Plain (d.written inner ++ rest) := by
  intro hplain
  obtain ⟨c, hc⟩ := List.exists_mem_of_ne_nil d.opening d.opening_ne_nil
  exact (hplain c (by simp [written, hc])).1 hc

/-- A proper body leaves some short openings unclosed, and none exactly if an opening delimiter goes
one level deeper or the body has no placeholder. -/
theorem ProperBody.exists_unclosed {levels : Nat} (hpos : 0 < levels)
    (hlevels : ∀ nested rest, d.closerIn? nested (d.opening ++ rest) =
      (d.closerIn? (nested + levels) rest).map (d.opening.length + ·))
    (h : d.ProperBody body) :
    ∃ unclosed, (unclosed = 0 ↔ levels = 1 ∨ d.Plain body) ∧
      ∀ nested rest, d.closerIn? nested (body ++ rest) =
        (d.closerIn? (nested + unclosed) rest).map (body.length + ·) := by
  induction h with
  | nil => exact ⟨0, iff_of_true rfl (.inr plain_nil), by simp⟩
  | @char c body hopening hclosing _ ih =>
    obtain ⟨unclosed, hzero, hsearch⟩ := ih
    have hplain : d.Plain [c] := by simpa [Plain] using ⟨hopening, hclosing⟩
    refine ⟨unclosed, ?_, fun nested rest => ?_⟩
    · rw [hzero, ← List.singleton_append, plain_append, and_iff_right hplain]
    · rw [← List.singleton_append, List.append_assoc, hplain.closerIn?_append, hsearch,
        map_add_map_add, List.length_append]
  | @placeholder inner body _ _ ihinner ihrest =>
    obtain ⟨unclosed, hzero, hsearch⟩ := ihinner
    obtain ⟨unclosed', hzero', hsearch'⟩ := ihrest
    obtain ⟨extra, rfl⟩ := Nat.exists_eq_add_of_lt hpos
    -- the closing delimiter goes back one of the levels that the opening one went deeper
    refine ⟨extra + unclosed + unclosed', ?_, fun nested rest => ?_⟩
    · have hnot := not_plain_written_append (d := d) inner body
      simp only [hnot, or_false]
      constructor
      · omega
      · intro hone
        have := hzero.mpr (.inl hone)
        have := hzero'.mpr (.inl hone)
        omega
    · have hlevel : nested + (0 + extra + 1) + unclosed = nested + (extra + unclosed) + 1 := by
        omega
      simp only [written, List.append_assoc]
      rw [hlevels, hsearch, hlevel, closerIn?_succ_closing, hsearch', map_add_map_add,
        map_add_map_add, map_add_map_add]
      simp only [List.length_append, Nat.add_assoc]

/-! ## The closing delimiter of a placeholder with a proper body -/

/-- Where the delimiters have no character in common, the closing delimiter of a placeholder with a
proper body is the one right behind the body exactly if the short opening stands once in the opening
delimiter or the body has no placeholder in it.  It is never one before that. -/
theorem closer?_properBody (disjoint : ∀ c ∈ d.opening, c ∉ d.closing) (h : d.ProperBody body)
    (front tail : Text) :
    let buffer := front ++ d.opening ++ body ++ d.closing ++ tail
    let behind := front.length + d.opening.length + body.length
    (d.closer? buffer front.length = some (behind : Int) ↔
      (∃! i, d.shortOpening <+: d.opening.drop i) ∨ d.Plain body) ∧
    ∀ e, d.closer? buffer front.length = some e → (behind : Int) ≤ e := by
  intro buffer behind
  obtain ⟨levels, hpos, hone, hlevels⟩ := exists_levels disjoint
  obtain ⟨unclosed, hzero, hsearch⟩ := h.exists_unclosed hpos hlevels
  have hcloser : d.closer? buffer front.length =
      ((d.closerIn? unclosed (d.closing ++ tail)).map (behind + ·)).map Int.ofNat := by
    have hbuffer : buffer.drop (front.length + d.opening.length) =
        body ++ (d.closing ++ tail) := by
      simp only [buffer, List.append_assoc, List.drop_length_add_append, List.drop_left]
    rw [closer?_natCast, closerAt?, hbuffer, hsearch, map_add_map_add, Nat.zero_add]
  rw [hcloser, ← hone, ← hzero]
  cases unclosed with
  | zero =>
    rw [closerIn?_zero_closing]
    simp
  | succ unclosed =>
    have hclosing := d.closing_length_pos
    rw [closerIn?_succ_closing]
    simp
    constructor
    · intros
      omega
    · intros
      omega

/-- A placeholder in the body of another one, in the dialect of `${name:default}`. -/
theorem closer?_properBody_shell :
    let d := shell
    let body := .char 'a' :: d.written "b".text
    (∀ c ∈ d.opening, c ∉ d.closing) ∧ d.ProperBody body ∧
    d.closer? ("x".text ++ d.opening ++ body ++ d.closing ++ "\x7d".text) 1 = some 8 := by
  intro d body
  have disjoint := nestable_shell.disjoint
  have hproper : d.ProperBody body := by
    have hname : d.ProperBody "b".text := .char (by decide) (by decide) .nil
    exact .char (by decide) (by decide) (.placeholder hname .nil)
  have hcloser :=
    (closer?_properBody disjoint hproper "x".text "\x7d".text).1.mpr (.inl nestable_shell.once)
  exact ⟨disjoint, hproper, hcloser⟩

/-- With doubled opening brackets and single closing ones, the closing delimiter of a placeholder
in whose body another one is nested is not found, as in `{{{{}}`. -/
theorem closer?_doubled_bracket :
    let d : Dialect :=
      ⟨"\x7b\x7b".text, "\x7d".text, none, true, by decide, by decide, rfl, rfl, by decide⟩
    let body := d.written []
    (∀ c ∈ d.opening, c ∉ d.closing) ∧ d.ProperBody body ∧
    d.closer? (d.opening ++ body ++ d.closing) 0 = none ∧
    d.closer? (d.opening ++ body ++ d.closing) 0 ≠
      some ((d.opening.length + body.length : Nat) : Int) := by
  intro d body
  have disjoint : ∀ c ∈ d.opening, c ∉ d.closing := by
    intro c hopening hclosing
    rw [List.mem_singleton.mp hclosing] at hopening
    exact absurd hopening (by decide)
  have hproper : d.ProperBody (body ++ []) := .placeholder .nil .nil
  have hnone : d.closer? (d.opening ++ body ++ d.closing) 0 = none := by
    have hat : d.closerAt? (d.opening ++ body ++ d.closing) 0 = none := by with_unfolding_all rfl
    have hcloser := d.closer?_natCast (d.opening ++ body ++ d.closing) 0
    rw [hat] at hcloser
    exact hcloser
  refine ⟨disjoint, List.append_nil body ▸ hproper, hnone, ?_⟩
  rw [hnone]
  exact (Option.some_ne_none _).symm

end Dialect

end Interpolation
