import Interpolation.Dialect

/-!
# The closing delimiter of a placeholder

The text after an opening delimiter is read as tokens from left to right: a closing delimiter where
one stands, else a short opening where one stands, else a single character.  A short opening goes
one level deeper and a closing delimiter one level back; the closing delimiter met at level zero is
the one that belongs to the placeholder.

`closerIn?` reads a text from its start.  `closer?` answers for an index into a buffer.  The index
may be negative: it then reads from the end of the buffer, as far as the buffer's start, while it
still counts up towards zero.
-/

set_option autoImplicit false

namespace Interpolation

namespace Dialect

variable (d : Dialect)

/-- The index of the closing delimiter that belongs to an opening delimiter just before the text,
where `nested` short openings are still unclosed. -/
def closerIn? (nested : Nat) (text : Text) : Option Nat :=
  match text with
  | [] => none
  | c :: rest =>
    if d.closing.isPrefixOf (c :: rest) then
      match nested with
      | 0 => some 0
      | outer + 1 =>
        (closerIn? outer ((c :: rest).drop d.closing.length)).map (d.closing.length + ·)
    else if d.shortOpening.isPrefixOf (c :: rest) then
      (closerIn? (nested + 1) ((c :: rest).drop d.shortOpening.length)).map
        (d.shortOpening.length + ·)
    else
      (closerIn? nested rest).map (1 + ·)
termination_by text.length
decreasing_by
  · have := d.closing_length_pos
    simp only [List.length_drop, List.length_cons]
    omega
  · have := d.shortOpening_length_pos
    simp only [List.length_drop, List.length_cons]
    omega
  · simp

/-- The index of the closing delimiter that a scan from an index finds, where `nested` short
openings are still unclosed; a negative index reads from the end of the buffer. -/
def closerFrom? (buffer : Text) (index : Int) (nested : Nat) : Option Int :=
  if 0 ≤ index then
    (d.closerIn? nested (buffer.drop index.toNat)).map fun offset : Nat => index + offset
  else
    let ahead := buffer.drop (buffer.length + index).toNat
    if d.closing.isPrefixOf ahead then
      match nested with
      | 0 => some index
      | outer + 1 => closerFrom? buffer (index + d.closing.length) outer
    else if d.shortOpening.isPrefixOf ahead then
      closerFrom? buffer (index + d.shortOpening.length) (nested + 1)
    else
      closerFrom? buffer (index + 1) nested
termination_by (-index).toNat
decreasing_by
  · have := d.closing_length_pos
    omega
  · have := d.shortOpening_length_pos
    omega
  · omega

/-- The index of the closing delimiter of the placeholder whose opening delimiter is at `start`. -/
def closer? (buffer : Text) (start : Int) : Option Int :=
  d.closerFrom? buffer (start + d.opening.length) 0

/-- The index of the closing delimiter of the placeholder whose opening delimiter is at `start`,
for an index that counts from the start of the buffer. -/
def closerAt? (buffer : Text) (start : Nat) : Option Nat :=
  (d.closerIn? 0 (buffer.drop (start + d.opening.length))).map (start + d.opening.length + ·)

/-! ## Where a closing delimiter is found -/

/-- An index that is moved twice is moved once by both lengths. -/
theorem map_add_map_add (found : Option Nat) (m n : Nat) :
    (found.map (m + ·)).map (n + ·) = found.map (n + m + ·) := by
  rw [Option.map_map]
  congr 1
  funext i
  simp only [Function.comp, Nat.add_assoc]

/-- A closing delimiter that is found ends within the text. -/
theorem closerIn?_add_le {nested : Nat} {text : Text} {i : Nat}
    (h : d.closerIn? nested text = some i) : i + d.closing.length ≤ text.length := by
  fun_induction closerIn? d nested text generalizing i with
  | case1 => simp at h
  | case2 c rest hc =>
    simp only [Option.some.injEq] at h
    subst h
    simpa using (List.isPrefixOf_iff_prefix.mp hc).length_le
  | case3 c rest hc outer ih =>
    obtain ⟨j, hj, rfl⟩ := Option.map_eq_some_iff.mp h
    have := ih hj
    have := d.closing_length_pos
    simp only [List.length_drop] at *
    omega
  | case4 nested c rest hc ho ih =>
    obtain ⟨j, hj, rfl⟩ := Option.map_eq_some_iff.mp h
    have := ih hj
    have := d.closing_length_pos
    simp only [List.length_drop] at *
    omega
  | case5 nested c rest hc ho ih =>
    obtain ⟨j, hj, rfl⟩ := Option.map_eq_some_iff.mp h
    have := ih hj
    simp only [List.length_cons]
    omega

/-- A closing delimiter stands where it is found. -/
theorem isPrefix_of_closerIn? {nested : Nat} {text : Text} {i : Nat}
    (h : d.closerIn? nested text = some i) : d.closing <+: text.drop i := by
  fun_induction closerIn? d nested text generalizing i with
  | case1 => simp at h
  | case2 c rest hc =>
    simp only [Option.some.injEq] at h
    subst h
    exact List.isPrefixOf_iff_prefix.mp hc
  | case3 c rest hc outer ih =>
    obtain ⟨j, hj, rfl⟩ := Option.map_eq_some_iff.mp h
    rw [← List.drop_drop]
    exact ih hj
  | case4 nested c rest hc ho ih =>
    obtain ⟨j, hj, rfl⟩ := Option.map_eq_some_iff.mp h
    rw [← List.drop_drop]
    exact ih hj
  | case5 nested c rest hc ho ih =>
    obtain ⟨j, hj, rfl⟩ := Option.map_eq_some_iff.mp h
    rw [← List.drop_drop]
    exact ih hj

/-- The closing delimiter found for a placeholder stands behind its opening delimiter. -/
theorem add_le_of_closerAt? {buffer : Text} {start stop : Nat}
    (h : d.closerAt? buffer start = some stop) : start + d.opening.length ≤ stop := by
  obtain ⟨j, -, rfl⟩ := Option.map_eq_some_iff.mp h
  omega

/-- The closing delimiter found for a placeholder ends within the buffer. -/
theorem closerAt?_add_le {buffer : Text} {start stop : Nat}
    (h : d.closerAt? buffer start = some stop) : stop + d.closing.length ≤ buffer.length := by
  obtain ⟨j, hj, rfl⟩ := Option.map_eq_some_iff.mp h
  have := d.closerIn?_add_le hj
  have := d.closing_length_pos
  simp only [List.length_drop] at *
  omega

/-- The closing delimiter of a placeholder behind a front part depends on the rest alone. -/
theorem closerAt?_append (front rest : Text) (start : Nat) :
    d.closerAt? (front ++ rest) (front.length + start) =
      (d.closerAt? rest start).map (front.length + ·) := by
  rw [closerAt?, closerAt?, Nat.add_assoc, List.drop_length_add_append, map_add_map_add]

/-- An index from the start of the buffer may be given as a whole number. -/
theorem closer?_natCast (buffer : Text) (start : Nat) :
    d.closer? buffer start = (d.closerAt? buffer start).map Int.ofNat := by
  have h : (0 : Int) ≤ (start : Int) + d.opening.length := by omega
  have e : ((start : Int) + d.opening.length).toNat = start + d.opening.length := by omega
  rw [closer?, closerFrom?, if_pos h, closerAt?, e, Option.map_map]
  congr 1

end Dialect

end Interpolation
