import Interpolation.Closer

/-!
# The first placeholder of a text

A text is read up to its first opening delimiter.  If that delimiter has a closing one, the text is
cut there into what stands before the placeholder, its body, and what stands behind it; if not,
nothing in the text is a placeholder that is read.

`firstPlaceholder?_eq_some_iff` says what such a cut is: the three parts with the two delimiters
between them are the text, the opening delimiter stands nowhere before, and the closing delimiter
that belongs to it is the one right behind the body.
-/

set_option autoImplicit false

namespace Interpolation

/-- A placeholder with the texts around it. -/
structure Placeholder where
  /-- The text before the opening delimiter. -/
  before : Text
  /-- The text between the two delimiters. -/
  body : Text
  /-- The text behind the closing delimiter. -/
  after : Text

namespace Dialect

variable (d : Dialect)

/-- The placeholder with a body, as it is written. -/
def written (body : Text) : Text :=
  d.opening ++ body ++ d.closing

/-- The placeholder at the first opening delimiter of a text, if that delimiter has a closing
one. -/
def firstPlaceholder? (text : Text) : Option Placeholder :=
  (Text.indexOf? d.opening text).bind fun start =>
    (d.closerAt? text start).map fun stop =>
      { before := text.take start
        body := text.slice (start + d.opening.length) stop
        after := text.drop (stop + d.closing.length) }

variable {d} {text : Text} {p : Placeholder}

/-- What the cut of a text at its first placeholder is. -/
theorem firstPlaceholder?_eq_some_iff :
    d.firstPlaceholder? text = some p ↔
      text = p.before ++ d.written p.body ++ p.after ∧
      Text.indexOf? d.opening text = some p.before.length ∧
      d.closerIn? 0 (p.body ++ d.closing ++ p.after) = some p.body.length := by
  obtain ⟨before, body, after⟩ := p
  dsimp only
  constructor
  · intro h
    obtain ⟨start, hstart, h⟩ := Option.bind_eq_some_iff.mp h
    obtain ⟨stop, hstop, h⟩ := Option.map_eq_some_iff.mp h
    obtain ⟨offset, hoffset, rfl⟩ := Option.map_eq_some_iff.mp hstop
    obtain ⟨hle, ⟨rest, hrest⟩, -⟩ := Text.indexOf?_eq_some_iff.mp hstart
    -- `rest` is the text behind the opening delimiter
    have hdrop : text.drop (start + d.opening.length) = rest := by
      rw [← List.drop_drop, ← hrest, List.drop_left]
    rw [hdrop] at hoffset
    obtain ⟨behind, hbehind⟩ := d.isPrefix_of_closerIn? hoffset
    have hlen := d.closerIn?_add_le hoffset
    cases h
    have hbefore : (text.take start).length = start := List.length_take_of_le hle
    have hbody : text.slice (start + d.opening.length) (start + d.opening.length + offset) =
        rest.take offset := by
      rw [Text.slice, List.drop_take, hdrop, Nat.add_sub_cancel_left]
    have hafter : text.drop (start + d.opening.length + offset + d.closing.length) = behind := by
      rw [Nat.add_assoc, ← List.drop_drop, hdrop, ← List.drop_drop, ← hbehind, List.drop_left]
    have hsplit : rest.take offset ++ d.closing ++ behind = rest := by
      rw [List.append_assoc, hbehind, List.take_append_drop]
    rw [hbody, hafter, hbefore, hsplit, List.length_take_of_le (by omega)]
    refine ⟨?_, hstart, hoffset⟩
    calc
      text = text.take start ++ text.drop start := (List.take_append_drop ..).symm
      _ = text.take start ++ (d.opening ++ (rest.take offset ++ d.closing ++ behind)) := by
        rw [hsplit, hrest]
      _ = text.take start ++ d.written (rest.take offset) ++ behind := by
        simp only [written, List.append_assoc]
  · rintro ⟨htext, hstart, hclose⟩
    have hdrop : text.drop (before.length + d.opening.length) = body ++ d.closing ++ after := by
      rw [htext]
      simp only [written, List.append_assoc, List.drop_length_add_append, List.drop_left]
    have hstop : d.closerAt? text before.length =
        some (before.length + d.opening.length + body.length) := by
      rw [closerAt?, hdrop, hclose, Option.map_some]
    rw [firstPlaceholder?, hstart, Option.bind_some, hstop, Option.map_some, Text.slice,
      List.drop_take, hdrop, Nat.add_sub_cancel_left, Nat.add_assoc _ body.length,
      ← List.drop_drop, hdrop]
    simp [htext, List.append_assoc, List.drop_length_add_append]

/-- Where a text has no first placeholder, it has no opening delimiter, or the first one has no
closing delimiter. -/
theorem firstPlaceholder?_eq_none_iff :
    d.firstPlaceholder? text = none ↔
      ∀ start, Text.indexOf? d.opening text = some start → d.closerAt? text start = none := by
  rw [firstPlaceholder?, Option.bind_eq_none_iff]
  simp only [Option.map_eq_none_iff]

/-- A text in which the opening delimiter does not stand has no placeholder. -/
theorem firstPlaceholder?_of_not_isInfix (h : ¬ d.opening <:+: text) :
    d.firstPlaceholder? text = none := by
  rw [firstPlaceholder?_eq_none_iff]
  intro start hstart
  obtain ⟨-, hstands, -⟩ := Text.indexOf?_eq_some_iff.mp hstart
  exact absurd (hstands.isInfix.trans (List.drop_suffix start text).isInfix) h

@[simp]
theorem firstPlaceholder?_nil : d.firstPlaceholder? [] = none := by
  apply firstPlaceholder?_of_not_isInfix
  intro h
  exact d.opening_ne_nil (List.infix_nil.mp h)

/-- A placeholder as it is written is read as one, if its closing delimiter is the one at its end.
-/
theorem firstPlaceholder?_written {body : Text}
    (h : d.closerAt? (d.written body) 0 = some (d.opening.length + body.length)) :
    d.firstPlaceholder? (d.written body) = some ⟨[], body, []⟩ := by
  obtain ⟨stop, hstop, hsum⟩ := Option.map_eq_some_iff.mp h
  have hlength : stop = body.length := by omega
  have hbehind : (d.written body).drop (0 + d.opening.length) = body ++ d.closing ++ [] := by
    rw [Nat.zero_add, written, List.append_assoc, List.drop_left, List.append_nil]
  rw [hbehind, hlength] at hstop
  rw [firstPlaceholder?_eq_some_iff]
  refine ⟨by simp, ?_, hstop⟩
  rw [Text.indexOf?_eq_some_iff]
  refine ⟨Nat.zero_le _, ?_, fun j hj => absurd hj (Nat.not_lt_zero j)⟩
  show d.opening <+: d.opening ++ body ++ d.closing
  rw [List.append_assoc]
  exact List.prefix_append _ _

/-- The closing delimiter of the first placeholder. -/
theorem closerAt?_of_firstPlaceholder? (h : d.firstPlaceholder? text = some p) :
    d.closerAt? text p.before.length =
      some (p.before.length + d.opening.length + p.body.length) := by
  obtain ⟨htext, -, hclose⟩ := firstPlaceholder?_eq_some_iff.mp h
  have hdrop : text.drop (p.before.length + d.opening.length) =
      p.body ++ d.closing ++ p.after := by
    rw [htext]
    simp only [written, List.append_assoc, List.drop_length_add_append, List.drop_left]
  rw [closerAt?, hdrop, hclose, Option.map_some]

/-- The body of the first placeholder is the slice between its delimiters. -/
theorem slice_of_firstPlaceholder? (h : d.firstPlaceholder? text = some p) :
    text.slice (p.before.length + d.opening.length)
      (p.before.length + d.opening.length + p.body.length) = p.body := by
  rw [(firstPlaceholder?_eq_some_iff.mp h).1, Text.slice, List.drop_take, Nat.add_sub_cancel_left]
  simp only [written, List.append_assoc, List.drop_length_add_append, List.drop_left,
    List.take_left]

/-- A splice in the place of the first placeholder. -/
theorem splice_of_firstPlaceholder? (h : d.firstPlaceholder? text = some p) (insertion : Text) :
    text.splice p.before.length
        (p.before.length + d.opening.length + p.body.length + d.closing.length) insertion =
      p.before ++ insertion ++ p.after := by
  have hlen : p.before.length + d.opening.length + p.body.length + d.closing.length =
      (p.before ++ d.written p.body).length := by
    simp only [written, List.length_append]
    omega
  rw [(firstPlaceholder?_eq_some_iff.mp h).1, hlen, Text.splice, List.drop_left,
    List.append_assoc p.before, List.take_left]

/-- What stands behind a placeholder is shorter than the text. -/
theorem length_after_lt (h : d.firstPlaceholder? text = some p) :
    p.after.length < text.length := by
  have htext := (firstPlaceholder?_eq_some_iff.mp h).1
  have hpos := d.opening_length_pos
  rw [htext, written]
  simp only [List.length_append]
  omega

/-- The body of a placeholder is shorter than the text. -/
theorem length_body_lt (h : d.firstPlaceholder? text = some p) :
    p.body.length < text.length := by
  have htext := (firstPlaceholder?_eq_some_iff.mp h).1
  have hpos := d.opening_length_pos
  rw [htext, written]
  simp only [List.length_append]
  omega

variable (d) in
/-- A text has no placeholder that is read, or it goes on behind its first one. -/
@[elab_as_elim]
theorem placeholder_induction {motive : Text → Prop}
    (rest : ∀ text, d.firstPlaceholder? text = none → motive text)
    (placeholder : ∀ text p, d.firstPlaceholder? text = some p → motive p.after → motive text)
    (text : Text) : motive text := by
  induction hn : text.length using Nat.strongRecOn generalizing text with
  | ind n ih =>
    cases h : d.firstPlaceholder? text with
    | none => exact rest text h
    | some p =>
      have hlt : p.after.length < n := hn ▸ length_after_lt h
      exact placeholder text p h (ih p.after.length hlt p.after rfl)

/-! ## The bodies of a text -/

/-- The bodies of the placeholders that are read in a text, from left to right. -/
def bodies (d : Dialect) (text : Text) : List Text :=
  match _next : d.firstPlaceholder? text with
  | none => []
  | some p => p.body :: bodies d p.after
termination_by text.length
decreasing_by exact length_after_lt _next

/-- A text without a placeholder that is read has no bodies. -/
theorem bodies_of_none (h : d.firstPlaceholder? text = none) : d.bodies text = [] := by
  rw [bodies]
  split
  · rfl
  · rename_i p hp
    rw [h] at hp
    cases hp

/-- The bodies of a text are that of its first placeholder and those behind it. -/
theorem bodies_of_some (h : d.firstPlaceholder? text = some p) :
    d.bodies text = p.body :: d.bodies p.after := by
  rw [bodies]
  split
  · rename_i hp
    rw [h] at hp
    cases hp
  · rename_i q hq
    rw [h] at hq
    cases hq
    rfl

/-- A body is a part of the text. -/
theorem isInfix_of_mem_bodies {body : Text} (h : body ∈ d.bodies text) : body <:+: text := by
  induction text using d.placeholder_induction with
  | rest text hp =>
    rw [bodies_of_none hp] at h
    cases h
  | placeholder text p hp ih =>
    have htext := (firstPlaceholder?_eq_some_iff.mp hp).1
    rw [bodies_of_some hp] at h
    rcases List.mem_cons.mp h with rfl | h
    · refine ⟨p.before ++ d.opening, d.closing ++ p.after, ?_⟩
      rw [htext, written]
      simp only [List.append_assoc]
    · have hafter : p.after <:+ text := by
        rw [htext]
        exact List.suffix_append _ _
      exact (ih h).trans hafter.isInfix

/-- A body is shorter than the text. -/
theorem length_lt_of_mem_bodies {body : Text} (h : body ∈ d.bodies text) :
    body.length < text.length := by
  induction text using d.placeholder_induction with
  | rest text hp =>
    rw [bodies_of_none hp] at h
    cases h
  | placeholder text p hp ih =>
    rw [bodies_of_some hp] at h
    rcases List.mem_cons.mp h with rfl | h
    · exact length_body_lt hp
    · exact Nat.lt_trans (ih h) (length_after_lt hp)

/-! ## Dialects with the same delimiters -/

/-- Two dialects that write placeholders alike. -/
structure SameDelimiters (d d' : Dialect) : Prop where
  opening : d'.opening = d.opening
  closing : d'.closing = d.closing

section SameDelimiters

variable {d' : Dialect} (same : d.SameDelimiters d')
include same

/-- Dialects that write placeholders alike write a body alike. -/
theorem SameDelimiters.written (body : Text) : d'.written body = d.written body := by
  unfold Dialect.written
  rw [same.opening, same.closing]

/-- Dialects that write placeholders alike have the same short opening. -/
theorem SameDelimiters.shortOpening : d'.shortOpening = d.shortOpening := by
  unfold Dialect.shortOpening
  rw [same.opening, same.closing]

/-- Dialects that write placeholders alike find the same closing delimiters. -/
theorem SameDelimiters.closerIn? (nested : Nat) (text : Text) :
    d'.closerIn? nested text = d.closerIn? nested text := by
  fun_induction Dialect.closerIn? d nested text with
  | case1 => rw [Dialect.closerIn?]
  | case2 c rest hclosing =>
    rw [Dialect.closerIn?, same.closing, if_pos hclosing]
  | case3 c rest hclosing outer ih =>
    rw [Dialect.closerIn?, same.closing, if_pos hclosing, ih]
  | case4 nested c rest hclosing hopening ih =>
    rw [Dialect.closerIn?.eq_def]
    dsimp only
    rw [same.closing, same.shortOpening, if_neg hclosing, if_pos hopening, ih]
  | case5 nested c rest hclosing hopening ih =>
    rw [Dialect.closerIn?.eq_def]
    dsimp only
    rw [same.closing, same.shortOpening, if_neg hclosing, if_neg hopening, ih]

/-- Dialects that write placeholders alike read the same first placeholder. -/
theorem SameDelimiters.firstPlaceholder? (text : Text) :
    d'.firstPlaceholder? text = d.firstPlaceholder? text := by
  unfold Dialect.firstPlaceholder? closerAt?
  simp only [same.opening, same.closing, same.closerIn?]

end SameDelimiters

/-- The dialect in which `${name:default}` is a placeholder, and one without a value stays. -/
def shell : Dialect where
  opening := "$\x7b".text
  closing := "\x7d".text
  separator := some ":".text
  lenient := true
  opening_ne_nil := by decide
  closing_ne_nil := by decide
  opening_isUnicode := by decide
  closing_isUnicode := by decide
  separator_ne_nil := by decide

end Dialect

end Interpolation
