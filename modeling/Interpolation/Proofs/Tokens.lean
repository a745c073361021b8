import Interpolation.Proofs.Nesting

/-!
# The balanced closing delimiter

The text behind an opening delimiter is a sequence of tokens: at each place a closing delimiter if
one stands there, else a short opening if one stands there, else a single character.  `tokens` is
this sequence; spelled out again, it is the text.

Tokens are *balanced* if no beginning of them has more closing delimiters than short openings, and
all of them together have as many of the one as of the other.  `closerIn?_eq_some_iff` says what the
search for a closing delimiter finds, with any number of short openings still unclosed: the closing
delimiter up to which the tokens close these and their own.  At level zero these are the balanced
ones, and `closer?_balanced` says so for indices into a buffer: the closing delimiter is found
exactly where the tokens before it are balanced, there is at most one such place, and what stands in
front of the placeholder has no part in it.
-/

set_option autoImplicit false

namespace Interpolation

/-- A part of the text behind an opening delimiter. -/
inductive Token
  | closing
  /-- A short opening. -/
  | opening
  | char (c : CodePoint)
deriving DecidableEq

/-! ## Balanced tokens -/

namespace Token

/-- Tokens in which every closing delimiter closes a short opening before it, and every short
opening is closed. -/
structure Balanced (tokens : List Token) : Prop where
  closings_le : ∀ front, front <+: tokens → front.count closing ≤ front.count opening
  closings_eq : tokens.count closing = tokens.count opening

/-- Tokens that close what they open, and a number of short openings from before. -/
structure BalancedFrom (nested : Nat) (tokens : List Token) : Prop where
  closings_le : ∀ front, front <+: tokens → front.count closing ≤ nested + front.count opening
  closings_eq : tokens.count closing = nested + tokens.count opening

variable {nested nested' : Nat} {tokens : List Token} {t : Token}

/-- With nothing unclosed from before, the tokens are balanced. -/
theorem balancedFrom_zero : BalancedFrom 0 tokens ↔ Balanced tokens := by
  constructor
  · intro h
    exact ⟨by simpa using h.closings_le, by simpa using h.closings_eq⟩
  · intro h
    exact ⟨by simpa using h.closings_le, by simpa using h.closings_eq⟩

/-- No tokens close nothing. -/
theorem balancedFrom_nil : BalancedFrom nested [] ↔ nested = 0 := by
  constructor
  · intro h
    simpa using h.closings_eq.symm
  · rintro rfl
    exact ⟨by simp, rfl⟩

/-- What is unclosed behind a token is what was before, and what the token opens or closes. -/
theorem balancedFrom_cons (h : nested + [t].count opening = nested' + [t].count closing) :
    BalancedFrom nested (t :: tokens) ↔ BalancedFrom nested' tokens := by
  have hcount : ∀ (front : List Token) (x : Token),
      (t :: front).count x = [t].count x + front.count x := by
    intro front x
    rw [← List.count_append, List.singleton_append]
  constructor
  · intro hbalanced
    constructor
    · intro front hfront
      have hle := hbalanced.closings_le (t :: front) ((List.prefix_cons_inj t).mpr hfront)
      rw [hcount front closing, hcount front opening] at hle
      omega
    · have heq := hbalanced.closings_eq
      rw [hcount tokens closing, hcount tokens opening] at heq
      omega
  · intro hbalanced
    constructor
    · intro front hfront
      rcases List.prefix_cons_iff.mp hfront with rfl | ⟨rest, rfl, hrest⟩
      · simp
      · have hle := hbalanced.closings_le rest hrest
        rw [hcount rest closing, hcount rest opening]
        omega
    · have heq := hbalanced.closings_eq
      rw [hcount tokens closing, hcount tokens opening]
      omega

/-- A closing delimiter has something to close. -/
theorem not_balancedFrom_zero_closing_cons : ¬ BalancedFrom 0 (closing :: tokens) := by
  intro h
  have hle := h.closings_le [closing] (by simp)
  simp at hle

end Token

namespace Dialect

/-! ## The tokens of a text -/

/-- A token as it is written. -/
def spellToken (d : Dialect) : Token → Text
  | .closing => d.closing
  | .opening => d.shortOpening
  | .char c => [c]

/-- Tokens as they are written. -/
def spell (d : Dialect) (tokens : List Token) : Text :=
  tokens.flatMap d.spellToken

/-- The tokens of a text, from left to right: a closing delimiter where one stands, else a short
opening where one stands, else a single character. -/
def tokens (d : Dialect) (text : Text) : List Token :=
  match text with
  | [] => []
  | c :: rest =>
    if d.closing <+: c :: rest then
      .closing :: tokens d ((c :: rest).drop d.closing.length)
    else if d.shortOpening <+: c :: rest then
      .opening :: tokens d ((c :: rest).drop d.shortOpening.length)
    else
      .char c :: tokens d rest
termination_by text.length
decreasing_by
  · have := d.closing_length_pos
    simp only [List.length_drop, List.length_cons]
    omega
  · have := d.shortOpening_length_pos
    simp only [List.length_drop, List.length_cons]
    omega
  · simp

variable {d : Dialect} {text rest : Text} {c : CodePoint}

@[simp]
theorem tokens_nil : d.tokens [] = [] := by
  rw [tokens]

@[simp]
theorem spell_nil : d.spell [] = [] :=
  rfl

@[simp]
theorem spell_cons (t : Token) (ts : List Token) :
    d.spell (t :: ts) = d.spellToken t ++ d.spell ts :=
  List.flatMap_cons

@[simp]
theorem spell_append (ts ts' : List Token) : d.spell (ts ++ ts') = d.spell ts ++ d.spell ts' :=
  List.flatMap_append

/-- The tokens of a text spell the text. -/
theorem spell_tokens (text : Text) : d.spell (d.tokens text) = text := by
  have hcut : ∀ {pattern text : Text}, pattern <+: text →
      pattern ++ text.drop pattern.length = text := by
    rintro pattern _ ⟨behind, rfl⟩
    rw [List.drop_left]
  fun_induction tokens d text with
  | case1 => rfl
  | case2 c rest h ih => rw [spell_cons, ih, spellToken, hcut h]
  | case3 c rest _ h ih => rw [spell_cons, ih, spellToken, hcut h]
  | case4 c rest _ _ ih => rw [spell_cons, ih, spellToken, List.singleton_append]

/-! ## What the search finds -/

/-- Tokens in which a closing delimiter comes after so many characters, behind tokens that close a
number of short openings and their own. -/
def ClosesAfter (d : Dialect) (nested : Nat) (tokens : List Token) (width : Nat) : Prop :=
  ∃ inside behind, tokens = inside ++ .closing :: behind ∧
    Token.BalancedFrom nested inside ∧ (d.spell inside).length = width

section ClosesAfter

variable {nested nested' width : Nat} {t : Token} {ts : List Token}

theorem not_closesAfter_nil : ¬ d.ClosesAfter nested [] width := by
  rintro ⟨inside, behind, hcut, -⟩
  simp at hcut

/-- With nothing to close, a closing delimiter comes first. -/
theorem closesAfter_zero_closing : d.ClosesAfter 0 (.closing :: ts) width ↔ width = 0 := by
  constructor
  · rintro ⟨inside, behind, hcut, hbalanced, rfl⟩
    cases inside with
    | nil => rfl
    | cons t inside =>
      cases hcut
      exact absurd hbalanced Token.not_balancedFrom_zero_closing_cons
  · rintro rfl
    exact ⟨[], ts, rfl, Token.balancedFrom_nil.mpr rfl, rfl⟩

/-- Any other token has its part in what there is to close, and in the width. -/
theorem closesAfter_cons (nested' : Nat) (hfirst : t = .closing → nested ≠ 0)
    (h : nested + [t].count .opening = nested' + [t].count .closing) :
    d.ClosesAfter nested (t :: ts) width ↔
      ∃ width', d.ClosesAfter nested' ts width' ∧ (d.spellToken t).length + width' = width := by
  constructor
  · rintro ⟨inside, behind, hcut, hbalanced, rfl⟩
    cases inside with
    | nil =>
      cases hcut
      exact absurd (Token.balancedFrom_nil.mp hbalanced) (hfirst rfl)
    | cons first inside =>
      cases hcut
      exact ⟨_, ⟨inside, behind, rfl, (Token.balancedFrom_cons h).mp hbalanced, rfl⟩, by simp⟩
  · rintro ⟨_, ⟨inside, behind, rfl, hbalanced, rfl⟩, rfl⟩
    exact ⟨t :: inside, behind, rfl, (Token.balancedFrom_cons h).mpr hbalanced, by simp⟩

end ClosesAfter

/-- The search for a closing delimiter, with so many short openings unclosed, finds the one up to
which the tokens close these and what they open themselves. -/
theorem closerIn?_eq_some_iff {nested i : Nat} :
    d.closerIn? nested text = some i ↔ d.ClosesAfter nested (d.tokens text) i := by
  fun_induction tokens d text generalizing nested i with
  | case1 => simp [closerIn?, not_closesAfter_nil]
  | case2 c rest hclosing ih =>
    obtain ⟨behind, hbehind⟩ := hclosing
    rw [← hbehind, List.drop_left] at ih ⊢
    cases nested with
    | zero =>
      rw [closerIn?_zero_closing, closesAfter_zero_closing, Option.some_inj, eq_comm]
    | succ outer =>
      rw [closerIn?_succ_closing, Option.map_eq_some_iff,
        closesAfter_cons outer (by simp) (by simp)]
      simp only [ih, spellToken]
  | case3 c rest hclosing hopening ih =>
    obtain ⟨behind, hbehind⟩ := hopening
    rw [← hbehind] at hclosing
    rw [← hbehind, List.drop_left] at ih ⊢
    rw [closerIn?_shortOpening hclosing, Option.map_eq_some_iff,
      closesAfter_cons (nested + 1) (by simp) (by simp)]
    simp only [ih, spellToken]
  | case4 c rest hclosing hopening ih =>
    rw [closerIn?_cons hclosing hopening, Option.map_eq_some_iff,
      closesAfter_cons nested (by simp) (by simp)]
    simp only [ih, spellToken, List.length_singleton]

/-- A place in a buffer where a closing delimiter stands as a token, if the buffer is read as tokens
from an index on, and the tokens between the two are balanced. -/
def ClosesAt (d : Dialect) (buffer : Text) (start stop : Nat) : Prop :=
  ∃ inside behind, d.tokens (buffer.drop start) = inside ++ .closing :: behind ∧
    Token.Balanced inside ∧ stop = start + (d.spell inside).length

/-- The closing delimiter of a placeholder is the balanced one behind its opening delimiter. -/
theorem closerAt?_eq_some_iff {buffer : Text} {start stop : Nat} :
    d.closerAt? buffer start = some stop ↔
      d.ClosesAt buffer (start + d.opening.length) stop := by
  rw [closerAt?, Option.map_eq_some_iff]
  simp only [closerIn?_eq_some_iff, ClosesAfter, ClosesAt, Token.balancedFrom_zero]
  constructor
  · rintro ⟨_, ⟨inside, behind, hcut, hbalanced, rfl⟩, rfl⟩
    exact ⟨inside, behind, hcut, hbalanced, rfl⟩
  · rintro ⟨inside, behind, hcut, hbalanced, rfl⟩
    exact ⟨_, ⟨inside, behind, hcut, hbalanced, rfl⟩, rfl⟩

/-- A balanced closing delimiter stands behind the start, within the buffer. -/
theorem ClosesAt.le {buffer : Text} {start stop : Nat} (h : d.ClosesAt buffer start stop) :
    start ≤ stop ∧ stop + d.closing.length ≤ buffer.length := by
  obtain ⟨inside, behind, hcut, -, rfl⟩ := h
  have hlength := congrArg List.length (spell_tokens (d := d) (buffer.drop start))
  rw [hcut] at hlength
  simp [spellToken] at hlength
  have hpos := d.closing_length_pos
  omega

/-- The search for the closing delimiter of a placeholder finds the balanced one.  An index is found
exactly if the buffer, read as tokens from behind the opening delimiter, has a closing delimiter
there and balanced tokens before it; there is at most one such index, behind the opening delimiter
and within the buffer, and nothing is found exactly if there is none.  A text in front of the
buffer moves what is found by its length. -/
theorem closer?_balanced (d : Dialect) (buffer : Text) (start : Nat) :
    let inner := start + d.opening.length
    (∀ e : Int, d.closer? buffer start = some e ↔
      ∃ stop : Nat, e = stop ∧ d.ClosesAt buffer inner stop) ∧
    (∀ stop stop', d.ClosesAt buffer inner stop → d.ClosesAt buffer inner stop' → stop = stop') ∧
    (∀ stop, d.ClosesAt buffer inner stop →
      inner ≤ stop ∧ stop + d.closing.length ≤ buffer.length) ∧
    (d.closer? buffer start = none ↔ ∀ stop, ¬ d.ClosesAt buffer inner stop) ∧
    ∀ front : Text, d.closer? (front ++ buffer) (front.length + start) =
      (d.closer? buffer start).map ((front.length : Int) + ·) := by
  intro inner
  refine ⟨?_, ?_, fun stop h => h.le, ?_, ?_⟩
  · intro e
    rw [closer?_natCast, Option.map_eq_some_iff]
    simp only [closerAt?_eq_some_iff]
    constructor
    · rintro ⟨stop, hcloses, rfl⟩
      exact ⟨stop, rfl, hcloses⟩
    · rintro ⟨stop, rfl, hcloses⟩
      exact ⟨stop, hcloses, rfl⟩
  · intro stop stop' h h'
    rw [← closerAt?_eq_some_iff] at h h'
    exact Option.some_inj.mp (h.symm.trans h')
  · rw [closer?_natCast, Option.map_eq_none_iff, Option.eq_none_iff_forall_ne_some]
    simp only [ne_eq, closerAt?_eq_some_iff]
    rfl
  · intro front
    rw [← Int.natCast_add, closer?_natCast, closer?_natCast, closerAt?_append, Option.map_map,
      Option.map_map]
    congr 1

end Dialect

end Interpolation
