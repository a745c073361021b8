import Interpolation.Text.Order

/-!
# Similar texts

How much two texts have in common is measured by blocks.  The longest block of characters that
stands in both is taken first, then the longest one in what is before it in both, and the longest
one in what is behind it in both, and so on.  The texts are similar if the blocks make up three
fifths of their characters.

`closest` picks the texts that are most similar to a given one.  `matched_le_left` says that blocks
never take more than a text has.
-/

set_option autoImplicit false

namespace Interpolation

namespace Text

/-! ## Blocks -/

/-- The number of characters at the start that two texts have in common. -/
def commonStart : Text → Text → Nat
  | a :: as, b :: bs => if a = b then commonStart as bs + 1 else 0
  | _, _ => 0

/-- A block of characters that stands in two texts. -/
structure Block where
  /-- The place of the block in the first text. -/
  left : Nat
  /-- The place of the block in the second text. -/
  right : Nat
  size : Nat
deriving DecidableEq

/-- Of two blocks the longer one; of two equally long ones the first. -/
def Block.longer (a b : Block) : Block :=
  if a.size < b.size then b else a

/-- All blocks that are as long as they can be, by their places. -/
def blocks (a b : Text) : List Block :=
  (List.range a.length).flatMap fun left =>
    (List.range b.length).map fun right =>
      ⟨left, right, commonStart (a.drop left) (b.drop right)⟩

/-- The longest block, the first such one in the first text, and then in the second. -/
def longestBlock (a b : Text) : Block :=
  (blocks a b).foldl Block.longer ⟨0, 0, 0⟩

/-- The number of characters in the blocks that two texts have in common. -/
def matched (a b : Text) : Nat :=
  match longestBlock a b with
  | ⟨left, right, size⟩ =>
    if _inside : 0 < size ∧ left + size ≤ a.length then
      matched (a.take left) (b.take right) + size +
        matched (a.drop (left + size)) (b.drop (right + size))
    else 0
termination_by a.length
decreasing_by
  · simp only [List.length_take]
    omega
  · simp only [List.length_drop]
    omega

/-- Blocks take no more characters than the first text has. -/
theorem matched_le_left (a b : Text) : matched a b ≤ a.length := by
  rw [matched]
  generalize longestBlock a b = block
  obtain ⟨left, right, size⟩ := block
  simp only
  split
  · rename_i inside
    have before := matched_le_left (a.take left) (b.take right)
    have behind := matched_le_left (a.drop (left + size)) (b.drop (right + size))
    rw [List.length_take] at before
    rw [List.length_drop] at behind
    omega
  · exact Nat.zero_le a.length
termination_by a.length
decreasing_by
  · simp only [List.length_take]
    omega
  · simp only [List.length_drop]
    omega

/-! ## Similar texts -/

/-- Whether the blocks of two texts make up three fifths of their characters; where one text is so
short that all of it would be too little, no block is looked for. -/
def isSimilar (a b : Text) : Bool :=
  let enough (n : Nat) : Prop := 3 * (a.length + b.length) ≤ 10 * n
  enough (min a.length b.length) ∧ enough (matched a b)

/-- Whether a text comes before another one in the order of their likeness to a third one: it is
more like it, or as like it and later in the order of texts. -/
def isCloser (word a b : Text) : Bool :=
  let left := matched a word * (b.length + word.length)
  let right := matched b word * (a.length + word.length)
  right < left || (right = left && isAtMost b a)

/-- So many of several texts that are similar to one, the most similar ones first. -/
def closest (count : Nat) (word : Text) (others : List Text) : List Text :=
  ((others.filter (isSimilar · word)).mergeSort (isCloser word)).take count

end Text

end Interpolation
