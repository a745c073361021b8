import Interpolation.Expansion
import Interpolation.Proofs.Placeholder

/-!
# One pass over a text

The engine replaces placeholders in a buffer that it goes on reading, so every replacement moves
what is still to be read.  `walkFrom` reads a text once, from left to right, and never reads what it
has written: it emits what stands before the first placeholder, then what takes the placeholder's
place, or the placeholder as it is written, and goes on behind it.  Where no placeholder is left it
emits the rest.

`spliceFrom_append` says that the two are the same computation, in every monad: what has been
emitted is the front of the buffer, up to the cursor, and what is unread is the rest of it.

`singlePass` is an engine that is made of such passes.  It keeps no set of bodies that is shared and
put back in order: each expansion is given the bodies that it stands in.
-/

set_option autoImplicit false

namespace Interpolation

namespace Expansion

variable {m : Type → Type} [Monad m]

/-- Goes over the unread text once; `replacement` gives what takes the place of a placeholder with a
body, where so much has been emitted before it, or nothing if it stays. -/
def walkFrom (dialect : Dialect) (replacement : Text → Nat → m (Option Text))
    (emitted unread : Text) : m Text :=
  match _next : dialect.firstPlaceholder? unread with
  | none => return emitted ++ unread
  | some p => do
    let insertion ← replacement p.body (emitted ++ p.before).length
    walkFrom dialect replacement
      (emitted ++ p.before ++ insertion.getD (dialect.written p.body)) p.after
termination_by unread.length
decreasing_by exact Dialect.length_after_lt _next

variable {dialect : Dialect} {replacement : Text → Nat → m (Option Text)} {emitted unread : Text}

/-- Where no placeholder is left, the rest is emitted. -/
theorem walkFrom_of_none (h : dialect.firstPlaceholder? unread = none) :
    walkFrom dialect replacement emitted unread = pure (emitted ++ unread) := by
  rw [walkFrom]
  split
  · rfl
  · rename_i p hp
    rw [h] at hp
    cases hp

/-- One step of a pass. -/
theorem walkFrom_of_some {p : Placeholder} (h : dialect.firstPlaceholder? unread = some p) :
    walkFrom dialect replacement emitted unread =
      replacement p.body (emitted ++ p.before).length >>= fun insertion =>
        walkFrom dialect replacement
          (emitted ++ p.before ++ insertion.getD (dialect.written p.body)) p.after := by
  rw [walkFrom]
  split
  · rename_i hp
    rw [h] at hp
    cases hp
  · rename_i q hq
    rw [h] at hq
    cases hq
    rfl

/-- Where no placeholder is left, the loop over a buffer ends. -/
theorem spliceFrom_of_none (h : dialect.firstPlaceholder? unread = none) :
    spliceFrom dialect replacement (emitted ++ unread) emitted.length =
      pure (emitted ++ unread) := by
  rw [spliceFrom]
  split
  · rfl
  · rename_i start hstart
    rw [Text.indexFrom?_append] at hstart
    obtain ⟨i, hi, rfl⟩ := Option.map_eq_some_iff.mp hstart
    have hclose := Dialect.firstPlaceholder?_eq_none_iff.mp h i hi
    split
    · rfl
    · rename_i stop hstop
      rw [Dialect.closerAt?_append, hclose] at hstop
      cases hstop

/-- One step of the loop over a buffer: what has been emitted grows, and the cursor stays at its
end. -/
theorem spliceFrom_of_some {p : Placeholder} (h : dialect.firstPlaceholder? unread = some p) :
    spliceFrom dialect replacement (emitted ++ unread) emitted.length =
      replacement p.body (emitted ++ p.before).length >>= fun insertion =>
        spliceFrom dialect replacement
          (emitted ++ p.before ++ insertion.getD (dialect.written p.body) ++ p.after)
          (emitted ++ p.before ++ insertion.getD (dialect.written p.body)).length := by
  have htext := (Dialect.firstPlaceholder?_eq_some_iff.mp h).1
  rw [spliceFrom]
  split
  · rename_i hstart
    rw [Text.indexFrom?_append, (Dialect.firstPlaceholder?_eq_some_iff.mp h).2.1] at hstart
    cases hstart
  · rename_i start hstart
    rw [Text.indexFrom?_append, (Dialect.firstPlaceholder?_eq_some_iff.mp h).2.1, Option.map_some,
      Option.some_inj] at hstart
    subst hstart
    split
    · rename_i hstop
      rw [Dialect.closerAt?_append, Dialect.closerAt?_of_firstPlaceholder? h] at hstop
      cases hstop
    · rename_i stop hstop
      rw [Dialect.closerAt?_append, Dialect.closerAt?_of_firstPlaceholder? h, Option.map_some,
        Option.some_inj] at hstop
      subst hstop
      have hbody := Dialect.slice_of_firstPlaceholder? h
      rw [Nat.add_assoc, Text.slice_append, hbody, List.length_append]
      congr 1
      funext insertion
      cases insertion with
      | none =>
        dsimp only
        have hbuffer : emitted ++ unread =
            emitted ++ p.before ++ dialect.written p.body ++ p.after := by
          rw [htext]
          simp only [List.append_assoc]
        have hcursor : emitted.length +
              (p.before.length + dialect.opening.length + p.body.length) +
              dialect.closing.length =
            (emitted ++ p.before ++ dialect.written p.body).length := by
          simp only [Dialect.written, List.length_append]
          omega
        rw [Option.getD_none, ← hbuffer, hcursor]
      | some insertion =>
        dsimp only
        rw [Nat.add_assoc emitted.length _ dialect.closing.length, Text.splice_append,
          Dialect.splice_of_firstPlaceholder? h, Option.getD_some]
        simp only [List.append_assoc, List.length_append, Nat.add_assoc]

/-- Replacing in a buffer is one pass over what is unread of it. -/
theorem spliceFrom_append (emitted unread : Text) :
    spliceFrom dialect replacement (emitted ++ unread) emitted.length =
      walkFrom dialect replacement emitted unread := by
  -- the buffer may grow, but the unread part of it gets shorter at every step
  induction unread using dialect.placeholder_induction generalizing emitted with
  | rest unread h => rw [spliceFrom_of_none h, walkFrom_of_none h]
  | placeholder unread p h ih =>
    rw [spliceFrom_of_some h, walkFrom_of_some h]
    congr 1
    funext insertion
    exact ih _

/-- Replacing in a whole text is one pass over it. -/
theorem spliceFrom_zero (value : Text) :
    spliceFrom dialect replacement value 0 = walkFrom dialect replacement [] value :=
  spliceFrom_append [] value

/-- A pass depends on how a dialect writes placeholders, and on nothing else of it. -/
theorem walkFrom_of_sameDelimiters {dialect' : Dialect} (same : dialect.SameDelimiters dialect')
    (emitted unread : Text) :
    walkFrom dialect' replacement emitted unread =
      walkFrom dialect replacement emitted unread := by
  induction unread using dialect.placeholder_induction generalizing emitted with
  | rest unread h =>
    have h' : dialect'.firstPlaceholder? unread = none := by rw [same.firstPlaceholder?, h]
    rw [walkFrom_of_none h, walkFrom_of_none h']
  | placeholder unread p h ih =>
    have h' : dialect'.firstPlaceholder? unread = some p := by rw [same.firstPlaceholder?, h]
    rw [walkFrom_of_some h, walkFrom_of_some h']
    congr 1
    funext insertion
    rw [same.written, ih]

/-! ## The engine as single passes -/

variable [MonadExcept Failure m]

/-- Expands a text in one pass, where so many levels are left.  The bodies that are being expanded
are handed on: every inner expansion gets those of its own place. -/
def singlePass (dialect : Dialect) (ask : Text → m (Option Text)) (record : Text → m Unit)
    (limit : Value) : (room : Nat) → (active : List Text) → Text → m Text
  | 0, _, value => throw (.tooDeep limit (.text value))
  | room + 1, active, value =>
    walkFrom dialect (fun body start =>
      if body ∈ active then throw (.circular (.text body))
      else fillIn dialect ask record (singlePass dialect ask record limit room (body :: active))
        value body start) [] value

/-- A text without a placeholder that is read comes to itself. -/
theorem singlePass_of_none {ask : Text → m (Option Text)} {record : Text → m Unit} {limit : Value}
    {room : Nat} {active : List Text} {value : Text}
    (h : dialect.firstPlaceholder? value = none) :
    singlePass dialect ask record limit (room + 1) active value = pure value := by
  rw [singlePass, walkFrom_of_none h, List.nil_append]

end Expansion

end Interpolation
