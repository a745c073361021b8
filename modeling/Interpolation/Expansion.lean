import Interpolation.Closer
import Interpolation.Failure
import Interpolation.Log
import Interpolation.Resolver

/-!
# Expansion

The engine expands a text from left to right.  At each opening delimiter it looks for the closing
delimiter that belongs to it; the text between them is the *body* of a placeholder.  The body is
expanded and gives the name; the name is looked up; the value is expanded in its turn and takes the
place of the placeholder in the text, and the search for the next opening delimiter goes on behind
it. Where an opening delimiter has no closing one, the rest of the text stays as it is.

A name that has no value is cut at the first separator, where there is one: the part before it is
looked up, and the part after it is the value if there is still none.  A placeholder without a value
stays in the text, or is a failure, as the dialect says.

The bodies that are being expanded are kept in the session.  A body that is met inside its own
expansion is a failure.  Expansions nest only so deep: `room` counts the levels that are left.

What looks up a name, fills in one placeholder and goes over a text is written for any monad in
which names can be asked for; `Expansion` is the monad that the program runs it in.
-/

set_option autoImplicit false

namespace Interpolation

/-! ## Sessions -/

/-- What the work with a resolver reads and changes. -/
structure Ledger (σ : Type) where
  /-- The state of the resolver. -/
  source : σ
  /-- The log entries made so far. -/
  log : List Log.Entry

/-- What an expansion reads and changes. -/
structure Session (σ : Type) extends Ledger σ where
  /-- The bodies that are being expanded, the innermost first. -/
  active : List Text

/-- A step of an expansion: it changes the session, also where it fails. -/
abbrev Expansion (σ : Type) := ExceptT Failure (StateM (Session σ))

/-- The value in a reply to a name, which must be a text if there is one. -/
def Reply.checked (name : Text) : Reply → Except Failure (Option Text)
  | absent => .ok none
  | text value => .ok (some value)
  | other value => .error (.badArgument (.answerOfKind value.kind name))
  | fault f => .error (.sourceFault f)

namespace Expansion

/-! ## Looking up a name, and filling in placeholders -/

section

variable {m : Type → Type} [Monad m] [MonadExcept Failure m]

/-- The value of a name, or else of the part before the first separator, or else the part after it.
-/
def lookUp (dialect : Dialect) (ask : Text → m (Option Text)) (name : Text) : m (Option Text) := do
  match ← ask name with
  | some value => return some value
  | none =>
    match dialect.separator.bind (Text.cutAt? · name) with
    | none => return none
    | some (actual, default) => return some ((← ask actual).getD default)

/-- What takes the place of the placeholder with a body; nothing does if it has no value and may
stay.  `expandInner` expands bodies and values one level deeper, `value` is the text that the
placeholder is met in, as it was before anything in it was replaced, and `start` is where the
placeholder stands now. -/
def fillIn (dialect : Dialect) (ask : Text → m (Option Text)) (record : Text → m Unit)
    (expandInner : Text → m Text) (value body : Text) (start : Nat) : m (Option Text) := do
  let name ← expandInner body
  match ← lookUp dialect ask name with
  | some found =>
    let insertion ← expandInner found
    record name
    return some insertion
  | none =>
    if dialect.lenient then return none
    else throw (.unresolvable (.text name) (.text value) (.int start))

/-- Replaces the placeholders of the buffer from the cursor on.  `replacement` gives what takes the
place of a placeholder with a body and an index, or nothing if it stays. -/
def spliceFrom (dialect : Dialect) (replacement : Text → Nat → m (Option Text)) (buffer : Text)
    (cursor : Nat) : m Text :=
  match _opening : Text.indexFrom? dialect.opening buffer cursor with
  | none => return buffer
  | some start =>
    match _closing : dialect.closerAt? buffer start with
    | none => return buffer
    | some stop => do
      match ← replacement (buffer.slice (start + dialect.opening.length) stop) start with
      | some insertion =>
        spliceFrom dialect replacement
          (buffer.splice start (stop + dialect.closing.length) insertion)
          (start + insertion.length)
      | none => spliceFrom dialect replacement buffer (stop + dialect.closing.length)
termination_by buffer.length - cursor
decreasing_by
  all_goals
    have := Text.le_of_indexFrom? _opening
    have := dialect.add_le_of_closerAt? _closing
    have := dialect.closerAt?_add_le _closing
    have := dialect.opening_length_pos
    have := dialect.closing_length_pos
  · rw [Text.length_splice (by omega) (by omega)]
    omega
  · omega

end

/-! ## Expanding a text -/

variable {σ : Type}

/-- Marks a body as being expanded, unless it is so already. -/
def enter (body : Text) : Expansion σ Unit := do
  if body ∈ (← get).active then throw (.circular (.text body))
  modify fun s => { s with active := body :: s.active }

/-- Ends the expansion of a body. -/
def leave (body : Text) : Expansion σ Unit :=
  modify fun s => { s with active := s.active.erase body }

/-- Does work while a body is marked as being expanded. -/
def within {α : Type} (body : Text) (work : Expansion σ α) : Expansion σ α := do
  enter body
  let result ← work
  leave body
  return result

/-- Makes the entry for a placeholder that has been replaced. -/
def recordSubstitution (name : Text) : Expansion σ Unit :=
  modify fun s => { s with log := s.log ++ [.substituted name] }

/-- The value that a resolver has for a name. -/
def ask (resolver : Resolver σ) (name : Text) : Expansion σ (Option Text) := do
  let reply ← modifyGet fun s =>
    let (reply, source) := resolver (.text name) s.source
    (reply, { s with source })
  MonadExcept.ofExcept (reply.checked name)

/-- Expands a text where so many levels are left; `limit` is the limit on the levels of the whole
expansion as it has been given. -/
def expand (dialect : Dialect) (resolver : Resolver σ) (limit : Value) :
    (room : Nat) → Text → Expansion σ Text
  | 0, value => throw (.tooDeep limit (.text value))
  | room + 1, value =>
    spliceFrom dialect (fun body start =>
      within body (fillIn dialect (ask resolver) recordSubstitution
        (expand dialect resolver limit room) value body start)) value 0

end Expansion

end Interpolation
