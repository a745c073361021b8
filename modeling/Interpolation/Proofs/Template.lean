import Interpolation.Proofs.CycleCheck
import Interpolation.Proofs.Nesting

/-!
# The meaning of templates

A template is made of literal texts and of references, and a reference has a template for its name.
Where every name has a template or nothing, `Denotes` says what a template means: a literal means
itself, and a reference means what the template of its name means, or else what the template of the
part before the separator means, or else the part after it.  A meaning has a derivation, and the
derivation has a depth, to which references nest in it through names and values.

A template is printed with the delimiters of a dialect.  `replace_print_of_denotes` says that an
expander that is given the print of a template, and answers with prints, gives the meaning, whenever
the depth of the derivation is within its limit.  Printed templates nest, so the search for a
closing delimiter passes over them (`closerIn?_print`) and the first placeholder is the first
reference (`firstPlaceholder?_print`).  Meanings are plain, so nothing in a name or a default is
read as a placeholder.  The expansion without the cycle check then follows the derivation, and as
it ends, the check changes nothing.
-/

set_option autoImplicit false

namespace Interpolation

open Expansion

/-- A template of literal texts without characters of the delimiters, and references by name. -/
inductive Template (d : Dialect)
  | nil
  | lit (text : Text) (plain : d.Plain text) (rest : Template d)
  | ref (name rest : Template d)

namespace Template

variable {d : Dialect}

/-- A template as it is written in the dialect. -/
def print : Template d → Text
  | nil => []
  | lit text _ rest => text ++ rest.print
  | ref name rest => d.written name.print ++ rest.print

/-- The replies that give the prints of templates. -/
def reply (answers : Text → Option (Template d)) (name : Text) : Reply :=
  match answers name with
  | none => .absent
  | some value => .text value.print

/-- What a template means, by a derivation in which references nest at most so deep. -/
inductive Denotes (answers : Text → Option (Template d)) : Nat → Template d → Text → Prop
  | nil {depth : Nat} : Denotes answers depth .nil []
  | lit {depth : Nat} {text meaning : Text} {plain : d.Plain text} {rest : Template d} :
    Denotes answers depth rest meaning →
    Denotes answers depth (.lit text plain rest) (text ++ meaning)
  /-- The name has a value. -/
  | named {depth : Nat} {name value rest : Template d} {called result meaning : Text} :
    Denotes answers depth name called →
    answers called = some value →
    Denotes answers depth value result →
    Denotes answers (depth + 1) rest meaning →
    Denotes answers (depth + 1) (.ref name rest) (result ++ meaning)
  /-- The name has no value, but the part before the first separator has one. -/
  | actual {depth : Nat} {name value rest : Template d}
    {called separator before after result meaning : Text} :
    Denotes answers depth name called →
    answers called = none →
    d.separator = some separator →
    Text.IsFirstCut separator called before after →
    answers before = some value →
    Denotes answers depth value result →
    Denotes answers (depth + 1) rest meaning →
    Denotes answers (depth + 1) (.ref name rest) (result ++ meaning)
  /-- Neither has a value, and the part after the first separator is the default. -/
  | default {depth : Nat} {name rest : Template d} {called separator before after meaning : Text} :
    Denotes answers depth name called →
    answers called = none →
    d.separator = some separator →
    Text.IsFirstCut separator called before after →
    answers before = none →
    Denotes answers (depth + 1) rest meaning →
    Denotes answers (depth + 1) (.ref name rest) (after ++ meaning)

/-! ## Prints -/

/-- The search for a closing delimiter passes over a print. -/
theorem closerIn?_print (nestable : d.Nestable) (t : Template d) (nested : Nat) (tail : Text) :
    d.closerIn? nested (t.print ++ tail) =
      (d.closerIn? nested tail).map (t.print.length + ·) := by
  induction t generalizing nested tail with
  | nil => simp [print]
  | lit text plain rest ih =>
    rw [print, List.append_assoc, plain.closerIn?_append, ih, Dialect.map_add_map_add,
      List.length_append]
  | ref name rest ihname ihrest =>
    have hprint : (ref name rest).print ++ tail =
        d.opening ++ (name.print ++ (d.closing ++ (rest.print ++ tail))) := by
      simp only [print, Dialect.written, List.append_assoc]
    rw [hprint, nestable.closerIn?_opening, ihname, Dialect.closerIn?_succ_closing, ihrest,
      Dialect.map_add_map_add, Dialect.map_add_map_add, Dialect.map_add_map_add]
    simp only [print, Dialect.written, List.length_append]

/-- The first placeholder of a text that starts plain is the first reference. -/
theorem firstPlaceholder?_print (nestable : d.Nestable) {front : Text} (plain : d.Plain front)
    (name rest : Template d) :
    d.firstPlaceholder? (front ++ (ref name rest).print) =
      some ⟨front, name.print, rest.print⟩ := by
  have hclose : d.closerIn? 0 (name.print ++ d.closing ++ rest.print) =
      some name.print.length := by
    rw [List.append_assoc, closerIn?_print nestable, Dialect.closerIn?_zero_closing]
    rfl
  rw [print, ← List.append_assoc]
  exact plain.firstPlaceholder?_append hclose

/-! ## Meanings -/

variable {answers : Text → Option (Template d)} {t : Template d} {meaning : Text} {depth : Nat}

/-- A meaning is plain. -/
theorem Denotes.plain (h : Denotes answers depth t meaning) : d.Plain meaning := by
  induction h with
  | nil => exact Dialect.plain_nil
  | @lit _ _ _ plain _ _ ih => exact Dialect.plain_append.mpr ⟨plain, ih⟩
  | named _ _ _ _ _ ihvalue ihrest => exact Dialect.plain_append.mpr ⟨ihvalue, ihrest⟩
  | actual _ _ _ _ _ _ _ _ ihvalue ihrest => exact Dialect.plain_append.mpr ⟨ihvalue, ihrest⟩
  | default _ _ _ hcut _ _ ihname ihrest =>
    -- the default is an end of a name, which is plain
    rw [hcut.eq_append] at ihname
    exact Dialect.plain_append.mpr ⟨(Dialect.plain_append.mp ihname).2, ihrest⟩

/-! ## Looking up a name -/

section LookUp

variable {name separator before after : Text} {value : Template d}

/-- The question for a name comes to the print of its template. -/
theorem outcome_ask (answers : Text → Option (Template d)) (name : Text) :
    (Transcript.ask (reply answers) name).outcome = .ok ((answers name).map print) := by
  rw [Transcript.ask, reply]
  cases answers name <;> rfl

/-- The value of a name that has one. -/
theorem outcome_lookUp_of_some (h : answers name = some value) :
    (lookUp d (Transcript.ask (reply answers)) name).outcome = .ok (some value.print) := by
  apply outcome_lookUp_of_text
  rw [reply, h]

/-- The value of a name that has none is that of the part before the first separator, or else the
part after it. -/
theorem outcome_lookUp_of_none (h : answers name = none) (hseparator : d.separator = some separator)
    (hcut : Text.IsFirstCut separator name before after) :
    (lookUp d (Transcript.ask (reply answers)) name).outcome =
      .ok (some (((answers before).map print).getD after)) := by
  have hask := outcome_ask answers name
  rw [h] at hask
  have hparts : d.separator.bind (Text.cutAt? · name) = some (before, after) := by
    rw [hseparator, Option.bind_some, Text.cutAt?_eq_some_iff.mpr hcut]
  rw [lookUp, Transcript.bind_of_ok hask]
  dsimp only [Option.map_none]
  rw [hparts]
  dsimp only
  rw [Transcript.bind_of_ok (outcome_ask answers before)]
  rfl

end LookUp

/-! ## Expanding a print -/

/-- A template over whose print a pass, with so many levels below it, emits a text, behind anything
that has been emitted and any plain text that is still to be. -/
def Emits (answers : Text → Option (Template d)) (limit : Value) (depth : Nat) (t : Template d)
    (text : Text) : Prop :=
  ∀ (value emitted front : Text), d.Plain front →
    (walkFrom d (fillInUnguarded d (reply answers) limit depth value) emitted
      (front ++ t.print)).outcome = .ok (emitted ++ front ++ text)

section Emits

variable {limit : Value} {name rest : Template d} {text called found result : Text}

/-- With one level more than that, the print is expanded. -/
theorem Emits.outcome_unguarded (h : Emits answers limit depth t text) :
    (unguarded d (reply answers) limit (depth + 1) t.print).outcome = .ok text := by
  rw [unguarded_succ]
  exact h t.print [] [] Dialect.plain_nil

/-- A plain text stays as it is. -/
theorem outcome_unguarded_of_plain (plain : d.Plain text) :
    (unguarded d (reply answers) limit (depth + 1) text).outcome = .ok text := by
  rw [unguarded_of_none plain.firstPlaceholder?_eq_none]
  rfl

/-- Over the empty template, a pass emits what is in front. -/
theorem emits_nil : Emits answers limit depth .nil [] := by
  intro value emitted front plain
  rw [print, List.append_nil, List.append_nil, walkFrom_of_none plain.firstPlaceholder?_eq_none]
  rfl

/-- A literal is gathered in front of what comes next, as the engine reads it. -/
theorem Emits.lit {literal : Text} (plain : d.Plain literal)
    (h : Emits answers limit depth rest text) :
    Emits answers limit depth (.lit literal plain rest) (literal ++ text) := by
  intro value emitted front plain'
  have hrest := h value emitted (front ++ literal) (Dialect.plain_append.mpr ⟨plain', plain⟩)
  rw [print, ← List.append_assoc, hrest]
  simp only [List.append_assoc]

/-- A reference emits what the value of its name comes to. -/
theorem Emits.ref (nestable : d.Nestable) (hname : Emits answers limit depth name called)
    (hfound : (lookUp d (Transcript.ask (reply answers)) called).outcome = .ok (some found))
    (hvalue : (unguarded d (reply answers) limit (depth + 1) found).outcome = .ok result)
    (hrest : Emits answers limit (depth + 1) rest text) :
    Emits answers limit (depth + 1) (.ref name rest) (result ++ text) := by
  intro value emitted front plain
  have hfill : (fillInUnguarded d (reply answers) limit (depth + 1) value name.print
      (emitted ++ front).length).outcome = .ok (some result) := by
    rw [fillInUnguarded, outcome_fillIn_of_value hname.outcome_unguarded hfound, hvalue]
    rfl
  rw [walkFrom_of_some (firstPlaceholder?_print nestable plain name rest),
    Transcript.bind_of_ok hfill]
  -- behind the reference, nothing is in front of the rest
  have hbehind := hrest value (emitted ++ front ++ result) [] Dialect.plain_nil
  rw [List.nil_append, List.append_nil, List.append_assoc (emitted ++ front)] at hbehind
  exact hbehind

/-- A pass over a print emits what the template means. -/
theorem Denotes.emits (nestable : d.Nestable) (limit : Value)
    (h : Denotes answers depth t meaning) : Emits answers limit depth t meaning := by
  induction h with
  | nil => exact emits_nil
  | lit _ ih => exact ih.lit _
  | named _ hanswer _ _ ihname ihvalue ihrest =>
    have hfound := outcome_lookUp_of_some hanswer
    exact ihname.ref nestable hfound ihvalue.outcome_unguarded ihrest
  | actual _ hnone hseparator hcut hanswer _ _ ihname ihvalue ihrest =>
    have hfound := outcome_lookUp_of_none hnone hseparator hcut
    rw [hanswer] at hfound
    exact ihname.ref nestable hfound ihvalue.outcome_unguarded ihrest
  | default hname hnone hseparator hcut hanswer _ ihname ihrest =>
    have hfound := outcome_lookUp_of_none hnone hseparator hcut
    rw [hanswer] at hfound
    -- the default is an end of a name, and so it is plain and stays as it is
    have plain := hname.plain
    rw [hcut.eq_append, Dialect.plain_append] at plain
    exact ihname.ref nestable hfound (outcome_unguarded_of_plain plain.2) ihrest

end Emits

end Template

namespace Expander

open Template

/-- The engine gives templates their meaning: given the print of a template, and answering names
with prints, an expander gives what the template means, in either mode, if the derivation of the
meaning nests references no deeper than the limit. -/
theorem replace_print_of_denotes (e : Expander) (nestable : e.dialect.Nestable)
    {answers : Text → Option (Template e.dialect)} {t : Template e.dialect} {meaning : Text}
    (h : Denotes answers e.limit t meaning) (ledger : Ledger (List Text)) :
    ((e.replace (.text t.print) (.usable (Resolver.recording (reply answers)))).run ledger).1 =
      .ok meaning := by
  have hends : (unguarded e.dialect (reply answers) e.given (e.limit + 1) t.print).outcome =
      .ok meaning := (h.emits nestable e.given).outcome_unguarded
  rw [replace_run]
  exact outcome_of_unguarded_ok under_nil hends

/-- A name that comes from another name and has only a default: `x${${k}}` where `k` is `n:d`. -/
theorem replace_print_of_denotes_default :
    let e : Expander := ⟨.shell, 2, by decide, by decide, .int 2⟩
    let answers : Text → Option (Template .shell) := fun name =>
      if name = "k".text then some (.lit "n:d".text (by decide) .nil) else none
    let t : Template .shell :=
      .lit "x".text (by decide) (.ref (.ref (.lit "k".text (by decide) .nil) .nil) .nil)
    e.dialect.Nestable ∧ Denotes answers e.limit t "xd".text ∧
    ((e.replace (.text t.print) (.usable (Resolver.recording (reply answers)))).run ⟨[], []⟩).1 =
      .ok "xd".text := by
  intro e answers t
  have hname : Denotes answers 0 (.lit "k".text (by decide) .nil) "k".text := .lit .nil
  have hvalue : Denotes answers 0 (.lit "n:d".text (by decide) .nil) "n:d".text :=
    .lit .nil
  have hcalled : Denotes answers 1 (.ref (.lit "k".text (by decide) .nil) .nil) "n:d".text :=
    Denotes.named hname rfl hvalue .nil
  have hcut : Text.IsFirstCut ":".text "n:d".text "n".text "d".text :=
    Text.cutAt?_eq_some_iff.mp (by decide)
  have hmeaning : Denotes answers e.limit t "xd".text :=
    .lit (.default hcalled rfl rfl hcut rfl .nil)
  exact ⟨Dialect.nestable_shell, hmeaning,
    replace_print_of_denotes e Dialect.nestable_shell hmeaning ⟨[], []⟩⟩

end Expander

end Interpolation
