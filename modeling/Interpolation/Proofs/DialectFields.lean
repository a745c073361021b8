import Interpolation.Dialect.Fields

/-!
# Dialects and their fields

A dialect is read from named values, and its own fields are such values.  `ofFields_eq_ok_iff` says
field by field when a dialect is read, and which; `ofFields_toFields` says that a dialect is read
back from its fields.
-/

set_option autoImplicit false

namespace Interpolation

/-! ## Fields that are given -/

namespace Field

variable {α : Type} {members : List (Text × Value)} {name : String} {value : Value}
variable {read : Value → Except Issue α}

/-- A needed field is read from its value. -/
theorem required_eq_ok_iff {a : α} (hmember : Value.member? members name.text = some value) :
    required members name read = .ok a ↔ read value = .ok a := by
  rw [required, hmember]
  dsimp only
  cases read value with
  | error issue => exact iff_of_false nofun nofun
  | ok given =>
    show Except.ok given = Except.ok a ↔ _
    rw [Except.ok.injEq, Except.ok.injEq]

/-- A field with a default is read from its value, if it is given. -/
theorem withDefault_eq_ok_iff {a default : α}
    (hmember : Value.member? members name.text = some value) :
    withDefault members name default read = .ok a ↔ read value = .ok a := by
  rw [withDefault, hmember]
  dsimp only
  cases read value with
  | error issue => exact iff_of_false nofun nofun
  | ok given =>
    show Except.ok given = Except.ok a ↔ _
    rw [Except.ok.injEq, Except.ok.injEq]

/-- A text that is not empty and has characters only is read from what is read as that text. -/
theorem countedText_eq_ok_iff {t : CountedText} :
    countedText value = .ok t ↔ text value = .ok t.text := by
  obtain ⟨t, ne, unicode⟩ := t
  rw [countedText]
  cases hread : text value with
  | error issue => simp
  | ok given =>
    dsimp only
    constructor
    · intro h
      split at h
      · split at h
        · cases h
        · cases h
          rfl
      · cases h
    · intro h
      obtain rfl := Except.ok.inj h
      rw [dif_pos unicode, dif_neg ne]

end Field

/-! ## Dialects -/

namespace Dialect

/-- A separator that is not empty counts as it is. -/
theorem separatorOf_of_ne {separator : Option Text} (ne : separator ≠ some []) :
    (separatorOf separator).val = separator := by
  cases separator with
  | none => rfl
  | some text =>
    cases text with
    | nil => exact absurd rfl ne
    | cons c rest => rfl

/-- A dialect is read where each of its fields is. -/
theorem ofFields_eq_ok_iff {members : List (Text × Value)} {d : Dialect} :
    ofFields members = .ok d ↔
      Field.required members "open_delimiter" Field.countedText =
        .ok ⟨d.opening, d.opening_ne_nil, d.opening_isUnicode⟩ ∧
      Field.required members "close_delimiter" Field.countedText =
        .ok ⟨d.closing, d.closing_ne_nil, d.closing_isUnicode⟩ ∧
      (∃ separator,
        Field.withDefault members "value_separator" none Field.optionalText = .ok separator ∧
          (separatorOf separator).val = d.separator) ∧
      Field.withDefault members "ignore_unresolvable" true Field.bool = .ok d.lenient := by
  rw [ofFields]
  constructor
  · intro h
    split at h
    · rename_i opening closing separator lenient hopening hclosing hseparator hlenient
      cases h
      exact ⟨hopening, hclosing, ⟨separator, hseparator, rfl⟩, hlenient⟩
    · cases h
  · rintro ⟨hopening, hclosing, ⟨separator, hseparator, heq⟩, hlenient⟩
    rw [hopening, hclosing, hseparator, hlenient]
    obtain ⟨opening, closing, counted, lenient, opening_ne, closing_ne, opening_isUnicode,
      closing_isUnicode, separator_ne⟩ := d
    dsimp only at heq ⊢
    subst heq
    rfl

/-- A separator that is given, or null for none, is read as it is. -/
theorem optionalText_of_separator (separator : Option Text) :
    Field.optionalText ((separator.map Value.text).getD .null) = .ok separator := by
  cases separator <;> rfl

/-- A dialect is read back from its fields. -/
theorem ofFields_toFields (d : Dialect) : ofFields d.toFields = .ok d := by
  rw [ofFields_eq_ok_iff, Field.required_eq_ok_iff rfl, Field.required_eq_ok_iff rfl,
    Field.countedText_eq_ok_iff, Field.countedText_eq_ok_iff]
  have hseparator : Field.withDefault d.toFields "value_separator" none Field.optionalText =
      .ok d.separator :=
    (Field.withDefault_eq_ok_iff rfl).mpr (optionalText_of_separator d.separator)
  exact ⟨rfl, rfl, ⟨d.separator, hseparator, separatorOf_of_ne d.separator_ne_nil⟩, rfl⟩

end Dialect

end Interpolation
