import TagWeave.Component.Basic

/-!
# Filling the fields of a component

An attribute fills the first field that it names if its value fits the kind of this field
(`Blueprint.bind_of_ok`). What is done to the component is up to the field. So a fresh component is
filled by one field after the other, in the order of the attributes (`Blueprint.filled`), and what
all fields of a type keep holds of each of its components (`Blueprint.filled_induction`).
-/

namespace TagWeave

/-! ## One field -/

/-- An attribute names no field, or its value fits the field, or it does not. -/
theorem Schema.find?_cases (schema : Schema α) (name raw : String) :
    (schema.find? name = none) ∨
    (∃ field value, schema.find? name = some field ∧ field.kind.coerce raw = .ok value) ∨
    ∃ field reason, schema.find? name = some field ∧ field.kind.coerce raw = .error reason := by
  cases hfield : schema.find? name with
  | none => exact .inl rfl
  | some field =>
    cases hvalue : field.kind.coerce raw with
    | ok value => exact .inr (.inl ⟨field, value, rfl, hvalue⟩)
    | error reason => exact .inr (.inr ⟨field, reason, rfl, hvalue⟩)

namespace Blueprint

section
variable {b : Blueprint} {c : Component} {field : Field Component} {value : FieldValue}
  {label name raw reason : String} (htype : c.kind.typeName = b.typeName)
include htype

theorem bind_of_none (hfield : b.fields.find? name = none) :
    b.bind label c name raw = (.ok false, c) := by
  rw [bind, if_pos htype, Schema.bind, hfield]

theorem bind_of_ok (hfield : b.fields.find? name = some field)
    (hvalue : field.kind.coerce raw = .ok value) :
    b.bind label c name raw = (.ok true, field.set c value) := by
  rw [bind, if_pos htype, Schema.bind, hfield]
  dsimp only
  rw [hvalue]

theorem bind_of_error (hfield : b.fields.find? name = some field)
    (hvalue : field.kind.coerce raw = .error reason) :
    b.bind label c name raw = (.error ⟨label, field.name, field.kind, raw, reason⟩, c) := by
  rw [bind, if_pos htype, Schema.bind, hfield]
  dsimp only
  rw [hvalue]

theorem typeName_set (hfield : b.fields.find? name = some field) :
    (field.set c value).kind.typeName = b.typeName :=
  (b.keeps_type field (List.mem_of_find?_eq_some hfield) c value).trans htype

end

end Blueprint

/-! ## All fields -/

/-- The component once fields have been filled one after the other. -/
def Component.fill (c : Component) (fillings : List (Field Component × FieldValue)) : Component :=
  fillings.foldl (fun c (field, value) => field.set c value) c

namespace Blueprint

/-- The fields that attributes name, with their values, in the order of the attributes. -/
def fillings (b : Blueprint) (attributes : List (String × String)) :
    List (Field Component × FieldValue) :=
  attributes.filterMap fun (name, raw) => (b.fields.find? name).bind fun field =>
    (field.kind.coerce raw).toOption.map fun value => (field, value)

/-- A fresh component with the fields filled that attributes name. -/
def filled (b : Blueprint) (attributes : List (String × String)) : Component :=
  b.fresh.fill (b.fillings attributes)

section
variable {b : Blueprint} {attributes : List (String × String)} {name raw : String}
  {field : Field Component} {value : FieldValue}

theorem fillings_of_none (hfield : b.fields.find? name = none) :
    b.fillings ((name, raw) :: attributes) = b.fillings attributes := by
  simp [fillings, hfield]

theorem fillings_of_ok (hfield : b.fields.find? name = some field)
    (hvalue : field.kind.coerce raw = .ok value) :
    b.fillings ((name, raw) :: attributes) = (field, value) :: b.fillings attributes := by
  simp [fillings, hfield, hvalue, Except.toOption]

theorem mem_fields_of_mem_fillings {filling : Field Component × FieldValue}
    (h : filling ∈ b.fillings attributes) : filling.1 ∈ b.fields := by
  obtain ⟨⟨name, raw⟩, -, hfilling⟩ := List.mem_filterMap.mp h
  obtain ⟨field, hfield, hvalue⟩ := Option.bind_eq_some_iff.mp hfilling
  obtain ⟨value, -, rfl⟩ := Option.map_eq_some_iff.mp hvalue
  exact List.mem_of_find?_eq_some hfield

/-- What holds of a fresh component, and is kept by every field, holds of a filled one. -/
theorem filled_induction {P : Component → Prop} (hfresh : P b.fresh)
    (hset : ∀ field ∈ b.fields, ∀ c value, P c → P (field.set c value))
    (attributes : List (String × String)) : P (b.filled attributes) := by
  have hmem : ∀ filling ∈ b.fillings attributes, filling.1 ∈ b.fields :=
    fun _ => mem_fields_of_mem_fillings
  unfold filled
  generalize b.fresh = c at hfresh
  generalize b.fillings attributes = fillings at hmem
  induction fillings generalizing c with
  | nil => exact hfresh
  | cons filling fillings ih =>
    obtain ⟨hfield, hmem⟩ := List.forall_mem_cons.mp hmem
    exact ih _ (hset filling.1 hfield c filling.2 hfresh) hmem

end

end Blueprint

end TagWeave
