import TagWeave.Composition.Unfold
import TagWeave.Proofs.Component.Fields
import TagWeave.Proofs.Dictionary

/-!
# Attributes of a tag

An attribute of a tag fills a field of the component or is kept for its element. The first one whose
value does not fit its field is the error (`bindAttributes_eq_error_iff`). If all values fit, the
fields do what they do one after the other, in the order of the attributes, and of several
attributes that are kept under one name the last one counts (`bindAttributes_ok`). So a tag and a
type alone tell which component is made (`instantiate_made`).
-/

namespace TagWeave

namespace Descriptor

/-- The attribute names a field, and its value does not fit. -/
inductive Misfits (d : Descriptor) : String × String → BindingError → Prop
  | intro {name raw reason : String} : d.blueprint.fields.find? name = some field →
    field.kind.coerce raw = .error reason →
    Misfits d (name, raw) ⟨d.name, field.name, field.kind, raw, reason⟩

/-- An attribute does not fit the field that it names, and it is the first one that does not. -/
def FirstMisfit (d : Descriptor) (attributes : List (String × String)) (e : BindingError) : Prop :=
  ∃ before entry behind, attributes = before ++ entry :: behind ∧ d.Misfits entry e ∧
    ∀ other ∈ before, ∀ e, ¬ d.Misfits other e

/-- The id that a tag gives: one that fills no field and is not empty. -/
def tagId? (d : Descriptor) (tag : Tag) : Option String :=
  if (d.blueprint.fields.find? "id").isSome then none
  else (lastWritten tag.attributes "id").filter (!·.isEmpty)

/-- The component that a tag makes if all values fit. -/
def made (d : Descriptor) (tag : Tag) : Component :=
  let filled := d.blueprint.filled tag.attributes
  match d.tagId? tag with
  | some id => filled.forceId id
  | none => filled

end Descriptor

section
variable {d : Descriptor} {c c' component : Component} {site site' : AttributeSet} {tag : Tag}
  {attributes : List (String × String)} {entry : String × String} {name raw : String}
  {field : Field Component} {value : FieldValue} {e : BindingError}

/-! ## Values that do not fit -/

theorem Descriptor.Misfits.unique {e' : BindingError} (h : d.Misfits entry e)
    (h' : d.Misfits entry e') : e = e' := by
  obtain ⟨hfield, hvalue⟩ := h
  obtain ⟨hfield', hvalue'⟩ := h'
  cases hfield.symm.trans hfield'
  cases hvalue.symm.trans hvalue'
  rfl

theorem not_misfits_of_none (hfield : d.blueprint.fields.find? name = none) :
    ¬ d.Misfits (name, raw) e := by
  rintro ⟨hfield', -⟩
  cases hfield.symm.trans hfield'

theorem not_misfits_of_ok (hfield : d.blueprint.fields.find? name = some field)
    (hvalue : field.kind.coerce raw = .ok value) : ¬ d.Misfits (name, raw) e := by
  rintro ⟨hfield', hvalue'⟩
  cases hfield.symm.trans hfield'
  cases hvalue.symm.trans hvalue'

theorem not_firstMisfit_nil : ¬ d.FirstMisfit [] e := by
  rintro ⟨before, entry, behind, h, -⟩
  exact absurd h.symm (by simp)

theorem firstMisfit_cons_of_fits (hfits : ∀ e, ¬ d.Misfits entry e) :
    d.FirstMisfit (entry :: attributes) e ↔ d.FirstMisfit attributes e := by
  constructor
  · rintro ⟨before, found, behind, heq, hfound, hbefore⟩
    cases before with
    | nil =>
      cases heq
      exact absurd hfound (hfits e)
    | cons other before =>
      cases heq
      exact ⟨before, found, behind, rfl, hfound, (List.forall_mem_cons.mp hbefore).2⟩
  · rintro ⟨before, found, behind, rfl, hfound, hbefore⟩
    exact ⟨entry :: before, found, behind, rfl, hfound, List.forall_mem_cons.mpr ⟨hfits, hbefore⟩⟩

theorem firstMisfit_cons_of_misfits {e' : BindingError} (h : d.Misfits entry e') :
    d.FirstMisfit (entry :: attributes) e ↔ e' = e := by
  constructor
  · rintro ⟨before, found, behind, heq, hfound, hbefore⟩
    cases before with
    | nil =>
      cases heq
      exact h.unique hfound
    | cons other before =>
      cases heq
      exact absurd h ((List.forall_mem_cons.mp hbefore).1 e')
  · rintro rfl
    exact ⟨[], entry, attributes, rfl, h, List.forall_mem_nil _⟩

/-! ## All attributes -/

/-- Filling the fields fails at the first attribute whose value does not fit. -/
theorem bindAttributes_eq_error_iff (htype : c.kind.typeName = d.blueprint.typeName) :
    bindAttributes d c site attributes = .error e ↔ d.FirstMisfit attributes e := by
  induction attributes generalizing c site with
  | nil =>
    constructor
    · intro h
      cases h
    · intro h
      exact absurd h not_firstMisfit_nil
  | cons first attributes ih =>
    obtain ⟨name, raw⟩ := first
    rw [bindAttributes, Descriptor.bind]
    rcases d.blueprint.fields.find?_cases name raw with
      hfield | ⟨field, value, hfield, hvalue⟩ | ⟨field, reason, hfield, hvalue⟩
    · rw [Blueprint.bind_of_none htype hfield,
        firstMisfit_cons_of_fits fun _ => not_misfits_of_none hfield]
      exact ih htype
    · rw [Blueprint.bind_of_ok htype hfield hvalue,
        firstMisfit_cons_of_fits fun _ => not_misfits_of_ok hfield hvalue]
      exact ih (Blueprint.typeName_set htype hfield)
    · rw [Blueprint.bind_of_error htype hfield hvalue,
        firstMisfit_cons_of_misfits (.intro hfield hvalue)]
      exact ⟨Except.error.inj, congrArg Except.error⟩

/-- Where no error comes up, the fields named are filled in the order of the attributes. Kept of a
name is the last value written for it, unless the name is that of a field. -/
theorem bindAttributes_ok (htype : c.kind.typeName = d.blueprint.typeName)
    (h : bindAttributes d c site attributes = .ok (c', site')) :
    c' = c.fill (d.blueprint.fillings attributes) ∧
    (∀ entry ∈ attributes, ∀ e, ¬ d.Misfits entry e) ∧
    ∀ name, site'.get? name = if (d.blueprint.fields.find? name).isSome then site.get? name
      else (lastWritten attributes name).or (site.get? name) := by
  induction attributes generalizing c site with
  | nil =>
    cases h
    exact ⟨rfl, List.forall_mem_nil _, fun name => (ite_self _).symm⟩
  | cons first attributes ih =>
    obtain ⟨key, raw⟩ := first
    rw [bindAttributes, Descriptor.bind] at h
    rcases d.blueprint.fields.find?_cases key raw with
      hfield | ⟨field, value, hfield, hvalue⟩ | ⟨field, reason, hfield, hvalue⟩
    · rw [Blueprint.bind_of_none htype hfield] at h
      obtain ⟨rfl, hrest, hget⟩ := ih htype h
      rw [Blueprint.fillings_of_none hfield]
      refine ⟨rfl, List.forall_mem_cons.mpr ⟨fun _ => not_misfits_of_none hfield, hrest⟩,
        fun name => ?_⟩
      rw [hget, lastWritten_cons]
      by_cases hname : name = key
      · rw [hname, hfield, if_pos rfl, Dictionary.get?_insert, Option.or_assoc, Option.some_or]
        rfl
      · rw [if_neg hname, Option.or_none, Dictionary.get?_insert_of_ne hname]
    · rw [Blueprint.bind_of_ok htype hfield hvalue] at h
      obtain ⟨rfl, hrest, hget⟩ := ih (Blueprint.typeName_set htype hfield) h
      rw [Blueprint.fillings_of_ok hfield hvalue]
      refine ⟨rfl, List.forall_mem_cons.mpr ⟨fun _ => not_misfits_of_ok hfield hvalue, hrest⟩,
        fun name => ?_⟩
      rw [hget, lastWritten_cons]
      by_cases hname : name = key
      · rw [hname, hfield]
        rfl
      · rw [if_neg hname, Option.or_none]
    · rw [Blueprint.bind_of_error htype hfield hvalue] at h
      cases h

/-! ## Making a component -/

theorem instantiate_eq_error_iff : instantiate d tag = .error e ↔
    bindAttributes d d.blueprint.fresh .empty tag.attributes = .error e := by
  unfold instantiate
  cases bindAttributes d d.blueprint.fresh .empty tag.attributes with
  | error e' => exact Iff.rfl
  | ok found =>
    obtain ⟨c, site⟩ := found
    dsimp only
    split
    · simp
    · simp

theorem instantiate_made (h : instantiate d tag = .ok (component, site)) :
    component = d.made tag ∧ (∀ entry ∈ tag.attributes, ∀ e, ¬ d.Misfits entry e) ∧
      ∀ name, site.get? name = if name = "id" ∨ (d.blueprint.fields.find? name).isSome then none
        else lastWritten tag.attributes name := by
  unfold instantiate at h
  split at h
  · cases h
  rename_i c kept hbind
  obtain ⟨hfilled, hfits, hget⟩ := bindAttributes_ok rfl hbind
  obtain rfl : c = d.blueprint.filled tag.attributes := hfilled
  have hkept (name : String) : kept.get? name =
      if (d.blueprint.fields.find? name).isSome then none else lastWritten tag.attributes name := by
    rw [hget]
    show (if _ then none else (lastWritten tag.attributes name).or none) = _
    rw [Option.or_none]
  have htagId : d.tagId? tag = (kept.get? "id").filter (!·.isEmpty) := by
    rw [hkept, Descriptor.tagId?]
    split <;> rfl
  rw [Descriptor.made, htagId]
  split at h
  · rename_i hnone
    cases h
    refine ⟨by rw [hnone]; rfl, hfits, fun name => ?_⟩
    by_cases hname : name = "id"
    · rw [if_pos (.inl hname), hname, hnone]
    · rw [hkept]
      simp only [hname, false_or]
  · rename_i id hid
    cases h
    refine ⟨?_, hfits, fun name => ?_⟩
    · rw [hid]
      cases hempty : id.isEmpty <;> simp [Option.filter, hempty]
    · by_cases hname : name = "id"
      · rw [if_pos (.inl hname), hname, Dictionary.get?_erase]
      · rw [Dictionary.get?_erase_of_ne hname, hkept]
        simp only [hname, false_or]

theorem kind_made : (d.made tag).kind = (d.blueprint.filled tag.attributes).kind := by
  unfold Descriptor.made
  cases d.tagId? tag <;> rfl

end

/-! ## Ids of their own -/

/-- An id that is there and not empty. -/
def isGiven (id? : Option String) : Bool := id?.any (!·.isEmpty)

/-- A setup asks for an id: by a forced one or by an attribute. -/
def Setup.givesId (setup : Setup) : Bool :=
  isGiven setup.id? || isGiven (setup.attributes.get? "id")

/-- A component made from a tag has an id of its own: the tag gives one, or the setup asks for one
once the fields are filled. -/
def Descriptor.givesId (d : Descriptor) (tag : Tag) : Bool :=
  (d.tagId? tag).isSome || (d.blueprint.filled tag.attributes).setup.givesId

theorem isSome_nonempty? {id? : Option String} :
    (Setup.chosenId?.nonempty? id?).isSome = isGiven id? := by
  cases id? with
  | none => rfl
  | some id => cases h : id.isEmpty <;> simp [Setup.chosenId?.nonempty?, isGiven, h]

theorem Setup.isSome_chosenId? {setup : Setup} : setup.chosenId?.isSome = setup.givesId := by
  unfold chosenId? givesId
  rw [← isSome_nonempty?, ← isSome_nonempty?]
  cases chosenId?.nonempty? setup.id? <;> rfl

theorem Descriptor.isEmpty_of_tagId? {d : Descriptor} {tag : Tag} {id : String}
    (h : d.tagId? tag = some id) : id.isEmpty = false := by
  unfold tagId? at h
  split at h
  · cases h
  · simpa using (Option.filter_eq_some_iff.mp h).2

theorem isSome_chosenId?_instantiate {d : Descriptor} {tag : Tag} {component : Component}
    {site : AttributeSet} (h : instantiate d tag = .ok (component, site)) :
    component.setup.chosenId?.isSome = d.givesId tag := by
  rw [(instantiate_made h).1, Setup.isSome_chosenId?, Descriptor.made, Descriptor.givesId]
  cases htag : d.tagId? tag with
  | none => rfl
  | some id => simp [Setup.givesId, Component.forceId, isGiven, Descriptor.isEmpty_of_tagId? htag]

end TagWeave
