import TagWeave.Component.Declared
import TagWeave.Proofs.Composition.Binding
import TagWeave.Proofs.Composition.Steps

/-!
# Filling the fields of a component

An attribute of a tag either names a field or is kept for the element. What a field does to the
component is up to the field, so it may also set the id of the element: this id comes from the tag,
else from the setup of the filled component, else it is generated (`instantiate_splits`).
-/

namespace TagWeave

/-- The id that the element of a tag's component gets unless it is generated: that of the tag, else
one that the setup of the filled component forces, else one among the attributes of this setup.
Empty ones do not count. -/
def Descriptor.elementId? (d : Descriptor) (tag : Tag) : Option String :=
  let setup := (d.blueprint.filled tag.attributes).setup
  (d.tagId? tag).or ((setup.id?.filter (!·.isEmpty)).or
    ((setup.attributes.get? "id").filter (!·.isEmpty)))

/-- The id of the component is chosen as it should be. -/
theorem chosenId?_made {d : Descriptor} {tag : Tag} :
    (d.made tag).setup.chosenId? = d.elementId? tag := by
  have hor (setup : Setup) : setup.chosenId? = (setup.id?.filter (!·.isEmpty)).or
      ((setup.attributes.get? "id").filter (!·.isEmpty)) := by
    unfold Setup.chosenId? Setup.chosenId?.nonempty?
    cases setup.id?.filter (!·.isEmpty) <;> rfl
  unfold Descriptor.made Descriptor.elementId?
  rw [hor]
  cases htag : d.tagId? tag with
  | none => rw [Option.none_or]
  | some id => simp [Component.forceId, Descriptor.isEmpty_of_tagId? htag]

/-- **The attributes of a tag are split between the fields and the element.** Making a component
fails exactly if the value of some attribute does not fit the field that it names, and with the
first one in the order in which they are written. Else the fields are filled in this order, and kept
for the element are the other attributes under their names, each with the value written last, except
an id. The element gets that id if it is not empty, else one that the setup has, else a generated
one. -/
theorem instantiate_splits (d : Descriptor) (tag : Tag) :
    (∀ e, instantiate d tag = .error e ↔
      ∃ before entry behind, tag.attributes = before ++ entry :: behind ∧ d.Misfits entry e ∧
        ∀ other ∈ before, ∀ e, ¬ d.Misfits other e) ∧
    ∀ component site, instantiate d tag = .ok (component, site) →
      component = d.made tag ∧ (∀ entry ∈ tag.attributes, ∀ e, ¬ d.Misfits entry e) ∧
      (∀ name, site.get? name =
        if name = "id" ∨ (d.blueprint.fields.find? name).isSome then none
        else lastWritten tag.attributes name) ∧
      ∀ (composer : Composer) (place : Placement → Compose Unit) (root : Data) (s : Session),
        s.registry.lookup? (normalName tag.name) = some d →
        ∃ id r, (id, r) = (match d.elementId? tag with
            | some id => (id, s.registry)
            | none => s.registry.nextId d) ∧
          (composer.unfoldTag place root tag).exec s =
            (place ⟨component, id, site, root⟩ >>= fun _ =>
              Compose.insertInstance s.instances.length ⟨id, component⟩).exec (s.enter d r) := by
  refine ⟨fun e => ?_, fun component site hmade => ?_⟩
  · rw [instantiate_eq_error_iff]
    exact bindAttributes_eq_error_iff rfl
  · obtain ⟨hcomponent, hfits, hsite⟩ := instantiate_made hmade
    refine ⟨hcomponent, hfits, hsite, fun composer place root s hlookup => ?_⟩
    obtain ⟨⟨id, r⟩, hid⟩ : ∃ result, s.registry.identify d component.setup = result := ⟨_, rfl⟩
    refine ⟨id, r, ?_, Composer.exec_unfoldTag_component hlookup hmade hid⟩
    unfold Registry.identify at hid
    rw [hcomponent, chosenId?_made] at hid
    cases helement : d.elementId? tag with
    | some chosen =>
      rw [helement] at hid
      exact hid.symm
    | none =>
      rw [helement] at hid
      exact hid.symm

/-- A field that adds up its values. -/
def levelField : Field Component := .integer "Level" fun c level =>
  c.assign "Level" (.integer (((c.values.get? "Level").bind FieldValue.integer?).getD 0 + level))

/-- A type with such a field, and one that gives the element its id. -/
def leveled : Descriptor where
  name := "x-note"
  css := ""
  blueprint := {
    fresh := Declared.component {} "" []
    fields := [.text "Anchor" Component.forceId, levelField]
    keeps_type := List.forall_mem_cons.mpr ⟨fun _ value => by cases value <;> rfl,
      List.forall_mem_singleton.mpr fun _ value => by cases value <;> rfl⟩ }
  count := 0

/-- The tag gives the level twice, in different letters, and so the title; its id is empty. -/
def levelTag : Tag := ⟨"x-note", [("level", "2"), ("title", "a"), ("id", ""), ("anchor", "n"),
  ("LEVEL", "3"), ("title", "b")], ⟨0, 0⟩⟩

/-- Both levels count, and of the titles the last; the id of the element is the one that a field has
set. Of two levels that are none the first is the error. -/
theorem instantiate_splits_leveled :
    (∃ component site, instantiate leveled levelTag = .ok (component, site) ∧
      component.values.get? "Level" = some (.integer 5) ∧ component.setup.id? = some "n" ∧
      site.get? "level" = none ∧ site.get? "title" = some "b" ∧ site.get? "id" = none) ∧
    ((Composer.unfoldTag ⟨verbatim, {}⟩ (fun p => Compose.write p.id) .null levelTag).exec
      { registry := { reserved := "x-", entries := [("x-note", leveled)] } }).2.html = "n" ∧
    instantiate leveled ⟨"x-note", [("title", "a"), ("LEVEL", "two"), ("level", "x")], ⟨0, 0⟩⟩ =
      .error ⟨"x-note", "Level", .integer, "two", "invalid digit found in string"⟩ := by
  have htitle : leveled.blueprint.fields.find? "title" = none := rfl
  have hmisfit : leveled.Misfits ("LEVEL", "two")
      ⟨"x-note", levelField.name, .integer, "two", "invalid digit found in string"⟩ :=
    .intro rfl (by decide +kernel)
  have hsome : (instantiate leveled levelTag).toOption.isSome = true := by decide +kernel
  obtain ⟨component, site, hmade⟩ : ∃ component site,
      instantiate leveled levelTag = .ok (component, site) := by
    cases hmade : instantiate leveled levelTag with
    | error e =>
      rw [hmade] at hsome
      cases hsome
    | ok made => exact ⟨made.1, made.2, rfl⟩
  obtain ⟨rfl, -, hsite, helement⟩ := (instantiate_splits leveled levelTag).2 component site hmade
  refine ⟨⟨_, site, hmade, by decide +kernel, by decide +kernel, ?_⟩, ?_, ?_⟩
  · rw [hsite, hsite, hsite]
    decide +kernel
  · let r : Registry := { reserved := "x-", entries := [("x-note", leveled)] }
    have hname : normalName levelTag.name = "x-note" := by decide +kernel
    have hlookup : r.lookup? (normalName levelTag.name) = some leveled := by
      rw [hname]
      rfl
    obtain ⟨id, r', hid, hexec⟩ := helement ⟨verbatim, {}⟩ (fun p => Compose.write p.id) .null
      { registry := r } hlookup
    have hn : leveled.elementId? levelTag = some "n" := by decide +kernel
    rw [hn] at hid
    cases hid
    rw [hexec]
    rfl
  · refine ((instantiate_splits leveled _).1 _).mpr ⟨[("title", "a")], ("LEVEL", "two"),
      [("level", "x")], rfl, hmisfit, ?_⟩
    exact List.forall_mem_singleton.mpr fun _ => not_misfits_of_none htitle

end TagWeave
