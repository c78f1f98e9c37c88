import TagWeave.Component.Element
import TagWeave.Proofs.Markup.AttributeText
import TagWeave.Proofs.Markup.Classes

/-!
# The opening tag of an element

The id and the classes of a component are among the merged attributes of its element (`Merged`).
From the opening tag they are read as the writer spells them, so a reader finds them if and only if
that is how they are spelled (`Merged.found_iff`).
-/

namespace TagWeave

open AttributeSet (hasBothQuotes normalValue readBack)

variable {container : Container} {setup : Setup} {site attributes merged : AttributeSet}
  {classes : ClassSet} {style : Style} {id name tag value : String} {P : String × String → Prop}

/-! ## Merged attributes -/

/-- The classes of an element: those of the container, those in a class attribute and those of the
setup, in this order. -/
def mergedClasses (container : Container) (setup : Setup) (site : AttributeSet) :
    Except AttributeError ClassSet := do
  let defaults ← AttributeSet.parse container.attributes
  let merged := (setup.attributes.merge site true).merge defaults false
  let classes ← ClassSet.parse container.classes
  let classes ← classes.addWords ((merged.get? "class").getD "")
  return classes.union setup.classes

/-- Attributes with the id, the classes and the style of an element in their places. -/
def elementAttributes (merged : AttributeSet) (id : String) (classes : ClassSet) (style : Style) :
    AttributeSet :=
  let merged := ((merged.erase "class").erase "style").insert "id" id
  let merged := if classes.isEmpty then merged else merged.insert "class" classes.write
  if style.isEmpty then merged else merged.insert "style" style.text

theorem exists_of_bind_eq_ok {x : Except ε α} {f : α → Except ε β} {b : β} (h : x >>= f = .ok b) :
    ∃ a, x = .ok a ∧ f a = .ok b := by
  cases x with
  | error e => cases h
  | ok a => exact ⟨a, rfl, h⟩

theorem mergeAttributes_eq_ok (h : mergeAttributes container setup site id = .ok attributes) :
    ∃ defaults classes style, AttributeSet.parse container.attributes = .ok defaults ∧
      mergedClasses container setup site = .ok classes ∧
      attributes = elementAttributes ((setup.attributes.merge site true).merge defaults false) id
        classes style ∧
      attributes.validate = .ok () := by
  unfold mergeAttributes at h
  obtain ⟨defaults, hdefaults, h⟩ := exists_of_bind_eq_ok h
  obtain ⟨first, hfirst, h⟩ := exists_of_bind_eq_ok h
  obtain ⟨second, hsecond, h⟩ := exists_of_bind_eq_ok h
  let merged := (setup.attributes.merge site true).merge defaults false
  let style := ((Style.ofText container.style).push setup.style.text).push
    ((merged.get? "style").getD "")
  have h : (AttributeSet.validate (elementAttributes merged id (second.union setup.classes) style)
      >>= fun _ => pure (elementAttributes merged id (second.union setup.classes) style)) =
        .ok attributes := h
  obtain ⟨_, hvalid, h⟩ := exists_of_bind_eq_ok h
  obtain rfl := Except.ok.inj h
  refine ⟨defaults, second.union setup.classes, style, hdefaults, ?_, rfl, hvalid⟩
  unfold mergedClasses
  rw [hdefaults]
  show (ClassSet.parse container.classes >>= _) = _
  rw [hfirst]
  show (ClassSet.addWords first _ >>= _) = _
  rw [hsecond]
  rfl

theorem get?_elementAttributes_id :
    (elementAttributes merged id classes style).get? "id" = some id := by
  have hclass : "id" ≠ "class" := by decide
  have hstyle : "id" ≠ "style" := by decide
  unfold elementAttributes
  dsimp only
  split <;> split <;>
    simp only [Dictionary.get?_insert_of_ne hclass, Dictionary.get?_insert_of_ne hstyle,
      Dictionary.get?_insert]

theorem get?_elementAttributes_class : (elementAttributes merged id classes style).get? "class" =
    if classes.isEmpty then none else some classes.write := by
  have hid : "class" ≠ "id" := by decide
  have hstyle : "class" ≠ "style" := by decide
  unfold elementAttributes
  dsimp only
  split <;> split <;>
    simp only [Dictionary.get?_insert_of_ne hid, Dictionary.get?_insert_of_ne hstyle,
      Dictionary.get?_erase_of_ne hstyle, Dictionary.get?_insert, Dictionary.get?_erase]

theorem forall_elementAttributes (hmerged : ∀ e ∈ merged.entries, P e) (hid : P ("id", id))
    (hclass : P ("class", classes.write)) (hstyle : P ("style", style.text)) :
    ∀ e ∈ (elementAttributes merged id classes style).entries, P e := by
  have hbase : ∀ e ∈ (((merged.erase "class").erase "style").insert "id" id).entries, P e :=
    Dictionary.forall_insert (Dictionary.forall_filter (Dictionary.forall_filter hmerged)) hid
  unfold elementAttributes
  dsimp only
  split <;> split
  · exact hbase
  · exact Dictionary.forall_insert hbase hclass
  · exact Dictionary.forall_insert hbase hstyle
  · exact Dictionary.forall_insert (Dictionary.forall_insert hbase hclass) hstyle

/-- What holds of the attributes of an element that has an id and classes. -/
structure Merged (id : String) (classes : ClassSet) (attributes : AttributeSet) : Prop where
  id? : attributes.get? "id" = some id
  class? : attributes.get? "class" = if classes.isEmpty then none else some classes.write
  named : classes.Named
  names : ∀ e ∈ attributes.entries, isName e.1 = true
  quotes : ∀ e ∈ attributes.entries, hasBothQuotes e.2 = false

theorem named_mergedClasses (h : mergedClasses container setup site = .ok classes)
    (hclasses : setup.classes.Named) : classes.Named := by
  unfold mergedClasses at h
  obtain ⟨_, -, h⟩ := exists_of_bind_eq_ok h
  obtain ⟨first, hfirst, h⟩ := exists_of_bind_eq_ok h
  obtain ⟨second, hsecond, h⟩ := exists_of_bind_eq_ok h
  cases h
  exact ((ClassSet.named_parse hfirst).addWords hsecond).union hclasses

theorem exists_merged (h : mergeAttributes container setup site id = .ok attributes)
    (hclasses : setup.classes.Named) (hsetup : ∀ e ∈ setup.attributes.entries, isName e.1 = true)
    (hsite : ∀ e ∈ site.entries, isName e.1 = true) :
    ∃ classes, mergedClasses container setup site = .ok classes ∧ Merged id classes attributes := by
  obtain ⟨defaults, classes, style, hdefaults, hmerged, heq, hvalid⟩ := mergeAttributes_eq_ok h
  refine ⟨classes, hmerged, ?_, ?_, named_mergedClasses hmerged hclasses, ?_,
    AttributeSet.validate_eq_ok_iff.mp hvalid⟩
  · rw [heq, get?_elementAttributes_id]
  · rw [heq, get?_elementAttributes_class]
  · have hread : ∀ e ∈ defaults.entries, isName e.1 = true := fun e he =>
      ((AttributeSet.Obtained.parse hdefaults).readable e he).name
    have hid : isName "id" = true := by decide
    have hclass : isName "class" = true := by decide
    have hstyle : isName "style" = true := by decide
    rw [heq]
    exact forall_elementAttributes
      (Dictionary.forall_merge (Dictionary.forall_merge hsetup hsite) hread) hid hclass hstyle

/-! ## Reading an opening tag -/

/-- The attributes of an opening tag with a known name. They are read like those of a tag, which
ends with a slash before the bracket. -/
def readOpening? (name opening : String) : Option (List (String × String)) :=
  match Text.after? ('<' :: name.toList) opening.toList with
  | none => none
  | some inside =>
    if inside.getLast? == some '>' then
      match readAttributes ⟨0, name⟩ (Text.byteSize ('<' :: name.toList))
          (inside.dropLast ++ ['/', '>']) with
      | .ok (attributes, _, []) => some attributes
      | _ => none
    else none

theorem readOpening?_openingTag (hnames : ∀ e ∈ attributes.entries, isName e.1 = true) :
    readOpening? tag (openingTag tag attributes) =
      some (attributes.mapValues readBack).entries := by
  have hafter : Text.after? ('<' :: tag.toList) (openingTag tag attributes).toList =
      some (' ' :: ((AttributeSet.write attributes).toList ++ ['>'])) :=
    Text.after?_eq_some_iff.mpr (by simp [openingTag])
  have hlast : (' ' :: ((AttributeSet.write attributes).toList ++ ['>'])).getLast? = some '>' := by
    rw [← List.cons_append, List.getLast?_concat]
  have hclosed : (' ' :: ((AttributeSet.write attributes).toList ++ ['>'])).dropLast ++ ['/', '>'] =
      TagParts.closed (AttributeSet.parts attributes.entries) ++ [] := by
    rw [← List.cons_append, List.dropLast_concat, AttributeSet.closed_parts, List.append_nil,
      List.cons_append]
  unfold readOpening?
  rw [hafter]
  dsimp only
  rw [hlast, if_pos (beq_self_eq_true _), hclosed,
    readAttributes_closed (AttributeSet.parts_wellFormed hnames), AttributeSet.attributes_parts]
  rfl

/-! ## Finding an element -/

/-- The writer has its own spelling of a value that spells truth or falsehood. -/
def Respelled (value : String) : Prop :=
  Text.lowercase value = "true" ∨ Text.lowercase value = "false" ∧ value ≠ "false"

theorem not_respelled_empty : ¬ Respelled "" := by
  rintro (h | ⟨h, -⟩)
  · exact absurd h (by decide)
  · exact absurd h (by decide)

theorem ne_empty_of_lowercase_eq (h : Text.lowercase value = "true") : value ≠ "" := by
  rintro rfl
  exact absurd h (by decide)

theorem normalValue_eq_self_iff : normalValue value = value ↔ ¬ Respelled value := by
  unfold normalValue Respelled
  split
  · rename_i htrue
    exact iff_of_false (ne_empty_of_lowercase_eq htrue).symm (not_not_intro (.inl htrue))
  · rename_i htrue
    split
    · rename_i hfalse
      rw [or_iff_right htrue, and_iff_right hfalse]
      exact eq_comm.trans Decidable.not_not.symm
    · rename_i hfalse
      exact iff_of_true rfl (not_or_intro htrue fun h => hfalse h.1)

/-- An opening tag gives back the id and the classes of an element. -/
def Found (name opening id : String) (classes : ClassSet) : Prop :=
  ∃ read, readOpening? name opening = some read ∧ read.lookup "id" = some id ∧
    (read.lookup "class").map ClassSet.tokensOf =
      if classes.isEmpty then none else some classes.tokens

namespace Merged
variable (h : Merged id classes attributes)
include h

/-- What is read from the opening tag is the normal form of what was merged. -/
theorem readOpening? :
    readOpening? tag (openingTag tag attributes) = some attributes.normal.entries := by
  rw [readOpening?_openingTag h.names]
  refine congrArg some (List.map_congr_left fun e he => ?_)
  exact congrArg (Prod.mk e.1) (AttributeSet.readBack_eq_normalValue (h.quotes e he))

theorem lookup_id : attributes.normal.entries.lookup "id" = some (normalValue id) :=
  Dictionary.get?_mapValues.trans (congrArg _ h.id?)

theorem lookup_class : attributes.normal.entries.lookup "class" =
    if classes.isEmpty then none else some (normalValue classes.write) := by
  refine Dictionary.get?_mapValues.trans ?_
  rw [h.class?]
  split <;> rfl

/-- The tokens of classes are found again unless their text is respelled. -/
theorem tokensOf_eq_iff (hsome : classes.isEmpty = false) :
    ClassSet.tokensOf (normalValue classes.write) = classes.tokens ↔ ¬ Respelled classes.write := by
  constructor
  · rintro heq (htrue | ⟨hfalse, hne⟩)
    · have hnone : classes.tokens = [] := by
        rw [← heq, normalValue, if_pos htrue]
        rfl
      rw [ClassSet.isEmpty, hnone] at hsome
      cases hsome
    · have htrue : ¬ Text.lowercase classes.write = "true" := by
        rw [hfalse]
        decide
      have hone : classes.tokens = ["false"] := by
        rw [← heq, normalValue, if_neg htrue, if_pos hfalse]
        decide
      refine hne ?_
      rw [ClassSet.write, hone]
      rfl
  · intro hwrite
    rw [normalValue_eq_self_iff.mpr hwrite, ClassSet.tokensOf_write h.named]

/-- **An element is found by its id and its classes** in its opening tag, if and only if neither the
id nor the text of the classes is respelled by the writer. -/
theorem found_iff : Found tag (openingTag tag attributes) id classes ↔
    ¬ Respelled id ∧ ¬ Respelled classes.write := by
  constructor
  · rintro ⟨read, hread, hid, hclass⟩
    rw [h.readOpening?] at hread
    cases hread
    rw [h.lookup_id] at hid
    rw [h.lookup_class] at hclass
    refine ⟨normalValue_eq_self_iff.mp (Option.some.inj hid), ?_⟩
    cases hsome : classes.isEmpty with
    | true =>
      rw [ClassSet.write_eq_empty hsome]
      exact not_respelled_empty
    | false =>
      rw [hsome] at hclass
      exact (h.tokensOf_eq_iff hsome).mp (Option.some.inj hclass)
  · rintro ⟨hid, hclass⟩
    refine ⟨_, h.readOpening?, ?_, ?_⟩
    · rw [h.lookup_id, normalValue_eq_self_iff.mpr hid]
    · rw [h.lookup_class]
      cases hsome : classes.isEmpty with
      | true => rfl
      | false => exact congrArg some ((h.tokensOf_eq_iff hsome).mpr hclass)

end Merged

end TagWeave
