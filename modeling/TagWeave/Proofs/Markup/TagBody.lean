import TagWeave.Proofs.Markup.AttributeGrammar
import TagWeave.Proofs.Markup.Tiling

/-!
# The attributes of a tag as a text

What stands in a tag between its name and its end is a text of attributes. Where all blanks are
ASCII ones and no value holds both kinds of quotes, the parts of the tag are parts of such a text
(`TagParts.valid_inText`, `TagParts.wellFormed_inText`), and both ways to read it agree
(`readers_agree`).
-/

namespace TagWeave

open Text (isBlank isAsciiBlank Stops byteSize)

/-- The part as it stands in a text of attributes. -/
def TagPart.inText : TagPart → AttributePart
  | blank c => .blank c
  | bare name => .bare name
  | valued name gap value => .valued name [] gap value

section
variable {part : TagPart} {parts : List TagPart} {name : String} {value : WrittenValue}
  {run more : List Char}

theorem TagPart.text_inText : part.inText.text = part.text := by
  cases part <;> rfl

theorem TagPart.entry?_inText : part.inText.entry? = part.attribute? := by
  cases part <;> rfl

/-! ## Blanks of ASCII -/

/-- All blanks of the text are ASCII ones. -/
def AsciiBlanksOnly (text : List Char) : Prop :=
  ∀ c ∈ text, isBlank c = true → isAsciiBlank c = true

instance : Decidable (AsciiBlanksOnly run) := List.decidableBAll _ run

theorem asciiBlanksOnly_append :
    AsciiBlanksOnly (run ++ more) ↔ AsciiBlanksOnly run ∧ AsciiBlanksOnly more :=
  List.forall_mem_append

theorem AsciiBlanksOnly.noBlank (h : AsciiBlanksOnly run)
    (hrun : ∀ c ∈ run, isAsciiBlank c = false) : ∀ c ∈ run, isBlank c = false := by
  intro c hc
  rw [Bool.eq_false_iff]
  intro hblank
  exact absurd (h c hc hblank) (Bool.eq_false_iff.mp (hrun c hc))

theorem AsciiBlanksOnly.nameWord (h : AsciiBlanksOnly name.toList) (hname : isName name = true) :
    IsNameWord name := by
  obtain ⟨_, _, htext, -, hchars⟩ := isName_iff.mp hname
  refine ⟨hname, h.noBlank fun c hc => ?_⟩
  exact isAsciiBlank_eq_false_of_isNameChar (hchars c (htext ▸ hc))

theorem AsciiBlanksOnly.inText (h : AsciiBlanksOnly value.text) (hvalue : value.Valid) :
    value.InText := by
  cases value with
  | quoted quote value => exact hvalue
  | unquoted value => exact ⟨hvalue.noQuote, h.noBlank hvalue.noBlank⟩

theorem TagPart.valid_inText (h : AsciiBlanksOnly part.text) (hpart : part.Valid)
    (hquotes : ∀ e ∈ part.attribute?, AttributeSet.hasBothQuotes e.2 = false) :
    part.inText.Valid := by
  cases part with
  | blank c => exact Text.isBlank_of_isAsciiBlank hpart
  | bare name => exact AsciiBlanksOnly.nameWord h hpart
  | valued name gap value =>
    obtain ⟨hname, hgap, hvalue⟩ := hpart
    obtain ⟨hnameBlanks, hbehind⟩ := asciiBlanksOnly_append.mp h
    have hbehind : AsciiBlanksOnly (('=' :: gap) ++ value.text) := hbehind
    obtain ⟨-, hvalueBlanks⟩ := asciiBlanksOnly_append.mp hbehind
    refine ⟨hnameBlanks.nameWord hname, List.forall_mem_nil _, ?_, hvalueBlanks.inText hvalue,
      hquotes _ rfl⟩
    intro c hc
    exact Text.isBlank_of_isAsciiBlank (hgap c hc)

/-! ## All parts of a tag -/

namespace TagParts

theorem text_inText : AttributeParts.text (parts.map TagPart.inText) = text parts := by
  induction parts with
  | nil => rfl
  | cons part parts ih =>
    rw [List.map_cons, AttributeParts.text_cons, ih, text_cons, TagPart.text_inText]

theorem entries_inText :
    AttributeParts.entries (parts.map TagPart.inText) = parts.filterMap TagPart.attribute? := by
  rw [AttributeParts.entries, List.filterMap_map]
  exact congrArg (parts.filterMap ·) (funext fun part => part.entry?_inText)

theorem blankFirst_inText (h : BreakFirst parts) :
    AttributeParts.BlankFirst (parts.map TagPart.inText) := by
  match parts with
  | [] => trivial
  | .blank _ :: _ => trivial

theorem mayFollow_inText (hpart : part.Valid) (hopen : part.Open → BreakFirst parts) :
    AttributeParts.MayFollow (parts.map TagPart.inText) part.inText := by
  cases part with
  | blank c => trivial
  | bare name => exact blankFirst_inText (hopen trivial)
  | valued name gap value =>
    cases value with
    | quoted quote value => trivial
    | unquoted value =>
      have hne : value ≠ "" := by
        rintro rfl
        exact hpart.2.2.nonempty rfl
      rw [TagPart.inText, AttributeParts.MayFollow, if_neg hne]
      exact blankFirst_inText (hopen trivial)

theorem wellFormed_inText (hparts : WellFormed parts)
    (hvalid : ∀ part ∈ parts, part.inText.Valid) :
    AttributeParts.WellFormed (parts.map TagPart.inText) := by
  induction parts with
  | nil => trivial
  | cons part parts ih =>
    obtain ⟨hpart, hopen, hparts⟩ := hparts
    obtain ⟨hfirst, hvalid⟩ := List.forall_mem_cons.mp hvalid
    exact ⟨hfirst, mayFollow_inText hpart hopen, ih hparts hvalid⟩

theorem valid_of_mem (hparts : WellFormed parts) : ∀ part ∈ parts, part.Valid := by
  induction parts with
  | nil => exact List.forall_mem_nil _
  | cons part parts ih => exact List.forall_mem_cons.mpr ⟨hparts.1, ih hparts.2.2⟩

theorem valid_inText (h : AsciiBlanksOnly (text parts)) (hparts : WellFormed parts)
    (hquotes : ∀ e ∈ parts.filterMap TagPart.attribute?,
      AttributeSet.hasBothQuotes e.2 = false) : ∀ part ∈ parts, part.inText.Valid := by
  intro part hpart
  apply TagPart.valid_inText
  · exact fun c hc => h c (List.mem_flatMap.mpr ⟨part, hpart, hc⟩)
  · exact valid_of_mem hparts part hpart
  · exact fun e he => hquotes e (List.mem_filterMap.mpr ⟨part, hpart, he⟩)

end TagParts

theorem TagForm.text_eq (form : TagForm) (reserved : List Char) : form.text reserved =
    '<' :: (reserved ++ form.suffix ++ (TagParts.text form.parts ++ ['/', '>'])) := by
  rw [List.append_assoc]
  rfl

end

/-- **Both ways to read attributes agree.** In every tag that a scan finds, a text stands between
the name and the end. If the tag holds no blanks but ASCII ones and no value with both kinds of
quotes, that text is read as attributes, and under each name stands what was written last for it in
the tag. -/
theorem readers_agree {reserved text : String} {tag : Tag}
    (h : .tag tag ∈ (scan reserved text).tokens) : ∃ written body,
      Text.slice? tag.span text.toList = some written ∧
      written = '<' :: (tag.name.toList ++ (body ++ ['/', '>'])) ∧
      (AsciiBlanksOnly written → (∀ e ∈ tag.attributes, AttributeSet.hasBothQuotes e.2 = false) →
        ∃ attributes, AttributeSet.parse (.ofList body) = .ok attributes ∧
          ∀ name, attributes.get? name = lastWritten tag.attributes name) := by
  obtain ⟨form, before, behind, htext, rfl⟩ := exists_form_of_mem_scan h
  have hwritten : form.text reserved.toList = '<' :: ((form.tag reserved.toList
      (byteSize before)).name.toList ++ (TagParts.text form.parts ++ ['/', '>'])) := by
    rw [form.text_eq, TagForm.tag, String.toList_ofList]
  refine ⟨form.text reserved.toList, TagParts.text form.parts, ?_, hwritten, ?_⟩
  · exact Text.slice?_eq_some_iff.mpr
      ⟨before, behind, htext, rfl, by rw [Text.byteSize_append]; rfl⟩
  · intro hblanks hquotes
    have hbody : AsciiBlanksOnly (TagParts.text form.parts) := by
      intro c hc
      refine hblanks c ?_
      rw [hwritten]
      exact List.mem_cons_of_mem _
        (List.mem_append_right _ (List.mem_append_left _ hc))
    have hparts := TagParts.wellFormed_inText form.parts_wf
      (TagParts.valid_inText hbody form.parts_wf hquotes)
    refine ⟨.ofList form.attributes, ?_, fun name => Dictionary.get?_ofList⟩
    rw [AttributeSet.parse, String.toList_ofList, ← TagParts.text_inText,
      AttributeSet.readOnto_text hparts, TagParts.entries_inText]
    rfl

/-- A name that is written twice, the end of a tag in quotes and a slash at the end of a value. -/
theorem readers_agree_repeated :
    .tag ⟨"x-a", [("b", "/>"), ("c", "d/"), ("b", ""), ("k", "=")], ⟨2, 29⟩⟩ ∈
      (scan "x-" "é<x-a b='/>'c=d/ b\tk=\n\"=\" />").tokens ∧
    ∃ attributes, AttributeSet.parse " b='/>'c=d/ b\tk=\n\"=\" " = .ok attributes ∧
      attributes.get? "b" = some "" ∧ attributes.get? "c" = some "d/" ∧
      attributes.get? "k" = some "=" := by
  have htag : .tag ⟨"x-a", [("b", "/>"), ("c", "d/"), ("b", ""), ("k", "=")], ⟨2, 29⟩⟩ ∈
      (scan "x-" "é<x-a b='/>'c=d/ b\tk=\n\"=\" />").tokens := by
    decide +kernel
  have hslice : Text.slice? ⟨2, 29⟩ "é<x-a b='/>'c=d/ b\tk=\n\"=\" />".toList =
      some ('<' :: ("x-a".toList ++ (" b='/>'c=d/ b\tk=\n\"=\" ".toList ++ ['/', '>']))) := by
    decide +kernel
  obtain ⟨written, body, hwritten, hbody, hagree⟩ := readers_agree htag
  cases hwritten.symm.trans hslice
  obtain rfl : " b='/>'c=d/ b\tk=\n\"=\" ".toList = body :=
    List.append_cancel_right (List.append_cancel_left (List.cons.inj hbody).2)
  obtain ⟨attributes, hparse, hlast⟩ := hagree (by decide +kernel) (by decide +kernel)
  rw [String.ofList_toList] at hparse
  refine ⟨htag, attributes, hparse, ?_⟩
  rw [hlast, hlast, hlast]
  decide +kernel

end TagWeave
