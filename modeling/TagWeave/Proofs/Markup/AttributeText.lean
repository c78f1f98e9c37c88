import TagWeave.Proofs.Markup.TagBody
import TagWeave.Proofs.Markup.WrittenAttributes

/-!
# Attributes written and read again

What has been read from a text can be written and read again, also after other sets that have been
read were merged into it or attributes were taken out (`AttributeSet.parse_write`). Attributes are
written as parts of a tag, and those of a set that has been read are parts of a text as well
(`AttributeSet.inText_joined_valid`).
-/

namespace TagWeave

open Text (isBlank)

namespace AttributeSet

/-- The set comes from texts, and names and values are as they were read, but for tab indices. -/
inductive Obtained : AttributeSet → Prop
  | parse (h : parse text = .ok attributes) : Obtained attributes
  | merge (h : Obtained attributes) (hother : Obtained other) (overwrite : Bool) :
    Obtained (attributes.merge other overwrite)
  | erase (h : Obtained attributes) (name : String) : Obtained (attributes.erase name)
  | data (h : Obtained attributes) : Obtained attributes.data
  | setTabIndex (h : Obtained attributes) (index : Int) : Obtained (attributes.setTabIndex index)

variable {name text value : String} {attributes other : AttributeSet}

/-! ## Values that can be enclosed -/

theorem checkQuotes_eq_ok_iff : checkQuotes name value = .ok () ↔ hasBothQuotes value = false := by
  unfold checkQuotes
  split <;> simp [*]

theorem validate_eq_ok_iff :
    attributes.validate = .ok () ↔ ∀ e ∈ attributes.entries, hasBothQuotes e.2 = false := by
  unfold validate
  generalize attributes.entries = entries
  induction entries with
  | nil => exact iff_of_true rfl (List.forall_mem_nil _)
  | cons entry entries ih =>
    rw [List.forall_mem_cons, ← checkQuotes_eq_ok_iff, ← ih, List.forM_eq_forM, List.forM_cons]
    show (checkQuotes entry.1 entry.2 >>= _) = _ ↔ _
    cases checkQuotes entry.1 entry.2 with
    | error e => exact iff_of_false nofun nofun
    | ok _ => exact (and_iff_right rfl).symm

/-! ## What has been read -/

/-- An attribute as it can stand in a text: its name is one word, and its value can be enclosed. -/
structure Readable (entry : String × String) : Prop where
  name : isName entry.1 = true
  noBlank : ∀ c ∈ entry.1.toList, isBlank c = false
  quotes : hasBothQuotes entry.2 = false

theorem readable_of_valid {part : AttributePart} {entry : String × String}
    (hpart : part.Valid) (hentry : part.entry? = some entry) : Readable entry := by
  cases part with
  | blank c => cases hentry
  | bare name =>
    cases hentry
    exact ⟨hpart.isName, hpart.noBlank, rfl⟩
  | valued name before behind v =>
    cases hentry
    obtain ⟨hname, -, -, -, hquotes⟩ := hpart
    exact ⟨hname.isName, hname.noBlank, hquotes⟩

theorem readable_entries {parts : List AttributePart} (hparts : AttributeParts.WellFormed parts) :
    ∀ e ∈ AttributeParts.entries parts, Readable e := by
  induction parts with
  | nil => exact List.forall_mem_nil _
  | cons part parts ih =>
    obtain ⟨hpart, -, hparts⟩ := hparts
    intro e he
    obtain ⟨other, hmem, hentry⟩ := List.mem_filterMap.mp he
    rcases List.mem_cons.mp hmem with rfl | hmem
    · exact readable_of_valid hpart hentry
    · exact ih hparts e (List.mem_filterMap.mpr ⟨other, hmem, hentry⟩)

theorem readable_tabIndex (index : Int) : Readable ("tabIndex", toString index) := by
  have hname : isName "tabIndex" = true := by decide
  have hblank : ∀ c ∈ "tabIndex".toList, isBlank c = false := fun c hc =>
    Number.isBlank_of_isNumeralChar (List.all_eq_true.mp (by decide) c hc)
  exact ⟨hname, hblank, hasBothQuotes_of_numeral (Number.chars_of_toString index)⟩

theorem Obtained.readable (h : Obtained attributes) : ∀ e ∈ attributes.entries, Readable e := by
  induction h with
  | parse h =>
    obtain ⟨parts, hparts, -, rfl⟩ := exists_parts_of_readOnto h
    exact Dictionary.forall_foldl_insert (List.forall_mem_nil _) (readable_entries hparts)
  | merge _ _ _ ih ihother => exact Dictionary.forall_merge ih ihother
  | erase _ _ ih => exact Dictionary.forall_filter ih
  | data _ ih => exact Dictionary.forall_filter ih
  | setTabIndex _ index ih => exact Dictionary.forall_insert ih (readable_tabIndex index)

/-! ## Reading written values -/

/-- The value as it is read again, if it can be enclosed: truth has none, and falsehood is in small
letters. -/
def normalValue (value : String) : String :=
  if Text.lowercase value = "true" then ""
  else if Text.lowercase value = "false" then "false"
  else value

/-- The set as it is read again. -/
def normal (attributes : AttributeSet) : AttributeSet := attributes.mapValues normalValue

theorem readBack_eq_normalValue (h : hasBothQuotes value = false) :
    readBack value = normalValue value := by
  simp [readBack, normalValue, h]

theorem hasBothQuotes_normalValue (h : hasBothQuotes value = false) :
    hasBothQuotes (normalValue value) = false := by
  unfold normalValue
  split
  · rfl
  split
  · rfl
  · exact h

theorem writeValue_normalValue : writeValue (normalValue value) = writeValue value := by
  unfold normalValue
  split
  · rename_i htrue
    have hempty : writeValue "" = "" := by decide
    rw [hempty]
    simp [writeValue, htrue]
  split
  · rename_i hfalse
    have hsmall : writeValue "false" = "=false" := by decide
    have hne : value ≠ "" := by
      rintro rfl
      exact absurd hfalse (by decide)
    rw [hsmall]
    simp [writeValue, hfalse, hne]
  · rfl

/-- What is written without quotes holds no blanks. -/
theorem noBlank_of_written? {bare : String} (h : written? value = some (.unquoted bare)) :
    ∀ c ∈ bare.toList, isBlank c = false := by
  unfold written? at h
  split at h
  · cases h
  split at h
  · rename_i hfalse
    cases h
    rw [eq_of_beq hfalse]
    exact fun c hc => Number.isBlank_of_isNumeralChar (List.all_eq_true.mp (by decide) c hc)
  split at h
  · rename_i hnumeric
    cases h
    exact fun c hc => Number.isBlank_of_isNumeralChar ((Number.chars_of_isNumeric hnumeric).2 c hc)
  split at h
  · cases h
  split at h
  · cases h
  · cases h

theorem inText_of_written? {v : WrittenValue} (h : written? value = some v) : v.InText := by
  have hvalid := written?_valid h
  cases v with
  | quoted quote value => exact hvalid
  | unquoted bare => exact ⟨hvalid.noQuote, noBlank_of_written? h⟩

/-! ## Reading written attributes -/

theorem inText_part_valid {entry : String × String} (h : Readable entry) :
    (part entry).inText.Valid := by
  have hread := readBack_eq entry.2
  rw [readBack_eq_normalValue h.quotes] at hread
  rw [part]
  cases hwritten : written? entry.2 with
  | none => exact ⟨h.name, h.noBlank⟩
  | some v =>
    rw [hwritten] at hread
    have hquotes : hasBothQuotes v.value = false := by
      rw [← show normalValue entry.2 = v.value from hread]
      exact hasBothQuotes_normalValue h.quotes
    exact ⟨⟨h.name, h.noBlank⟩, List.forall_mem_nil _, List.forall_mem_nil _,
      inText_of_written? hwritten, hquotes⟩

theorem inText_joined_valid : ∀ {entries : List (String × String)}, (∀ e ∈ entries, Readable e) →
    ∀ each ∈ (entries.map part).intersperse (.blank ' '), each.inText.Valid
  | [], _ => List.forall_mem_nil _
  | [entry], h => List.forall_mem_singleton.mpr (inText_part_valid (h entry List.mem_cons_self))
  | first :: second :: more, h => by
    obtain ⟨hfirst, hmore⟩ := List.forall_mem_cons.mp h
    have hblank : isBlank ' ' = true := by decide
    exact List.forall_mem_cons.mpr ⟨inText_part_valid hfirst,
      List.forall_mem_cons.mpr ⟨hblank, inText_joined_valid hmore⟩⟩

theorem write_normal : write (normal attributes) = write attributes := by
  rw [write, write, normal, Dictionary.entries_mapValues, List.map_map]
  refine congrArg _ (List.map_congr_left fun entry _ => ?_)
  exact congrArg (entry.1 ++ ·) writeValue_normalValue

theorem parse_write_of_readable (h : ∀ e ∈ attributes.entries, Readable e) :
    parse (write attributes) = .ok (normal attributes) := by
  let written := (attributes.entries.map part).intersperse (.blank ' ')
  have hparts : AttributeParts.WellFormed (written.map TagPart.inText) :=
    TagParts.wellFormed_inText (joined_wellFormed fun e he => (h e he).name) (inText_joined_valid h)
  have hentries : AttributeParts.entries (written.map TagPart.inText) =
      (normal attributes).entries := by
    rw [TagParts.entries_inText, attributes_joined, normal, Dictionary.entries_mapValues]
    apply List.map_congr_left
    intro e he
    exact congrArg (e.1, ·) (readBack_eq_normalValue (h e he).quotes)
  rw [parse, toList_write, ← text_joined, ← TagParts.text_inText, readOnto_text hparts, hentries]
  exact congrArg Except.ok Dictionary.ofList_entries

/-- **What has been read can be written and read again.** Names stay as they are, truth loses its
value, and falsehood comes in small letters. Once that is so, nothing changes any more. -/
theorem parse_write (h : Obtained attributes) :
    parse (write attributes) = .ok (normal attributes) ∧
      write (normal attributes) = write attributes ∧
      parse (write (normal attributes)) = .ok (normal attributes) := by
  have hread := parse_write_of_readable h.readable
  exact ⟨hread, write_normal, (congrArg parse write_normal).trans hread⟩

/-- Attributes from two texts, some of them changed afterwards. -/
def edited : AttributeSet :=
  let first := .ofList [("alt", "a=b \"c"), ("data-n", "1e5"), ("hidden", "TRUE"), ("k", "False"),
    ("x", "")]
  let second := .ofList [("alt", "other"), ("lang", "l'x=y")]
  setTabIndex ((Dictionary.merge first second false).erase "x") (-3)

theorem parse_write_edited : Obtained edited ∧
    write edited = "alt='a=b \"c' data-n=1e5 hidden k=false lang=\"l'x=y\" tabIndex=-3" ∧
    parse (write edited) = .ok (.ofList [("alt", "a=b \"c"), ("data-n", "1e5"), ("hidden", ""),
      ("k", "false"), ("lang", "l'x=y"), ("tabIndex", "-3")]) := by
  have hfirst : parse "x alt = 'a=b \"c' hidden=TRUE k=False data-n=1e5" = .ok (.ofList
      [("alt", "a=b \"c"), ("data-n", "1e5"), ("hidden", "TRUE"), ("k", "False"), ("x", "")]) := by
    decide +kernel
  have hsecond : parse "alt=other lang=\"l'x=y\"" =
      .ok (.ofList [("alt", "other"), ("lang", "l'x=y")]) := by
    decide +kernel
  have hedited : Obtained edited :=
    (((Obtained.parse hfirst).merge (.parse hsecond) false).erase "x").setTabIndex (-3)
  refine ⟨hedited, by decide +kernel, ?_⟩
  rw [(parse_write hedited).1]
  decide +kernel

end AttributeSet

end TagWeave
