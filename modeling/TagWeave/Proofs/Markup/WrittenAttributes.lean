import TagWeave.Markup.Attributes.Writer
import TagWeave.Proofs.Markup.ScanAppend
import TagWeave.Proofs.Number.Decimal

/-!
# Written attributes inside a tag

Attributes are written as parts of a tag (`AttributeSet.parts`), whatever their values hold. So a
tag around them is one tag, and a scanner reads every attribute back (`AttributeSet.scan_write`).
Some values are respelled on the way (`AttributeSet.readBack`).
-/

namespace TagWeave

open Text (byteSize isAsciiBlank Stops)

theorem Number.isAsciiBlank_of_isNumeralChar {c : Char} (h : isNumeralChar c = true) :
    isAsciiBlank c = false := by
  rw [Bool.eq_false_iff]
  intro hc
  simp only [isAsciiBlank, Bool.or_eq_true, beq_iff_eq] at hc
  obtain (((rfl | rfl) | rfl) | rfl) | rfl := hc <;> revert h <;> decide

/-- A number needs no quotes. -/
theorem isUnquoted_of_isNumeric {value : String} (h : Number.isNumeric value = true) :
    IsUnquoted value.toList := by
  obtain ⟨hne, hchars⟩ := Number.chars_of_isNumeric h
  have hnot {d : Char} (hd : Number.isNumeralChar d = false) : d ∉ value.toList := fun hmem =>
    Bool.eq_false_iff.mp hd (hchars d hmem)
  refine ⟨by simpa using hne, ?_,
    fun c hc => Number.isAsciiBlank_of_isNumeralChar (hchars c hc), ?_⟩
  · intro c hc
    have hmem := List.mem_of_mem_head? hc
    rw [Bool.or_eq_false_iff, beq_eq_false_iff_ne, beq_eq_false_iff_ne]
    constructor
    · rintro rfl
      exact hnot (by decide) hmem
    · rintro rfl
      exact hnot (by decide) hmem
  · exact fun hclose => hnot (d := '/') (by decide) (hclose.subset List.mem_cons_self)

namespace AttributeSet

/-! ## Values -/

/-- The value that is read where this one has been written: truth has none, falsehood is in small
letters, and next to single quotes the double ones are entities. -/
def readBack (value : String) : String :=
  if Text.lowercase value = "true" then ""
  else if Text.lowercase value = "false" then "false"
  else if hasBothQuotes value then escapeQuotes value
  else value

/-- How a value is written, if it needs more than the name. -/
def written? (value : String) : Option WrittenValue :=
  if value.isEmpty || Text.lowercase value == "true" then none
  else if Text.lowercase value == "false" then some (.unquoted (Text.lowercase value))
  else if Number.isNumeric value then some (.unquoted value)
  else if !value.toList.contains '\'' then some (.quoted '\'' value)
  else if !value.toList.contains '"' then some (.quoted '"' value)
  else some (.quoted '"' (escapeQuotes value))

theorem toList_writeValue (value : String) : (writeValue value).toList =
    match written? value with
    | none => []
    | some v => '=' :: v.text := by
  unfold writeValue written?
  dsimp only
  split
  · rfl
  split
  · rw [String.toList_append]
    rfl
  split
  · rw [String.toList_append]
    rfl
  split
  · simp [WrittenValue.text]
  split
  · simp [WrittenValue.text]
  · simp [WrittenValue.text]

theorem not_mem_escapeQuotes (value : String) : '"' ∉ (escapeQuotes value).toList := by
  rw [escapeQuotes, String.toList_ofList, List.mem_flatMap]
  rintro ⟨c, -, hc⟩
  split at hc
  · revert hc
    decide
  · rename_i hne
    rw [List.mem_singleton] at hc
    exact hne (beq_iff_eq.mpr hc.symm)

theorem written?_valid {value : String} {v : WrittenValue} (h : written? value = some v) :
    v.Valid := by
  unfold written? at h
  split at h
  · cases h
  split at h
  · rename_i hfalse
    cases h
    rw [eq_of_beq hfalse]
    exact ⟨by decide, Text.stops_cons.mpr (by decide), fun c hc =>
      Number.isAsciiBlank_of_isNumeralChar (List.all_eq_true.mp (by decide) c hc), by decide⟩
  split at h
  · rename_i hnumeric
    cases h
    exact isUnquoted_of_isNumeric hnumeric
  split at h
  · rename_i hsingle
    cases h
    exact ⟨.inr rfl, by simpa using hsingle⟩
  split at h
  · rename_i hdouble
    cases h
    exact ⟨.inl rfl, by simpa using hdouble⟩
  · cases h
    exact ⟨.inl rfl, not_mem_escapeQuotes value⟩

/-- What a number is written with holds no quotes. -/
theorem hasBothQuotes_of_numeral {value : String}
    (h : ∀ c ∈ value.toList, Number.isNumeralChar c = true) : hasBothQuotes value = false := by
  rw [hasBothQuotes, Bool.and_eq_false_iff]
  refine .inl (Bool.eq_false_iff.mpr fun hquote => ?_)
  exact absurd (h _ (List.contains_iff_mem.mp hquote)) (by decide)

/-- What is read is the written value, and the empty text where none is written. -/
theorem readBack_eq (value : String) :
    readBack value = ((written? value).map WrittenValue.value).getD "" := by
  unfold readBack written?
  by_cases hempty : value = ""
  · subst hempty
    rfl
  by_cases htrue : Text.lowercase value = "true"
  · simp [htrue]
  by_cases hfalse : Text.lowercase value = "false"
  · simp [hempty, hfalse, WrittenValue.value]
  by_cases hnumeric : Number.isNumeric value = true
  · have hquotes := hasBothQuotes_of_numeral (Number.chars_of_isNumeric hnumeric).2
    simp [hempty, htrue, hfalse, hnumeric, hquotes, WrittenValue.value]
  by_cases hsingle : '\'' ∈ value.toList
  · by_cases hdouble : '"' ∈ value.toList
    · simp [hempty, htrue, hfalse, hnumeric, hsingle, hdouble, hasBothQuotes, WrittenValue.value]
    · simp [hempty, htrue, hfalse, hnumeric, hsingle, hdouble, hasBothQuotes, WrittenValue.value]
  · simp [hempty, htrue, hfalse, hnumeric, hsingle, hasBothQuotes, WrittenValue.value]

/-! ## Parts of a tag -/

/-- An attribute as a part of a tag. -/
def part (entry : String × String) : TagPart :=
  match written? entry.2 with
  | none => .bare entry.1
  | some v => .valued entry.1 [] v

/-- The attributes, a blank before each; without attributes the blank alone. -/
def parts (entries : List (String × String)) : List TagPart :=
  .blank ' ' :: (entries.map part).intersperse (.blank ' ')

section
variable {entry : String × String} {entries : List (String × String)}

theorem text_part : (part entry).text = entry.1.toList ++ (writeValue entry.2).toList := by
  rw [toList_writeValue, part]
  split
  · simp [TagPart.text]
  · simp [TagPart.text]

theorem attribute?_part : (part entry).attribute? = some (entry.1, readBack entry.2) := by
  rw [readBack_eq, part]
  split
  · simp [TagPart.attribute?, *]
  · simp [TagPart.attribute?, *]

theorem part_valid (hname : isName entry.1 = true) : (part entry).Valid := by
  rw [part]
  split
  · exact hname
  · rename_i v hv
    exact ⟨hname, ⟨nofun, written?_valid hv⟩⟩

theorem text_joined : ∀ {entries : List (String × String)},
    TagParts.text ((entries.map part).intersperse (.blank ' ')) =
      [' '].intercalate (entries.map fun entry => entry.1.toList ++ (writeValue entry.2).toList)
  | [] => rfl
  | [entry] => by simp [TagParts.text, List.intercalate, text_part]
  | first :: second :: more => by
    have hmore := @text_joined (second :: more)
    simp only [TagParts.text, List.intercalate, List.map_cons] at hmore
    have hblank : TagPart.text (.blank ' ') = [' '] := rfl
    simp only [TagParts.text, List.intercalate, List.map_cons, List.intersperse_cons_cons,
      List.flatMap_cons, List.flatten_cons, hmore, text_part, hblank]

theorem attributes_joined : ∀ {entries : List (String × String)},
    ((entries.map part).intersperse (.blank ' ')).filterMap TagPart.attribute? =
      entries.map fun (name, value) => (name, readBack value)
  | [] => rfl
  | [entry] => by simp [attribute?_part]
  | first :: second :: more => by
    have hmore := @attributes_joined (second :: more)
    simp only [List.map_cons] at hmore
    have hblank : TagPart.attribute? (.blank ' ') = none := rfl
    simp only [List.map_cons, List.intersperse_cons_cons, List.filterMap_cons, attribute?_part,
      hmore, hblank]

theorem joined_wellFormed : ∀ {entries : List (String × String)},
    (∀ entry ∈ entries, isName entry.1 = true) →
    TagParts.WellFormed ((entries.map part).intersperse (.blank ' '))
  | [], _ => trivial
  | [entry], h => ⟨part_valid (h entry List.mem_cons_self), fun _ => trivial, trivial⟩
  | first :: second :: more, h => by
    obtain ⟨hfirst, hmore⟩ := List.forall_mem_cons.mp h
    exact ⟨part_valid hfirst, fun _ => trivial, rfl, False.elim, joined_wellFormed hmore⟩

end

section
variable {attributes : AttributeSet}

theorem toList_write : (write attributes).toList = [' '].intercalate
    (attributes.entries.map fun entry => entry.1.toList ++ (writeValue entry.2).toList) := by
  rw [write, String.toList_intercalate, List.map_map]
  refine congrArg _ (List.map_congr_left fun entry _ => ?_)
  exact String.toList_append

theorem closed_parts : TagParts.closed (parts attributes.entries) =
    ' ' :: ((write attributes).toList ++ ['/', '>']) := by
  rw [toList_write, ← text_joined]
  rfl

theorem attributes_parts : (parts attributes.entries).filterMap TagPart.attribute? =
    attributes.entries.map fun (name, value) => (name, readBack value) := attributes_joined

theorem parts_wellFormed (hnames : ∀ entry ∈ attributes.entries, isName entry.1 = true) :
    TagParts.WellFormed (parts attributes.entries) := ⟨rfl, False.elim, joined_wellFormed hnames⟩

end

/-! ## Scanning what is written -/

/-- **Attributes do not break out of their tag.** Whatever their values hold, a tag around written
attributes is one tag up to its end, and each attribute is read back, in the order of the names,
with the value that `readBack` says. -/
theorem scan_write (reserved suffix : String) (attributes : AttributeSet) (hsuffix : suffix ≠ "")
    (hchars : ∀ c ∈ suffix.toList, isNameChar c = true)
    (hnames : ∀ entry ∈ attributes.entries, isName entry.1 = true) :
    scan reserved ("<" ++ (reserved ++ suffix) ++ " " ++ write attributes ++ "/>") =
      ⟨[.tag ⟨reserved ++ suffix,
        attributes.entries.map fun (name, value) => (name, readBack value),
        ⟨0, byteSize ("<" ++ (reserved ++ suffix) ++ " " ++ write attributes ++ "/>").toList⟩⟩],
        none⟩ := by
  let form : TagForm := ⟨suffix.toList, parts attributes.entries, by simpa using hsuffix, hchars,
    trivial, parts_wellFormed hnames⟩
  have htext : ("<" ++ (reserved ++ suffix) ++ " " ++ write attributes ++ "/>").toList =
      form.text reserved.toList := by
    simp [form, TagForm.text, closed_parts]
  have hopen : Text.after? ('<' :: reserved.toList) (form.text reserved.toList) =
      some (form.suffix ++ (TagParts.closed form.parts ++ [])) :=
    Text.after?_eq_some_iff.mpr (by simp [TagForm.text])
  unfold scan
  rw [htext, scanFrom_of_tag hopen (readTag_form form), scanFrom_nil]
  simp [form, TagForm.tag, TagForm.attributes, attributes_parts, Scan.cons]

/-- Values that could end their tag or run into the next attribute. -/
def hostileValues : AttributeSet :=
  .ofList [("alt", "/><b>"), ("data-n", "1e5"), ("hidden", "TRUE"), ("lang", "fAlse"),
    ("title", "it's \"x\""), ("value", " a=b\n'")]

theorem scan_write_hostileValues : (∀ entry ∈ hostileValues.entries, isName entry.1 = true) ∧
    scan "ick-" ("<" ++ ("ick-" ++ "x") ++ " " ++ write hostileValues ++ "/>") =
      ⟨[.tag ⟨"ick-x", [("alt", "/><b>"), ("data-n", "1e5"), ("hidden", ""), ("lang", "false"),
        ("title", "it's &quot;x&quot;"), ("value", " a=b\n'")], ⟨0, 91⟩⟩], none⟩ := by
  have hnames : ∀ entry ∈ hostileValues.entries, isName entry.1 = true := by decide +kernel
  refine ⟨hnames, ?_⟩
  rw [scan_write "ick-" "x" hostileValues (by decide) (List.all_eq_true.mp (by decide)) hnames]
  decide +kernel

end AttributeSet

end TagWeave
