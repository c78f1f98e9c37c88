import TagWeave.Proofs.Component.Merging

/-!
# Which attributes an element has

An attribute is given by the tag of the component, by its setup or by the defaults of its container,
and the first of these counts (`firstGiven?`). Classes and style are put together from all sides
(`elementClasses`, `elementStyle`). If merging succeeds the element has these attributes and no
others, and it fails only if a text cannot be read or a value cannot be quoted
(`mergeAttributes_precedence`).
-/

namespace TagWeave

open AttributeSet (hasBothQuotes)

/-! ## Classes -/

namespace ClassSet
variable {classes more : ClassSet} {text : String}

/-- The words of a text are added if all of them are names. -/
theorem addWords_eq_ok_iff : classes.addWords text = .ok more ↔
    (∀ word ∈ wordsOf text, isName word = true) ∧
      more = (wordsOf text).foldl insert classes := by
  constructor
  · intro h
    cases hfind : (wordsOf text).find? (!isName ·) with
    | some word =>
      rw [addWords_of_find? hfind] at h
      cases h
    | none =>
      have hnames : ∀ word ∈ wordsOf text, isName word = true := by simpa using hfind
      rw [addWords_of_names hnames] at h
      cases h
      exact ⟨hnames, rfl⟩
  · rintro ⟨hnames, rfl⟩
    exact addWords_of_names hnames

end ClassSet

/-! ## What an element should have -/

section
variable (container : Container) (setup : Setup) (site defaults : AttributeSet) (id : String)

/-- The value that the tag gives to an attribute, else the one of the setup, else the default. -/
def firstGiven? (name : String) : Option String :=
  (site.get? name).or ((setup.attributes.get? name).or (defaults.get? name))

/-- The classes of the container, those of the first class attribute given and those of the setup,
each where it occurs first. -/
def elementClasses : List String :=
  (ClassSet.wordsOf container.classes ++
    (ClassSet.wordsOf ((firstGiven? setup site defaults "class").getD "") ++
      setup.classes.tokens)).eraseDups

/-- One more piece of style text. A semicolon stands before it unless there is no text or the text
ends with one. -/
def joinStyle (text piece : String) : String :=
  if text = "" ∨ text.toList.getLast? = some ';' then text ++ piece else text ++ ";" ++ piece

/-- The pieces without the blanks at their ends, one after the other; blank ones are left out. -/
def styleOf (pieces : List String) : String :=
  ((pieces.map Text.trimmed).filter (· ≠ "")).foldl joinStyle ""

def stylePieces : List String :=
  [container.style, setup.style.text, (firstGiven? setup site defaults "style").getD ""]

/-- The value of an attribute of the element. -/
def elementValue? (name : String) : Option String :=
  if name = "id" then some id
  else if name = "class" then
    if elementClasses container setup site defaults = [] then none
    else some (" ".intercalate (elementClasses container setup site defaults))
  else if name = "style" then
    if styleOf (stylePieces container setup site defaults) = "" then none
    else some (styleOf (stylePieces container setup site defaults))
  else firstGiven? setup site defaults name

end

/-! ## Style -/

theorem joinStyle_ne_empty {text piece : String} (h : piece ≠ "") : joinStyle text piece ≠ "" := by
  unfold joinStyle
  split
  · intro hempty
    exact h (String.append_eq_empty_iff.mp hempty).2
  · intro hempty
    exact h (String.append_eq_empty_iff.mp hempty).2

/-- There is no style exactly if all pieces are blank. -/
theorem styleOf_eq_empty_iff {pieces : List String} :
    styleOf pieces = "" ↔ ∀ piece ∈ pieces, Text.trimmed piece = "" := by
  have hmore {pieces : List String} (h : ∀ piece ∈ pieces, piece ≠ "") (text : String) :
      pieces.foldl joinStyle text = "" ↔ text = "" ∧ pieces = [] := by
    induction pieces generalizing text with
    | nil => simp
    | cons piece pieces ih =>
      obtain ⟨hpiece, hpieces⟩ := List.forall_mem_cons.mp h
      rw [List.foldl_cons, ih hpieces]
      simp [joinStyle_ne_empty hpiece]
  unfold styleOf
  rw [hmore (by simp)]
  simp

namespace Style
variable {style : Style} {piece : String} {pieces : List String}

theorem text_push : (style.push piece).text =
    if Text.trimmed piece = "" then style.text else joinStyle style.text (Text.trimmed piece) := by
  unfold push joinStyle isEmpty
  dsimp only
  simp only [String.isEmpty_iff, Bool.or_eq_true, beq_iff_eq]
  split
  · rfl
  · split <;> rfl

theorem text_foldl_push : (pieces.foldl push style).text =
    ((pieces.map Text.trimmed).filter (· ≠ "")).foldl joinStyle style.text := by
  induction pieces generalizing style with
  | nil => rfl
  | cons piece pieces ih =>
    rw [List.foldl_cons, ih, text_push, List.map_cons, List.filter_cons]
    split
    · rename_i hblank
      simp [hblank]
    · rename_i hpiece
      simp [hpiece]

end Style

/-! ## Merging -/

section
variable {container : Container} {setup : Setup}
  {site defaults merged attributes : AttributeSet} {classes : ClassSet} {style : Style}
  {id name : String}

/-- Two merges, one that overwrites and one that does not, leave the first value given. -/
theorem get?_merged : ((setup.attributes.merge site true).merge defaults false).get? name =
    firstGiven? setup site defaults name := by
  rw [Dictionary.get?_merge_keep, Dictionary.get?_merge_overwrite, Option.or_assoc]
  rfl

theorem mergedClasses_eq_ok_iff
    (hdefaults : AttributeSet.parse container.attributes = .ok defaults) :
    mergedClasses container setup site = .ok classes ↔
      (∀ word ∈ ClassSet.wordsOf container.classes, isName word = true) ∧
      (∀ word ∈ ClassSet.wordsOf ((firstGiven? setup site defaults "class").getD ""),
        isName word = true) ∧
      classes = (ClassSet.wordsOf container.classes ++
        (ClassSet.wordsOf ((firstGiven? setup site defaults "class").getD "") ++
          setup.classes.tokens)).foldl ClassSet.insert .empty := by
  unfold mergedClasses
  rw [ok_bind hdefaults]
  dsimp only
  rw [get?_merged, List.foldl_append, List.foldl_append]
  constructor
  · intro h
    obtain ⟨first, hfirst, h⟩ := exists_of_bind_eq_ok h
    obtain ⟨second, hsecond, h⟩ := exists_of_bind_eq_ok h
    obtain ⟨hnames, rfl⟩ := ClassSet.addWords_eq_ok_iff.mp hfirst
    obtain ⟨hwords, rfl⟩ := ClassSet.addWords_eq_ok_iff.mp hsecond
    exact ⟨hnames, hwords, (Except.ok.inj h).symm⟩
  · rintro ⟨hnames, hwords, rfl⟩
    have hfirst : ClassSet.parse container.classes = .ok _ :=
      ClassSet.addWords_eq_ok_iff.mpr ⟨hnames, rfl⟩
    rw [ok_bind hfirst, ok_bind (ClassSet.addWords_eq_ok_iff.mpr ⟨hwords, rfl⟩)]
    rfl

theorem tokens_mergedClasses (hdefaults : AttributeSet.parse container.attributes = .ok defaults)
    (h : mergedClasses container setup site = .ok classes) :
    classes.tokens = elementClasses container setup site defaults := by
  obtain ⟨-, -, rfl⟩ := (mergedClasses_eq_ok_iff hdefaults).mp h
  rw [ClassSet.tokens_foldl_insert, ClassSet.empty, List.nil_append, elementClasses]

theorem get?_elementAttributes_style : (elementAttributes merged id classes style).get? "style" =
    if style.isEmpty then none else some style.text := by
  have hid : "style" ≠ "id" := by decide
  have hclass : "style" ≠ "class" := by decide
  unfold elementAttributes
  dsimp only
  split <;> split <;>
    simp only [Dictionary.get?_insert_of_ne hid, Dictionary.get?_insert_of_ne hclass,
      Dictionary.get?_insert, Dictionary.get?_erase]

theorem get?_elementAttributes_of_ne (hid : name ≠ "id") (hclass : name ≠ "class")
    (hstyle : name ≠ "style") :
    (elementAttributes merged id classes style).get? name = merged.get? name := by
  unfold elementAttributes
  dsimp only
  split <;> split <;>
    simp only [Dictionary.get?_insert_of_ne hid, Dictionary.get?_insert_of_ne hclass,
      Dictionary.get?_insert_of_ne hstyle, Dictionary.get?_erase_of_ne hclass,
      Dictionary.get?_erase_of_ne hstyle]

/-- The attributes that are put together are those that the element should have. -/
theorem get?_elementAttributes
    (hmerged : merged = (setup.attributes.merge site true).merge defaults false)
    (hclasses : classes.tokens = elementClasses container setup site defaults) :
    (elementAttributes merged id classes (mergedStyle container setup merged)).get? name =
      elementValue? container setup site defaults id name := by
  have hstyle : (mergedStyle container setup merged).text =
      styleOf (stylePieces container setup site defaults) := by
    have hpieces : mergedStyle container setup merged =
        (stylePieces container setup site defaults).foldl Style.push .empty := by
      rw [mergedStyle, hmerged, get?_merged, Style.ofText]
      simp only [stylePieces, List.foldl_cons, List.foldl_nil]
    rw [hpieces, Style.text_foldl_push, styleOf, Style.empty]
  unfold elementValue?
  split
  · rename_i heq
    rw [heq, get?_elementAttributes_id]
  rename_i hid
  split
  · rename_i heq
    rw [heq, get?_elementAttributes_class, ClassSet.write, ClassSet.isEmpty, hclasses]
    simp
  rename_i hclass
  split
  · rename_i heq
    rw [heq, get?_elementAttributes_style, Style.isEmpty, hstyle]
    simp
  · rename_i hne
    rw [get?_elementAttributes_of_ne hid hclass hne, hmerged, get?_merged]

theorem quotes_iff {attributes : AttributeSet} :
    (∀ e ∈ attributes.entries, hasBothQuotes e.2 = false) ↔
      ∀ name value, attributes.get? name = some value → hasBothQuotes value = false := by
  constructor
  · intro h name value hget
    exact h _ (Dictionary.get?_eq_some_iff_mem.mp hget)
  · intro h e he
    exact h e.1 e.2 (Dictionary.get?_eq_some_iff_mem.mpr he)

/-- Once the classes are read only the quotes are looked at. -/
theorem mergeAttributes_eq_ok_iff
    (hdefaults : AttributeSet.parse container.attributes = .ok defaults)
    (hmerged : merged = (setup.attributes.merge site true).merge defaults false) :
    mergeAttributes container setup site id = .ok attributes ↔
      ∃ classes, mergedClasses container setup site = .ok classes ∧
        attributes = elementAttributes merged id classes (mergedStyle container setup merged) ∧
        ∀ name value, attributes.get? name = some value → hasBothQuotes value = false := by
  cases hclasses : mergedClasses container setup site with
  | error e =>
    rw [mergeAttributes_of_error hclasses]
    exact ⟨nofun, nofun⟩
  | ok classes =>
    rw [mergeAttributes_of_classes hdefaults hclasses hmerged rfl]
    constructor
    · intro h
      cases hvalid : (elementAttributes merged id classes
          (mergedStyle container setup merged)).validate with
      | error e =>
        rw [hvalid] at h
        cases h
      | ok u =>
        rw [hvalid] at h
        have heq := Except.ok.inj h
        refine ⟨classes, rfl, heq.symm, ?_⟩
        rw [← heq]
        exact quotes_iff.mp (AttributeSet.validate_eq_ok_iff.mp hvalid)
    · rintro ⟨found, hfound, heq, hquotes⟩
      cases hfound
      rw [← heq, AttributeSet.validate_eq_ok_iff.mpr (quotes_iff.mpr hquotes)]
      rfl

/-- What is known of a container whose attributes are merged. -/
theorem mergeAttributes_spec (h : mergeAttributes container setup site id = .ok attributes) :
    ∃ defaults, AttributeSet.parse container.attributes = .ok defaults ∧
      (∀ word ∈ ClassSet.wordsOf container.classes, isName word = true) ∧
      (∀ word ∈ ClassSet.wordsOf ((firstGiven? setup site defaults "class").getD ""),
        isName word = true) ∧
      (∀ name value, attributes.get? name = some value → hasBothQuotes value = false) ∧
      ∀ name, attributes.get? name = elementValue? container setup site defaults id name := by
  obtain ⟨defaults, -, -, hdefaults, -⟩ := mergeAttributes_eq_ok h
  obtain ⟨classes, hclasses, heq, hquotes⟩ := (mergeAttributes_eq_ok_iff hdefaults rfl).mp h
  obtain ⟨hnames, hwords, -⟩ := (mergedClasses_eq_ok_iff hdefaults).mp hclasses
  refine ⟨defaults, hdefaults, hnames, hwords, hquotes, fun name => ?_⟩
  rw [heq]
  exact get?_elementAttributes rfl (tokens_mergedClasses hdefaults hclasses)

end

/-- **The first value given counts, and classes and style accumulate.** Merging succeeds exactly if
the defaults of the container can be read, all words of its classes and of the first class attribute
given are names, and no value that the element should have holds both kinds of quotes. The element
then has just these values; it has no style exactly if all pieces of style are blank. -/
theorem mergeAttributes_precedence (container : Container) (setup : Setup) (site : AttributeSet)
    (id : String) :
    ((∃ attributes, mergeAttributes container setup site id = .ok attributes) ↔
      ∃ defaults, AttributeSet.parse container.attributes = .ok defaults ∧
        (∀ word ∈ ClassSet.wordsOf container.classes, isName word = true) ∧
        (∀ word ∈ ClassSet.wordsOf ((firstGiven? setup site defaults "class").getD ""),
          isName word = true) ∧
        ∀ name value, elementValue? container setup site defaults id name = some value →
          hasBothQuotes value = false) ∧
    ∀ attributes, mergeAttributes container setup site id = .ok attributes →
      ∃ defaults, AttributeSet.parse container.attributes = .ok defaults ∧
        (∀ name, attributes.get? name = elementValue? container setup site defaults id name) ∧
        (attributes.get? "style" = none ↔
          ∀ piece ∈ stylePieces container setup site defaults, Text.trimmed piece = "") := by
  refine ⟨⟨?_, ?_⟩, fun attributes hmerge => ?_⟩
  · rintro ⟨attributes, hmerge⟩
    obtain ⟨defaults, hdefaults, hnames, hwords, hquotes, hvalues⟩ := mergeAttributes_spec hmerge
    refine ⟨defaults, hdefaults, hnames, hwords, fun name value hvalue => hquotes name value ?_⟩
    exact (hvalues name).trans hvalue
  · rintro ⟨defaults, hdefaults, hnames, hwords, hquotes⟩
    have hclasses := (mergedClasses_eq_ok_iff hdefaults).mpr ⟨hnames, hwords, rfl⟩
    refine ⟨_, (mergeAttributes_eq_ok_iff hdefaults rfl).mpr
      ⟨_, hclasses, rfl, fun name value hvalue => hquotes name value ?_⟩⟩
    rw [← hvalue]
    exact (get?_elementAttributes rfl (tokens_mergedClasses hdefaults hclasses)).symm
  · obtain ⟨defaults, hdefaults, -, -, -, hvalues⟩ := mergeAttributes_spec hmerge
    refine ⟨defaults, hdefaults, hvalues, ?_⟩
    rw [hvalues, ← styleOf_eq_empty_iff]
    simp [elementValue?]

/-- A container that has defaults for all that its tag and its setup may give. -/
def noteContainer : Container where
  classes := "card wide"
  attributes := "role=note title=plain class=wide"
  style := "color: red"

def noteSetup : Setup where
  attributes := .ofList [("title", "set"), ("style", "top: 0;")]
  style := ⟨" margin: 0; "⟩

/-- The role comes from the tag, the title from the setup and the class from the defaults. -/
theorem mergeAttributes_precedence_note : ∃ attributes,
    mergeAttributes noteContainer noteSetup (.ofList [("role", "tab")]) "note-0" = .ok attributes ∧
      attributes.get? "role" = some "tab" ∧ attributes.get? "title" = some "set" ∧
      attributes.get? "class" = some "card wide" ∧
      attributes.get? "style" = some "color: red;margin: 0;top: 0;" := by
  have hsome : (mergeAttributes noteContainer noteSetup (.ofList [("role", "tab")])
      "note-0").toOption.isSome = true := by decide +kernel
  have hparsed : AttributeSet.parse noteContainer.attributes =
      .ok (.ofList [("role", "note"), ("title", "plain"), ("class", "wide")]) := by decide +kernel
  cases hmerge : mergeAttributes noteContainer noteSetup (.ofList [("role", "tab")]) "note-0" with
  | error e =>
    rw [hmerge] at hsome
    cases hsome
  | ok attributes =>
    obtain ⟨defaults, hdefaults, hvalues, -⟩ :=
      (mergeAttributes_precedence noteContainer noteSetup (.ofList [("role", "tab")]) "note-0").2
        attributes hmerge
    cases hparsed.symm.trans hdefaults
    refine ⟨attributes, rfl, ?_⟩
    rw [hvalues, hvalues, hvalues, hvalues]
    decide +kernel

end TagWeave
