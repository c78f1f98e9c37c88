import TagWeave.Markup.Tag.Scan
import TagWeave.Proofs.Text.Runs

/-!
# The written form of a tag

A tag is `<`, the reserved characters, the rest of its name, then blanks and attributes up to `/>`.
A `TagForm` is one way to write a tag. The reader accepts the texts of these forms and no others
(`readTag_eq_ok_iff`), and no text has two forms (`TagForm.text_unique`).
-/

namespace TagWeave

open Text (byteSize isAsciiBlank Stops)

/-- A blank or the end of the tag comes next. -/
inductive AtBreak : List Char → Prop
  | blank (h : isAsciiBlank c = true) : AtBreak (c :: rest)
  | close : AtBreak ('/' :: '>' :: rest)

/-- A value that needs no quotes: it begins with none, and holds neither a blank nor `/>`. -/
structure IsUnquoted (value : List Char) : Prop where
  nonempty : value ≠ []
  noQuote : Stops (fun c => c == '"' || c == '\'') value
  noBlank : ∀ c ∈ value, isAsciiBlank c = false
  noClose : ¬ ['/', '>'] <:+: value

/-- A value as it stands behind an equals sign. -/
inductive WrittenValue
  | quoted (quote : Char) (value : String)
  | unquoted (value : String)
  deriving DecidableEq, Repr

namespace WrittenValue

def text : WrittenValue → List Char
  | quoted quote value => quote :: (value.toList ++ [quote])
  | unquoted value => value.toList

def value : WrittenValue → String
  | quoted _ value | unquoted value => value

/-- A quoted value ends at the first quote of its kind. -/
def Valid : WrittenValue → Prop
  | quoted quote value => (quote = '"' ∨ quote = '\'') ∧ quote ∉ value.toList
  | unquoted value => IsUnquoted value.toList

/-- The value ends only where a blank or the end of the tag follows. -/
def Open : WrittenValue → Prop
  | quoted .. => False
  | unquoted _ => True

end WrittenValue

/-- What a tag consists of behind its name. -/
inductive TagPart
  | blank (c : Char)
  /-- A name alone, with the empty value. -/
  | bare (name : String)
  /-- A name and a value, with blanks between the equals sign and the value. -/
  | valued (name : String) (gap : List Char) (value : WrittenValue)
  deriving DecidableEq, Repr

namespace TagPart

def text : TagPart → List Char
  | blank c => [c]
  | bare name => name.toList
  | valued name gap value => name.toList ++ '=' :: (gap ++ value.text)

def attribute? : TagPart → Option (String × String)
  | blank _ => none
  | bare name => some (name, "")
  | valued name _ value => some (name, value.value)

def Valid : TagPart → Prop
  | blank c => isAsciiBlank c = true
  | bare name => isName name = true
  | valued name gap value =>
    isName name = true ∧ (∀ c ∈ gap, isAsciiBlank c = true) ∧ value.Valid

/-- The part ends only where a blank or the end of the tag follows. -/
def Open : TagPart → Prop
  | blank _ => False
  | bare _ => True
  | valued _ _ value => value.Open

end TagPart

namespace TagParts

/-- The parts begin with a blank, or there are none and the tag ends. -/
def BreakFirst : List TagPart → Prop
  | [] | .blank _ :: _ => True
  | _ => False

def WellFormed : List TagPart → Prop
  | [] => True
  | part :: rest => part.Valid ∧ (part.Open → BreakFirst rest) ∧ WellFormed rest

def text (parts : List TagPart) : List Char := parts.flatMap TagPart.text

/-- The text of the parts and the end of the tag. -/
def closed (parts : List TagPart) : List Char := text parts ++ ['/', '>']

end TagParts

/-- A way to write a tag. -/
structure TagForm where
  /-- The name without the reserved characters. -/
  suffix : List Char
  parts : List TagPart
  suffix_ne : suffix ≠ []
  suffix_chars : ∀ c ∈ suffix, isNameChar c = true
  break_first : TagParts.BreakFirst parts
  parts_wf : TagParts.WellFormed parts

namespace TagForm

def text (form : TagForm) (reserved : List Char) : List Char :=
  '<' :: (reserved ++ (form.suffix ++ TagParts.closed form.parts))

/-- The attributes in the order in which they are written. -/
def attributes (form : TagForm) : List (String × String) :=
  form.parts.filterMap TagPart.attribute?

/-- The tag that is written, its `<` at `start`. -/
def tag (form : TagForm) (reserved : List Char) (start : Nat) : Tag where
  name := .ofList (reserved ++ form.suffix)
  attributes := form.attributes
  span := ⟨start, start + byteSize (form.text reserved)⟩

end TagForm

/-! ## Characters -/

theorem isNameChar_of_isNameStart {c : Char} (h : isNameStart c = true) : isNameChar c = true := by
  simp [isNameChar, h]

theorem isAsciiBlank_eq_false_of_isNameChar {c : Char} (h : isNameChar c = true) :
    isAsciiBlank c = false := by
  rw [Bool.eq_false_iff]
  intro hc
  simp only [isAsciiBlank, Bool.or_eq_true, beq_iff_eq] at hc
  obtain (((rfl | rfl) | rfl) | rfl) | rfl := hc <;> revert h <;> decide

theorem isName_iff {name : String} :
    isName name = true ↔ ∃ c rest, name.toList = c :: rest ∧ isNameStart c = true ∧
      ∀ d ∈ c :: rest, isNameChar d = true := by
  unfold isName
  split
  · simp_all
  · rename_i c rest heq
    simp only [Bool.and_eq_true, List.all_eq_true]
    constructor
    · rintro ⟨hc, hrest⟩
      exact ⟨c, rest, heq, hc, List.forall_mem_cons.mpr ⟨isNameChar_of_isNameStart hc, hrest⟩⟩
    · rintro ⟨_, _, h, hc, hrest⟩
      cases heq.symm.trans h
      exact ⟨hc, (List.forall_mem_cons.mp hrest).2⟩

theorem not_mem_of_isName {name : String} {c : Char} (h : isName name = true)
    (hc : isNameChar c = false) : c ∉ name.toList := by
  obtain ⟨_, _, htext, -, hchars⟩ := isName_iff.mp h
  rw [htext]
  intro hmem
  exact Bool.eq_false_iff.mp hc (hchars c hmem)

theorem AtBreak.stops_isNameChar (h : AtBreak text) : Stops isNameChar text := by
  cases h with
  | blank hc =>
    rw [Text.stops_cons, Bool.eq_false_iff]
    intro hname
    rw [isAsciiBlank_eq_false_of_isNameChar hname] at hc
    exact absurd hc Bool.false_ne_true
  | close => exact Text.stops_cons.mpr (by decide)

theorem AtBreak.ne_nil (h : AtBreak text) : text ≠ [] := by cases h <;> exact List.cons_ne_nil _ _

theorem not_atBreak_equals : ¬ AtBreak ('=' :: rest) := by
  rintro (h | _)
  exact absurd h (by decide)

/-! ## A text has one form at most -/

/-- The first value that needs no quotes is cut off at the break behind it, or at the end. -/
theorem cutBareValue_append {value rest : List Char} (hblank : ∀ c ∈ value, isAsciiBlank c = false)
    (hclose : ¬ ['/', '>'] <:+: value) (hrest : rest = [] ∨ AtBreak rest) :
    cutBareValue (value ++ rest) = (value, rest) := by
  induction value with
  | nil =>
    rcases hrest with rfl | hbreak
    · rfl
    cases hbreak with
    | close => rfl
    | blank hc =>
      rw [List.nil_append, cutBareValue, if_pos hc]
      rintro _ rfl
      exact absurd hc (by decide)
  | cons c value ih =>
    obtain ⟨hc, hvalue⟩ := List.forall_mem_cons.mp hblank
    rw [List.cons_append, cutBareValue, if_neg (Bool.eq_false_iff.mp hc),
      ih hvalue fun h => hclose (h.trans (List.suffix_cons c value).isInfix)]
    -- A slash at the end of the value is not followed by `>`, since a break follows.
    rintro tail rfl heq
    cases value with
    | nil =>
      rcases hrest with rfl | hbreak
      · cases heq
      cases hbreak with
      | blank h =>
        cases heq
        exact absurd h (by decide)
      | close => exact absurd heq (by simp)
    | cons d value =>
      cases heq
      exact hclose (List.prefix_append ['/', '>'] value).isInfix

theorem IsUnquoted.cut {value rest : List Char} (h : IsUnquoted value) (hrest : AtBreak rest) :
    cutBareValue (value ++ rest) = (value, rest) :=
  cutBareValue_append h.noBlank h.noClose (.inr hrest)

theorem WrittenValue.text_unique {v v' : WrittenValue} {rest rest' : List Char}
    (h : v.text ++ rest = v'.text ++ rest') (hv : v.Valid) (hv' : v'.Valid)
    (hrest : v.Open → AtBreak rest) (hrest' : v'.Open → AtBreak rest') :
    v = v' ∧ rest = rest' := by
  -- A value without quotes does not begin with one.
  have hmixed {quote value value' more more'} (hq : quote = '"' ∨ quote = '\'')
      (hu : IsUnquoted value') (heq : quote :: (value ++ more) = value' ++ more') : False := by
    obtain ⟨c, tail, rfl⟩ := List.exists_cons_of_ne_nil hu.nonempty
    obtain ⟨rfl, -⟩ := List.cons.inj heq
    have := Text.stops_cons.mp hu.noQuote
    rcases hq with rfl | rfl <;> exact absurd this (by decide)
  cases v with
  | quoted quote value =>
    cases v' with
    | quoted quote' value' =>
      simp only [text, List.cons_append, List.append_assoc, List.nil_append, List.cons.injEq] at h
      obtain ⟨rfl, h⟩ := h
      have hclass {value : String} (hmem : quote ∉ value.toList) :
          ∀ c ∈ value.toList, (c != quote) = true := fun c hc =>
        bne_iff_ne.mpr fun heq => hmem (heq ▸ hc)
      have hstop (rest : List Char) : Stops (fun c => c != quote) (quote :: rest) := by simp
      obtain ⟨hvalue, hrest⟩ :=
        Text.run_unique h (hclass hv.2) (hstop rest) (hclass hv'.2) (hstop rest')
      cases String.toList_inj.mp hvalue
      cases hrest
      exact ⟨rfl, rfl⟩
    | unquoted value' =>
      simp only [text, List.cons_append, List.append_assoc] at h
      exact (hmixed hv.1 hv' h).elim
  | unquoted value =>
    cases v' with
    | quoted quote' value' =>
      simp only [text, List.cons_append, List.append_assoc] at h
      exact (hmixed hv'.1 hv h.symm).elim
    | unquoted value' =>
      have hcut := IsUnquoted.cut hv (hrest trivial)
      rw [show value.toList ++ rest = value'.toList ++ rest' from h,
        IsUnquoted.cut hv' (hrest' trivial)] at hcut
      obtain ⟨hvalue, rfl⟩ := Prod.mk.inj hcut
      cases String.toList_inj.mp hvalue
      exact ⟨rfl, rfl⟩

theorem WrittenValue.Valid.stops {v : WrittenValue} (h : v.Valid) (rest : List Char) :
    Stops isAsciiBlank (v.text ++ rest) := by
  cases v with
  | quoted quote value =>
    refine Text.stops_cons.mpr ?_
    rcases h.1 with rfl | rfl <;> decide
  | unquoted value =>
    obtain ⟨c, tail, heq⟩ := List.exists_cons_of_ne_nil h.nonempty
    rw [text, heq, List.cons_append, Text.stops_cons]
    exact h.noBlank c (heq ▸ List.mem_cons_self)

/-- A part that is no blank begins with a name. -/
inductive TagPart.Named : TagPart → String → List Char → Prop
  | bare : Named (.bare name) name []
  | valued : Named (.valued name gap value) name ('=' :: (gap ++ value.text))

theorem TagPart.Named.text_eq (h : Named part name tail) : part.text = name.toList ++ tail := by
  cases h with
  | bare => exact (List.append_nil _).symm
  | valued => rfl

theorem TagPart.Named.isName (h : Named part name tail) (hpart : part.Valid) :
    isName name = true := by
  cases h with
  | bare => exact hpart
  | valued => exact hpart.1

/-- What follows the name of a part is no character of a name. -/
theorem TagPart.Named.stops (h : Named part name tail) (hrest : part.Open → AtBreak rest) :
    Stops isNameChar (tail ++ rest) := by
  cases h with
  | bare => exact (hrest trivial).stops_isNameChar
  | valued => exact Text.stops_cons.mpr (by decide)

theorem TagPart.blank_or_named (part : TagPart) :
    (∃ c, part = .blank c) ∨ ∃ name tail, part.Named name tail := by
  cases part with
  | blank c => exact .inl ⟨c, rfl⟩
  | bare name => exact .inr ⟨_, _, .bare⟩
  | valued name gap value => exact .inr ⟨_, _, .valued⟩

/-- A part that is no blank does not begin with a break. -/
theorem TagPart.Named.not_atBreak (h : Named part name tail) (hpart : part.Valid) :
    ¬ AtBreak (part.text ++ rest) := by
  obtain ⟨c, cs, hname, hc, -⟩ := isName_iff.mp (h.isName hpart)
  rw [h.text_eq, hname]
  intro hbreak
  have := Text.stops_cons.mp hbreak.stops_isNameChar
  rw [isNameChar_of_isNameStart hc] at this
  exact absurd this Bool.false_ne_true.symm

theorem TagPart.text_unique {part part' : TagPart} {rest rest' : List Char}
    (h : part.text ++ rest = part'.text ++ rest') (hpart : part.Valid) (hpart' : part'.Valid)
    (hrest : part.Open → AtBreak rest) (hrest' : part'.Open → AtBreak rest') :
    part = part' ∧ rest = rest' := by
  rcases part.blank_or_named with ⟨c, rfl⟩ | ⟨name, tail, hn⟩ <;>
    rcases part'.blank_or_named with ⟨c', rfl⟩ | ⟨name', tail', hn'⟩
  · cases h
    exact ⟨rfl, rfl⟩
  · exact absurd (.blank hpart) (h ▸ hn'.not_atBreak hpart')
  · exact absurd (.blank hpart') (h ▸ hn.not_atBreak hpart)
  obtain ⟨_, _, hchars, -, hname⟩ := isName_iff.mp (hn.isName hpart)
  obtain ⟨_, _, hchars', -, hname'⟩ := isName_iff.mp (hn'.isName hpart')
  rw [hn.text_eq, hn'.text_eq, List.append_assoc, List.append_assoc] at h
  obtain ⟨heq, htail⟩ := Text.run_unique h (hchars ▸ hname) (hn.stops hrest) (hchars' ▸ hname')
    (hn'.stops hrest')
  cases String.toList_inj.mp heq
  cases hn with
  | bare =>
    cases hn' with
    | bare => exact ⟨rfl, htail⟩
    | valued =>
      have hbreak : AtBreak ([] ++ rest) := hrest trivial
      exact absurd (htail ▸ hbreak) not_atBreak_equals
  | valued =>
    cases hn' with
    | bare =>
      have hbreak : AtBreak ([] ++ rest') := hrest' trivial
      exact absurd (htail ▸ hbreak) not_atBreak_equals
    | valued =>
      simp only [List.cons_append, List.append_assoc, List.cons.injEq, true_and] at htail
      obtain ⟨rfl, hvalue⟩ := Text.run_unique htail hpart.2.1 (hpart.2.2.stops rest) hpart'.2.1
        (hpart'.2.2.stops rest')
      obtain ⟨rfl, rfl⟩ := WrittenValue.text_unique hvalue hpart.2.2 hpart'.2.2 hrest hrest'
      exact ⟨rfl, rfl⟩

theorem TagPart.text_ne_close {part : TagPart} (hpart : part.Valid) (rest more : List Char) :
    part.text ++ rest ≠ '/' :: '>' :: more := by
  rcases part.blank_or_named with ⟨c, rfl⟩ | ⟨name, tail, hn⟩
  · intro h
    cases h
    exact absurd (show isAsciiBlank '/' = true from hpart) (by decide)
  · intro h
    have hbreak : AtBreak ('/' :: '>' :: more) := .close
    exact hn.not_atBreak hpart (h ▸ hbreak)

namespace TagParts
variable {part : TagPart} {parts parts' : List TagPart} {rest rest' : List Char}

theorem text_cons : text (part :: parts) = part.text ++ text parts := List.flatMap_cons

/-- Blanks in front of other parts. -/
theorem text_blanks {gap : List Char} :
    text (gap.map TagPart.blank ++ parts) = gap ++ text parts := by
  induction gap with
  | nil => rfl
  | cons c gap ih =>
    rw [List.map_cons, List.cons_append, text_cons, ih]
    rfl

@[simp] theorem closed_nil : closed [] = ['/', '>'] := rfl

@[simp] theorem closed_cons : closed (part :: parts) = part.text ++ closed parts := by
  rw [closed, closed, text_cons, List.append_assoc]

theorem closed_blanks {gap : List Char} :
    closed (gap.map TagPart.blank ++ parts) = gap ++ closed parts := by
  rw [closed, closed, text_blanks, List.append_assoc]

theorem attributes_blanks {gap : List Char} :
    (gap.map TagPart.blank ++ parts).filterMap TagPart.attribute? =
      parts.filterMap TagPart.attribute? := by
  induction gap with
  | nil => rfl
  | cons c gap ih => exact ih

theorem wellFormed_blanks {gap : List Char} (hgap : ∀ c ∈ gap, isAsciiBlank c = true)
    (hparts : WellFormed parts) : WellFormed (gap.map TagPart.blank ++ parts) := by
  induction gap with
  | nil => exact hparts
  | cons c gap ih =>
    obtain ⟨hc, hgap⟩ := List.forall_mem_cons.mp hgap
    exact ⟨hc, False.elim, ih hgap⟩

theorem atBreak_closed (hparts : WellFormed parts) (h : BreakFirst parts) :
    AtBreak (closed parts ++ rest) := by
  match parts with
  | [] => exact .close
  | .blank _ :: _ => exact .blank hparts.1

theorem breakFirst_of_atBreak (hparts : WellFormed parts) (h : AtBreak (closed parts ++ rest)) :
    BreakFirst parts := by
  cases parts with
  | nil => trivial
  | cons part parts =>
    rw [closed_cons, List.append_assoc] at h
    rcases part.blank_or_named with ⟨c, rfl⟩ | ⟨name, tail, hn⟩
    · trivial
    · exact absurd h (hn.not_atBreak hparts.1)

theorem closed_unique (h : closed parts ++ rest = closed parts' ++ rest')
    (hparts : WellFormed parts) (hparts' : WellFormed parts') : parts = parts' ∧ rest = rest' := by
  induction parts generalizing parts' with
  | nil =>
    cases parts' with
    | nil => exact ⟨rfl, by simpa using h⟩
    | cons part parts' =>
      rw [closed_cons, List.append_assoc] at h
      exact absurd h.symm (part.text_ne_close hparts'.1 _ _)
  | cons part parts ih =>
    rw [closed_cons, List.append_assoc] at h
    cases parts' with
    | nil => exact absurd h (part.text_ne_close hparts.1 _ _)
    | cons part' parts' =>
      rw [closed_cons, List.append_assoc] at h
      obtain ⟨rfl, htail⟩ := TagPart.text_unique h hparts.1 hparts'.1
        (fun ho => atBreak_closed hparts.2.2 (hparts.2.1 ho))
        (fun ho => atBreak_closed hparts'.2.2 (hparts'.2.1 ho))
      obtain ⟨rfl, rfl⟩ := ih htail hparts.2.2 hparts'.2.2
      exact ⟨rfl, rfl⟩

end TagParts

namespace TagForm
variable {form form' : TagForm} {reserved rest rest' : List Char}

theorem atBreak_parts (form : TagForm) (rest : List Char) :
    AtBreak (TagParts.closed form.parts ++ rest) :=
  TagParts.atBreak_closed form.parts_wf form.break_first

/-- A text begins with one tag at most, and that is written in one way. -/
theorem text_unique (h : form.text reserved ++ rest = form'.text reserved ++ rest') :
    form = form' ∧ rest = rest' := by
  simp only [text, List.cons_append, List.append_assoc, List.cons.injEq, true_and,
    List.append_cancel_left_eq] at h
  obtain ⟨hsuffix, h⟩ := Text.run_unique h form.suffix_chars
    (form.atBreak_parts rest).stops_isNameChar form'.suffix_chars
    (form'.atBreak_parts rest').stops_isNameChar
  obtain ⟨hparts, rfl⟩ := TagParts.closed_unique h form.parts_wf form'.parts_wf
  cases form
  cases form'
  cases hsuffix
  cases hparts
  exact ⟨rfl, rfl⟩

end TagForm

end TagWeave
