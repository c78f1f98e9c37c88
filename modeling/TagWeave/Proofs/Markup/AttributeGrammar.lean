import TagWeave.Markup.Attributes.Reader
import TagWeave.Proofs.Dictionary
import TagWeave.Proofs.Markup.TagForm
import TagWeave.Proofs.Text.Words

/-!
# The grammar of attribute texts

A text of attributes consists of names, some with a value, and of blanks between them
(`AttributePart`). The reader cuts a text at its equals signs instead; it accepts exactly the texts
of the grammar, and the last value written for a name is the one that is kept
(`AttributeSet.attributes_read_iff_written`). For both directions the text in front of the next
equals sign is the state: written parts are read with the names in front of them pending
(`readOnto_parts`), and what has been read is taken apart from its last word backwards
(`exists_parts_of_names`, `exists_parts_of_readOnto`).
-/

namespace TagWeave

open Text (isBlank AtWordStart Stops)

/-- What a text of attributes consists of. -/
inductive AttributePart
  | blank (c : Char)
  /-- A name alone, with the empty value. -/
  | bare (name : String)
  /-- A name and a value, with blanks on both sides of the equals sign. -/
  | valued (name : String) (before behind : List Char) (value : WrittenValue)
  deriving DecidableEq, Repr

/-- A name that is one word. -/
structure IsNameWord (name : String) : Prop where
  isName : isName name = true
  noBlank : ∀ c ∈ name.toList, isBlank c = false

namespace WrittenValue

/-- A quoted value ends at the first quote of its kind. Any other value is a word that does not
begin with a quote, or it is empty. -/
def InText : WrittenValue → Prop
  | quoted quote value => (quote = '"' ∨ quote = '\'') ∧ quote ∉ value.toList
  | unquoted value =>
    Stops (fun c => c == '"' || c == '\'') value.toList ∧ ∀ c ∈ value.toList, isBlank c = false

/-- The text goes on behind the value with `rest`: behind quotes with anything, else with a blank or
not at all, and behind an empty value not at all. -/
def EndsAt (rest : List Char) : WrittenValue → Prop
  | quoted .. => True
  | unquoted value => Stops (fun c => !isBlank c) rest ∧ (value = "" → rest = [])

end WrittenValue

namespace AttributePart

def text : AttributePart → List Char
  | blank c => [c]
  | bare name => name.toList
  | valued name before behind value => name.toList ++ (before ++ '=' :: (behind ++ value.text))

def entry? : AttributePart → Option (String × String)
  | blank _ => none
  | bare name => some (name, "")
  | valued name _ _ value => some (name, value.value)

def Valid : AttributePart → Prop
  | blank c => isBlank c = true
  | bare name => IsNameWord name
  | valued name before behind value =>
    IsNameWord name ∧ (∀ c ∈ before, isBlank c = true) ∧ (∀ c ∈ behind, isBlank c = true) ∧
      value.InText ∧ AttributeSet.hasBothQuotes value.value = false

end AttributePart

namespace AttributeParts

/-- The parts begin with a blank, or there are none. -/
def BlankFirst : List AttributePart → Prop
  | [] | .blank _ :: _ => True
  | _ => False

/-- What may stand behind a part. Only a quoted value needs no blank behind it, and only at the end
of a text may a value without quotes be empty. -/
def MayFollow (rest : List AttributePart) : AttributePart → Prop
  | .blank _ | .valued _ _ _ (.quoted ..) => True
  | .bare _ => BlankFirst rest
  | .valued _ _ _ (.unquoted value) => if value = "" then rest = [] else BlankFirst rest

def WellFormed : List AttributePart → Prop
  | [] => True
  | part :: rest => part.Valid ∧ MayFollow rest part ∧ WellFormed rest

def text (parts : List AttributePart) : List Char := parts.flatMap AttributePart.text

/-- The attributes in the order in which they are written. -/
def entries (parts : List AttributePart) : List (String × String) :=
  parts.filterMap AttributePart.entry?

end AttributeParts

/-! ## Parts and their text -/

theorem IsNameWord.exists_cons (h : IsNameWord name) :
    ∃ c rest, name.toList = c :: rest ∧ isBlank c = false := by
  obtain ⟨c, rest, htext, -⟩ := isName_iff.mp h.isName
  exact ⟨c, rest, htext, h.noBlank c (htext ▸ List.mem_cons_self)⟩

theorem IsNameWord.ne_nil (h : IsNameWord name) : name.toList ≠ [] := by
  obtain ⟨c, rest, htext, -⟩ := h.exists_cons
  exact htext ▸ List.cons_ne_nil c rest

/-- A name is no place where a word ends. -/
theorem IsNameWord.not_stops (h : IsNameWord name) :
    ¬ Stops (fun c => !isBlank c) (name.toList ++ tail) := by
  obtain ⟨c, rest, htext, hc⟩ := h.exists_cons
  rw [htext, List.cons_append, Text.stops_cons, hc]
  exact Bool.false_ne_true.symm

theorem equals_not_mem_gap {gap : List Char} (h : ∀ c ∈ gap, isBlank c = true) : '=' ∉ gap :=
  fun hmem => absurd (h _ hmem) (by decide)

theorem IsNameWord.equals_not_mem (h : IsNameWord name) : '=' ∉ name.toList :=
  not_mem_of_isName h.isName (by decide)

namespace AttributeParts
variable {part : AttributePart} {parts : List AttributePart} {gap : List Char}

@[simp] theorem text_nil : text [] = [] := rfl

@[simp] theorem text_cons : text (part :: parts) = part.text ++ text parts := List.flatMap_cons

theorem text_gap : text (gap.map .blank ++ parts) = gap ++ text parts := by
  induction gap with
  | nil => rfl
  | cons c gap ih =>
    rw [List.map_cons, List.cons_append, text_cons, ih]
    rfl

theorem entries_gap : entries (gap.map .blank ++ parts) = entries parts := by
  induction gap with
  | nil => rfl
  | cons c gap ih => exact ih

theorem wellFormed_gap (hgap : ∀ c ∈ gap, isBlank c = true) (hparts : WellFormed parts) :
    WellFormed (gap.map .blank ++ parts) := by
  induction gap with
  | nil => exact hparts
  | cons c gap ih =>
    obtain ⟨hc, hgap⟩ := List.forall_mem_cons.mp hgap
    exact ⟨hc, trivial, ih hgap⟩

/-- A part that is no blank begins with a name. -/
theorem blankFirst_iff (hparts : WellFormed parts) :
    BlankFirst parts ↔ Stops (fun c => !isBlank c) (text parts) := by
  cases parts with
  | nil => exact iff_of_true trivial Text.stops_nil
  | cons part parts =>
    rw [text_cons]
    obtain ⟨hpart, -⟩ := hparts
    cases part with
    | blank c =>
      refine iff_of_true trivial (Text.stops_cons.mpr ?_)
      rw [show isBlank c = true from hpart]
      rfl
    | bare name => exact iff_of_false id hpart.not_stops
    | valued name before behind value =>
      rw [AttributePart.text, List.append_assoc]
      exact iff_of_false id hpart.1.not_stops

theorem text_eq_nil_iff (hparts : WellFormed parts) : text parts = [] ↔ parts = [] := by
  refine ⟨fun h => ?_, fun h => h ▸ rfl⟩
  cases parts with
  | nil => rfl
  | cons part parts =>
    obtain ⟨hpart, -⟩ := hparts
    have hempty : part.text = [] := (List.append_eq_nil_iff.mp (text_cons.symm.trans h)).1
    cases part with
    | blank c => cases hempty
    | bare name => exact absurd hempty hpart.ne_nil
    | valued name before behind value =>
      exact absurd (List.append_eq_nil_iff.mp hempty).1 hpart.1.ne_nil

/-- In terms of the text, what may stand behind a value. -/
theorem mayFollow_valued_iff {name : String} {before behind : List Char} {value : WrittenValue}
    (hparts : WellFormed parts) :
    MayFollow parts (.valued name before behind value) ↔ value.EndsAt (text parts) := by
  cases value with
  | quoted => exact Iff.rfl
  | unquoted value =>
    rw [MayFollow, WrittenValue.EndsAt, ← blankFirst_iff hparts, text_eq_nil_iff hparts]
    split
    · rename_i hempty
      refine ⟨fun h => ⟨h ▸ trivial, fun _ => h⟩, fun h => h.2 hempty⟩
    · rename_i hne
      exact ⟨fun h => ⟨h, fun hempty => absurd hempty hne⟩, And.left⟩

end AttributeParts

namespace AttributeSet

variable {whole name value : String} {attributes result : AttributeSet} {names : List String}
  {front after rest : List Char} {parts : List AttributePart}

/-! ## Rounds of reading -/

/-- The set with names added that have no value. -/
def withNames (attributes : AttributeSet) (names : List String) : AttributeSet :=
  names.foldl (fun attributes name => attributes.insert name "") attributes

theorem withNames_concat :
    withNames attributes (names ++ [name]) = (withNames attributes names).insert name "" := by
  rw [withNames, List.foldl_append]
  rfl

theorem addNames_eq_ok_iff : addNames attributes names = .ok result ↔
    (∀ name ∈ names, isName name = true) ∧ result = withNames attributes names := by
  induction names generalizing attributes with
  | nil =>
    rw [addNames, List.foldlM_nil]
    constructor
    · rintro ⟨⟩
      exact ⟨List.forall_mem_nil _, rfl⟩
    · rintro ⟨-, rfl⟩
      rfl
  | cons name names ih =>
    unfold addNames at ih ⊢
    rw [List.foldlM_cons]
    by_cases hname : isName name = true
    · rw [if_pos hname, List.forall_mem_cons, and_assoc, and_iff_right hname]
      exact ih
    · rw [if_neg hname]
      constructor
      · rintro ⟨⟩
      · rintro ⟨hnames, -⟩
        exact absurd (hnames name List.mem_cons_self) hname

/-- The words of a text that holds no values. -/
def namesIn (text : List Char) : List String := (Text.words text).map String.ofList

/-- One round of reading. It is the last one, or it ends behind a value with the rest of the
text. -/
def round (whole : String) (attributes : AttributeSet) (text : List Char) :
    Except AttributeError AttributeSet ⊕ AttributeSet × List Char :=
  match addNames attributes (namesIn (text.takeWhile (· != '='))) with
  | .error e => .inl (.error e)
  | .ok named =>
    match text.dropWhile (· != '=') with
    | [] => .inl (.ok named)
    | _ :: after =>
      match (namesIn (text.takeWhile (· != '='))).getLast? with
      | none => .inl (.error (.missingName whole))
      | some name =>
        match readValue? after with
        | none => .inl (.error (.unterminatedQuote name))
        | some (value, rest) =>
          if hasBothQuotes value then .inl (.error (.ambiguousQuotes name value))
          else .inr (named.insert name value, rest)

theorem readOnto_eq {text : List Char} : readOnto whole attributes text =
    match round whole attributes text with
    | .inl outcome => outcome
    | .inr (attributes, rest) => readOnto whole attributes rest := by
  rw [readOnto, round, ← namesIn]
  cases addNames attributes (namesIn (text.takeWhile (· != '='))) with
  | error e => rfl
  | ok named =>
    dsimp only
    -- The two matches below carry the proof that the rest is shorter, so they are split by hand.
    split
    · rename_i htext
      rw [htext]
    · rename_i htext
      rw [htext]
      dsimp only
      cases (namesIn (text.takeWhile (· != '='))).getLast? with
      | none => rfl
      | some name =>
        dsimp only
        split
        · rename_i hvalue
          rw [hvalue]
        · rename_i hvalue
          rw [hvalue]
          dsimp only
          split <;> rfl

/-- The text around its first equals sign. -/
theorem split_equals {text : List Char} {c : Char} (h : text.dropWhile (· != '=') = c :: after) :
    text = text.takeWhile (· != '=') ++ '=' :: after := by
  have hstop : Stops (· != '=') (text.dropWhile (· != '=')) := Text.stops_dropWhile
  rw [h] at hstop
  obtain rfl : c = '=' := by simpa using hstop
  rw [← h, List.takeWhile_append_dropWhile]

section
variable (hfront : '=' ∉ front)
include hfront

theorem ne_equals_of_mem : ∀ c ∈ front, (c != '=') = true := fun _ hc =>
  bne_iff_ne.mpr fun heq => hfront (heq ▸ hc)

/-- Without an equals sign there are only names. -/
theorem readOnto_names : readOnto whole attributes front = addNames attributes (namesIn front) := by
  have htake := Text.takeWhile_run (ne_equals_of_mem hfront) Text.stops_nil
  have hdrop := Text.dropWhile_run (ne_equals_of_mem hfront) Text.stops_nil
  rw [List.append_nil] at htake hdrop
  rw [readOnto_eq, round, htake, hdrop]
  cases addNames attributes (namesIn front) <;> rfl

theorem readOnto_value (hnames : addNames attributes (namesIn front) = .ok result)
    (hlast : (namesIn front).getLast? = some name) (hvalue : readValue? after = some (value, rest))
    (hquotes : hasBothQuotes value = false) : readOnto whole attributes (front ++ '=' :: after) =
      readOnto whole (result.insert name value) rest := by
  have hstop : Stops (· != '=') ('=' :: after) := by simp
  have htake := Text.takeWhile_run (ne_equals_of_mem hfront) hstop
  have hdrop := Text.dropWhile_run (ne_equals_of_mem hfront) hstop
  rw [readOnto_eq, round, htake, hdrop, hnames]
  dsimp only
  rw [hlast]
  dsimp only
  rw [hvalue]
  dsimp only
  rw [if_neg (Bool.eq_false_iff.mp hquotes)]

end

/-! ## A value -/

theorem readValue?_gap {gap : List Char} (hgap : ∀ c ∈ gap, isBlank c = true) :
    readValue? (gap ++ rest) = readValue? rest := by
  unfold readValue?
  rw [List.dropWhile_append_of_pos hgap]

theorem readValue?_text {v : WrittenValue} (hv : v.InText) (hend : v.EndsAt rest) :
    readValue? (v.text ++ rest) = some (v.value, rest) := by
  cases v with
  | quoted quote value =>
    have hstop : Stops isBlank (quote :: (value.toList ++ quote :: rest)) := by
      rcases hv.1 with rfl | rfl <;> exact Text.stops_cons.mpr (by decide)
    have hchars : ∀ c ∈ value.toList, (c != quote) = true := fun c hc =>
      bne_iff_ne.mpr fun heq => hv.2 (heq ▸ hc)
    have hquoteEnd : Stops (· != quote) (quote :: rest) := by simp
    have hquote : (quote == '"' || quote == '\'') = true := by simpa using hv.1
    have htext : WrittenValue.text (.quoted quote value) ++ rest =
        quote :: (value.toList ++ quote :: rest) := by simp [WrittenValue.text]
    unfold readValue?
    rw [htext, Text.dropWhile_of_stops hstop]
    dsimp only
    rw [if_pos hquote, Text.dropWhile_run hchars hquoteEnd, Text.takeWhile_run hchars hquoteEnd,
      String.ofList_toList]
    rfl
  | unquoted word =>
    obtain ⟨hnoQuote, hnoBlank⟩ := hv
    obtain ⟨hrest, hempty⟩ := hend
    have hchars : ∀ c ∈ word.toList, (!isBlank c) = true := fun c hc => by
      rw [hnoBlank c hc]
      rfl
    rw [WrittenValue.text, WrittenValue.value]
    cases heq : word.toList with
    | nil =>
      have hword : word = "" := String.toList_eq_nil_iff.mp heq
      rw [hempty hword, hword]
      rfl
    | cons c tail =>
      have hquote : (c == '"' || c == '\'') = false := Text.stops_cons.mp (heq ▸ hnoQuote)
      have hstop : Stops isBlank (c :: (tail ++ rest)) :=
        Text.stops_cons.mpr (hnoBlank c (heq ▸ List.mem_cons_self))
      have htake := Text.takeWhile_run hchars hrest
      have hdrop := Text.dropWhile_run hchars hrest
      have hword : String.ofList (c :: tail) = word := by rw [← heq, String.ofList_toList]
      rw [heq, List.cons_append] at htake hdrop
      unfold readValue?
      rw [List.cons_append, Text.dropWhile_of_stops hstop]
      dsimp only
      rw [hquote, if_neg Bool.false_ne_true, htake, hdrop, hword]

theorem exists_value_of_readValue? {text : List Char} (h : readValue? text = some (value, rest)) :
    ∃ gap, ∃ v : WrittenValue, text = gap ++ (v.text ++ rest) ∧ (∀ c ∈ gap, isBlank c = true) ∧
      v.InText ∧ v.EndsAt rest ∧ v.value = value := by
  refine ⟨text.takeWhile isBlank, ?_⟩
  have htext := (List.takeWhile_append_dropWhile (p := isBlank) (l := text)).symm
  have hgap : ∀ c ∈ text.takeWhile isBlank, isBlank c = true := fun _ => List.mem_takeWhile_imp
  have hstop : Stops isBlank (text.dropWhile isBlank) := Text.stops_dropWhile
  unfold readValue? at h
  split at h
  · rename_i hdrop
    cases h
    rw [hdrop] at htext
    exact ⟨.unquoted "", htext, hgap, ⟨Text.stops_nil, List.forall_mem_nil _⟩,
      ⟨Text.stops_nil, fun _ => rfl⟩, rfl⟩
  rename_i c tail hdrop
  rw [hdrop] at htext hstop
  split at h
  · rename_i hquote
    have htail := (List.takeWhile_append_dropWhile (p := (· != c)) (l := tail)).symm
    have hend : Stops (· != c) (tail.dropWhile (· != c)) := Text.stops_dropWhile
    split at h
    · cases h
    rename_i d after hafter
    cases h
    rw [hafter] at htail hend
    obtain rfl : d = c := by simpa using hend
    refine ⟨.quoted d (.ofList (tail.takeWhile (· != d))), ?_, hgap, ⟨?_, ?_⟩, trivial, rfl⟩
    · rw [WrittenValue.text, String.toList_ofList, List.cons_append, List.append_assoc,
        List.singleton_append, ← htail]
      exact htext
    · simpa using hquote
    · rw [String.toList_ofList]
      exact fun hmem => absurd (List.mem_takeWhile_imp hmem) (by simp)
  · rename_i hquote
    cases h
    have hword : (c :: tail).takeWhile (!isBlank ·) ≠ [] := by
      simp [Text.stops_cons.mp hstop]
    refine ⟨.unquoted (.ofList ((c :: tail).takeWhile (!isBlank ·))), ?_, hgap, ⟨?_, ?_⟩,
      ⟨Text.stops_dropWhile, fun hempty => absurd ?_ hword⟩, rfl⟩
    · rw [WrittenValue.text, String.toList_ofList, List.takeWhile_append_dropWhile]
      exact htext
    · rw [String.toList_ofList]
      exact Text.stops_of_initial (Text.stops_cons.mpr (Bool.eq_false_iff.mpr hquote))
        (List.takeWhile_prefix _)
    · rw [String.toList_ofList]
      exact fun c hc => by simpa using List.mem_takeWhile_imp hc
    · simpa using congrArg String.toList hempty

/-! ## Written parts are read -/

theorem namesIn_word (hfront : AtWordStart front) (hname : IsNameWord name) :
    namesIn (front ++ name.toList) = namesIn front ++ [name] := by
  rw [namesIn, Text.words_append_word hfront hname.ne_nil hname.noBlank, List.map_append,
    List.map_singleton, String.ofList_toList]
  rfl

theorem namesIn_gap {gap : List Char} (hgap : ∀ c ∈ gap, isBlank c = true) :
    namesIn (front ++ gap) = namesIn front :=
  congrArg (List.map String.ofList) (Text.words_append_gap hgap)

/-- Behind names come written parts: the names are added without values, the attributes of the parts
with theirs. -/
theorem readOnto_parts (hparts : AttributeParts.WellFormed parts) (hfront : '=' ∉ front)
    (hnames : ∀ name ∈ namesIn front, isName name = true)
    (hseam : AtWordStart front ∨ AttributeParts.BlankFirst parts) :
    readOnto whole attributes (front ++ AttributeParts.text parts) =
      .ok ((AttributeParts.entries parts).foldl
        (fun attributes (name, value) => attributes.insert name value)
        (withNames attributes (namesIn front))) := by
  induction parts generalizing attributes front with
  | nil =>
    rw [AttributeParts.text_nil, List.append_nil, readOnto_names hfront]
    exact addNames_eq_ok_iff.mpr ⟨hnames, rfl⟩
  | cons part parts ih =>
    obtain ⟨hpart, hfollow, hparts⟩ := hparts
    rw [AttributeParts.text_cons, ← List.append_assoc]
    cases part with
    | blank c =>
      have hgap : ∀ d ∈ [c], isBlank d = true := List.forall_mem_singleton.mpr hpart
      have hsame : namesIn (front ++ [c]) = namesIn front := namesIn_gap hgap
      have hnext : '=' ∉ front ++ [c] :=
        List.not_mem_append hfront (equals_not_mem_gap hgap)
      have hstart : AtWordStart (front ++ [c]) := by
        intro d hd
        rw [List.getLast?_concat] at hd
        cases hd
        exact hpart
      rw [AttributePart.text, ih hparts hnext (hsame ▸ hnames) (.inl hstart), hsame]
      rfl
    | bare name =>
      -- The name joins those in front.
      have hword := namesIn_word (hseam.resolve_right id) hpart
      have hnext : '=' ∉ front ++ name.toList := List.not_mem_append hfront hpart.equals_not_mem
      have hnextNames : ∀ each ∈ namesIn (front ++ name.toList), isName each = true := by
        rw [hword]
        exact List.forall_mem_append.mpr ⟨hnames, List.forall_mem_singleton.mpr hpart.isName⟩
      rw [AttributePart.text, ih hparts hnext hnextNames (.inr hfollow), hword, withNames_concat]
      rfl
    | valued name before behind v =>
      -- The last name takes the value, and the next round begins behind that.
      obtain ⟨hname, hbefore, hbehind, hv, hquotes⟩ := hpart
      have hword : namesIn (front ++ name.toList ++ before) = namesIn front ++ [name] :=
        (namesIn_gap hbefore).trans (namesIn_word (hseam.resolve_right id) hname)
      have hnext : '=' ∉ front ++ name.toList ++ before :=
        List.not_mem_append (List.not_mem_append hfront hname.equals_not_mem)
          (equals_not_mem_gap hbefore)
      have hnextNames : ∀ each ∈ namesIn (front ++ name.toList ++ before), isName each = true := by
        rw [hword]
        exact List.forall_mem_append.mpr ⟨hnames, List.forall_mem_singleton.mpr hname.isName⟩
      have hlast : (namesIn (front ++ name.toList ++ before)).getLast? = some name := by
        rw [hword, List.getLast?_concat]
      have hvalue : readValue? (behind ++ (v.text ++ AttributeParts.text parts)) =
          some (v.value, [] ++ AttributeParts.text parts) := by
        rw [readValue?_gap hbehind]
        exact readValue?_text hv ((AttributeParts.mayFollow_valued_iff hparts).mp hfollow)
      have htext : front ++ AttributePart.text (.valued name before behind v) ++
          AttributeParts.text parts = front ++ name.toList ++ before ++
            '=' :: (behind ++ (v.text ++ AttributeParts.text parts)) := by
        simp [AttributePart.text]
      have hnone : ∀ each ∈ namesIn [], isName each = true := List.forall_mem_nil _
      rw [htext, readOnto_value hnext (addNames_eq_ok_iff.mpr ⟨hnextNames, rfl⟩) hlast hvalue
        hquotes, ih hparts List.not_mem_nil hnone (.inl Text.atWordStart_nil), hword,
        withNames_concat, Dictionary.insert_insert]
      rfl

/-- Written parts alone. -/
theorem readOnto_text (hparts : AttributeParts.WellFormed parts) :
    readOnto whole attributes (AttributeParts.text parts) =
      .ok ((AttributeParts.entries parts).foldl
        (fun attributes (name, value) => attributes.insert name value) attributes) := by
  have hnone : ∀ each ∈ namesIn [], isName each = true := List.forall_mem_nil _
  exact readOnto_parts hparts List.not_mem_nil hnone (.inl Text.atWordStart_nil)

/-! ## What has been read is written in parts -/

/-- A text without names is blank; from any other one its last name can be taken off. -/
theorem blanks_or_last_name (front : List Char) :
    ((∀ c ∈ front, isBlank c = true) ∧ namesIn front = []) ∨
      ∃ before name gap, front = before ++ (name.toList ++ gap) ∧ AtWordStart before ∧
        name.toList ≠ [] ∧ (∀ c ∈ name.toList, isBlank c = false) ∧
        (∀ c ∈ gap, isBlank c = true) ∧ namesIn front = namesIn before ++ [name] := by
  rcases Text.blanks_or_last_word front with hblank | ⟨before, word, gap, rfl, hbefore, hne, hword,
    hgap⟩
  · exact .inl ⟨hblank, congrArg (List.map String.ofList) (Text.words_gap hblank)⟩
  · have hnames : namesIn (before ++ (word ++ gap)) = namesIn before ++ [.ofList word] := by
      rw [← List.append_assoc, namesIn_gap hgap, namesIn, Text.words_append_word hbefore hne hword,
        List.map_append, List.map_singleton]
      rfl
    refine .inr ⟨before, .ofList word, gap, ?_⟩
    rw [String.toList_ofList]
    exact ⟨rfl, hbefore, hne, hword, hgap, hnames⟩

/-- Behind a text of names stand parts. The text is taken apart from its end: its last name and the
blanks behind that become parts in front of the others. -/
theorem exists_parts_of_names (hparts : AttributeParts.WellFormed parts)
    (hnames : ∀ name ∈ namesIn front, isName name = true)
    (hseam : AtWordStart front ∨ AttributeParts.BlankFirst parts) :
    ∃ all, AttributeParts.WellFormed all ∧
      AttributeParts.text all = front ++ AttributeParts.text parts ∧
      AttributeParts.entries all = (namesIn front).map (·, "") ++ AttributeParts.entries parts := by
  induction hlength : front.length using Nat.strong_induction_on generalizing front parts with
  | _ length ih =>
    rcases blanks_or_last_name front with ⟨hblank, hnone⟩ |
      ⟨before, name, gap, rfl, hbefore, hne, hword, hgap, hall⟩
    · rw [hnone]
      exact ⟨front.map .blank ++ parts, AttributeParts.wellFormed_gap hblank hparts,
        AttributeParts.text_gap, AttributeParts.entries_gap⟩
    · rw [hall] at hnames ⊢
      obtain ⟨hinit, hname⟩ := List.forall_mem_append.mp hnames
      have hblankFirst : AttributeParts.BlankFirst (gap.map .blank ++ parts) := by
        cases gap with
        | cons c gap => trivial
        | nil =>
          rw [List.append_nil] at hseam
          exact hseam.resolve_left (Text.not_atWordStart_word hne hword)
      have hnext : AttributeParts.WellFormed (.bare name :: (gap.map .blank ++ parts)) :=
        ⟨⟨hname name List.mem_cons_self, hword⟩, hblankFirst,
          AttributeParts.wellFormed_gap hgap hparts⟩
      have hshorter : before.length < length := by
        have := List.length_pos_iff.mpr hne
        rw [← hlength, List.length_append, List.length_append]
        omega
      obtain ⟨all, hwf, htext, hentries⟩ := ih before.length hshorter hnext hinit (.inl hbefore) rfl
      refine ⟨all, hwf, ?_, ?_⟩
      · rw [htext, AttributeParts.text_cons, AttributeParts.text_gap, AttributePart.text,
          List.append_assoc, List.append_assoc]
      · rw [hentries, List.map_append, List.append_assoc]
        exact congrArg (_ ++ (name, "") :: ·) AttributeParts.entries_gap

theorem foldl_insert_names {entries : List (String × String)} :
    (names.map (·, "") ++ entries).foldl
        (fun attributes (name, value) => attributes.insert name value) attributes =
      entries.foldl (fun attributes (name, value) => attributes.insert name value)
        (withNames attributes names) := by
  rw [List.foldl_append, List.foldl_map]
  rfl

theorem exists_parts_of_readOnto {text : List Char}
    (h : readOnto whole attributes text = .ok result) :
    ∃ parts, AttributeParts.WellFormed parts ∧ text = AttributeParts.text parts ∧
      result = (AttributeParts.entries parts).foldl
        (fun attributes (name, value) => attributes.insert name value) attributes := by
  fun_induction readOnto whole attributes text with
  | case1 => cases h
  | case2 attributes text names named hnamed htext =>
    cases h
    have hfront : text.takeWhile (· != '=') = text := by
      have hsplit := List.takeWhile_append_dropWhile (p := (· != '=')) (l := text)
      rwa [htext, List.append_nil] at hsplit
    obtain ⟨hnames, rfl⟩ := addNames_eq_ok_iff.mp hnamed
    have hnone : AttributeParts.WellFormed [] := trivial
    obtain ⟨parts, hparts, hwritten, hentries⟩ := exists_parts_of_names hnone hnames (.inr trivial)
    refine ⟨parts, hparts, ?_, ?_⟩
    · rw [hwritten, hfront, AttributeParts.text_nil, List.append_nil]
    · rw [hentries, foldl_insert_names]
      rfl
  | case3 => cases h
  | case4 => cases h
  | case5 => cases h
  | case6 attributes text names named hnamed c after htext name hlast value rest hvalue _ hquotes
      ih =>
    obtain ⟨parts, hparts, rfl, rfl⟩ := ih h
    obtain ⟨behind, v, rfl, hbehind, hv, hend, rfl⟩ := exists_value_of_readValue? hvalue
    obtain ⟨hnames, rfl⟩ := addNames_eq_ok_iff.mp hnamed
    -- The last name in front of the equals sign is the one that has the value.
    rcases blanks_or_last_name (text.takeWhile (· != '=')) with ⟨-, hnone⟩ |
      ⟨before, last, gap, hfront, hbefore, -, hword, hgap, hall⟩
    · rw [show names = namesIn _ from rfl, hnone] at hlast
      cases hlast
    rw [show names = namesIn _ from rfl, hall] at hlast hnames
    rw [List.getLast?_concat] at hlast
    cases hlast
    obtain ⟨hinit, hname⟩ := List.forall_mem_append.mp hnames
    have hvalued : AttributeParts.WellFormed (.valued name gap behind v :: parts) :=
      ⟨⟨⟨hname name List.mem_cons_self, hword⟩, hgap, hbehind, hv, by simpa using hquotes⟩,
        (AttributeParts.mayFollow_valued_iff hparts).mpr hend, hparts⟩
    obtain ⟨all, hwf, hwritten, hentries⟩ :=
      exists_parts_of_names hvalued hinit (.inl hbefore)
    refine ⟨all, hwf, ?_, ?_⟩
    · rw [hwritten, split_equals htext, hfront]
      simp [AttributePart.text]
    · rw [hentries, foldl_insert_names, show names = namesIn _ from rfl, hall, withNames_concat,
        Dictionary.insert_insert]
      rfl

/-! ## Reading ends -/

/-- Reading with so many rounds at hand; nothing if they do not suffice. -/
def readWithin (whole : String) : (rounds : Nat) → AttributeSet → List Char →
    Option (Except AttributeError AttributeSet)
  | 0, _, _ => none
  | rounds + 1, attributes, text =>
    match round whole attributes text with
    | .inl outcome => some outcome
    | .inr (attributes, rest) => readWithin whole rounds attributes rest

/-- A round that is not the last one uses up an equals sign. -/
theorem count_of_round {text : List Char} (h : round whole attributes text = .inr (result, rest)) :
    rest.count '=' < text.count '=' := by
  unfold round at h
  split at h
  · cases h
  split at h
  · cases h
  rename_i c after htext
  split at h
  · cases h
  split at h
  · cases h
  rename_i value rest' hvalue
  split at h
  · cases h
  cases h
  obtain ⟨gap, v, rfl, -⟩ := exists_value_of_readValue? hvalue
  rw [split_equals htext]
  simp only [List.count_append, List.count_cons_self]
  omega

theorem readWithin_eq {rounds : Nat} {text : List Char} (h : text.count '=' < rounds) :
    readWithin whole rounds attributes text = some (readOnto whole attributes text) := by
  induction rounds generalizing attributes text with
  | zero => exact absurd h (Nat.not_lt_zero _)
  | succ rounds ih =>
    rw [readWithin, readOnto_eq]
    cases hround : round whole attributes text with
    | inl outcome => rfl
    | inr next =>
      obtain ⟨named, rest⟩ := next
      have hfewer := count_of_round hround
      exact ih (by omega)

/-- **Attributes are read exactly where attributes are written.** A text is accepted if and only if
it is a sequence of names, some with a value, each of which needs a blank behind it unless it ends
with a quote; and of the values written for a name the last one is read. A name alone has the empty
value. Reading ends on every text, after one round for each equals sign at most and one more. -/
theorem attributes_read_iff_written (text : String) (attributes : AttributeSet) :
    (parse text = .ok attributes ↔ ∃ parts, AttributeParts.WellFormed parts ∧
      text.toList = AttributeParts.text parts ∧
      ∀ name, attributes.get? name = lastWritten (AttributeParts.entries parts) name) ∧
    readWithin text (text.toList.count '=' + 1) .empty text.toList = some (parse text) := by
  refine ⟨?_, readWithin_eq (Nat.lt_succ_self _)⟩
  constructor
  · intro h
    obtain ⟨parts, hparts, htext, hentries⟩ := exists_parts_of_readOnto h
    exact ⟨parts, hparts, htext, Dictionary.eq_ofList_iff.mp hentries⟩
  · rintro ⟨parts, hparts, htext, hvalues⟩
    rw [Dictionary.eq_ofList_iff.mpr hvalues, parse, htext]
    exact readOnto_text hparts

/-- Two names in front of a value, an equals sign in a value, a name right behind a quote, and
no value at the end. -/
example : (parse "a b = 'x'c=d=e f=").toOption.map Dictionary.entries =
    some [("a", ""), ("b", "x"), ("c", "d=e"), ("f", "")] := by decide +kernel

end AttributeSet

end TagWeave
