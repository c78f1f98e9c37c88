import Mathlib.Data.List.TakeWhile
import TagWeave.Proofs.Component.Element
import TagWeave.Proofs.Text.Lowercase
import TagWeave.Proofs.Text.Words

/-!
# What keeps attributes from being merged

Once the texts of a container are read, two things can go wrong: a word of a class attribute is no
name (`ClassSet.addWords_of_find?`), or a value holds both kinds of quotes
(`AttributeSet.validate_of_find?`). The style counts as one value, with the quotes of all its pieces
(`quotes_mergedStyle`).
-/

namespace TagWeave

open AttributeSet (hasBothQuotes)

/-! ## Words as classes -/

namespace ClassSet
variable {classes : ClassSet} {word text : String}

/-- The words of a text, which are to be classes. -/
def wordsOf (text : String) : List String := (Text.words text.toList).map String.ofList

theorem noBlank_of_mem_wordsOf (h : word ∈ wordsOf text) :
    ∀ c ∈ word.toList, Text.isBlank c = false := by
  obtain ⟨chars, hchars, rfl⟩ := List.mem_map.mp h
  rw [String.toList_ofList]
  exact (Text.mem_words hchars).2

theorem trimmed_of_mem_wordsOf (h : word ∈ wordsOf text) : Text.trimmed word = word :=
  Text.trimmed_of_noBlank (noBlank_of_mem_wordsOf h)

theorem map_trimmed_wordsOf : (wordsOf text).map Text.trimmed = wordsOf text :=
  (List.map_congr_left fun _ => trimmed_of_mem_wordsOf).trans (List.map_id _)

theorem addWords_of_names (h : ∀ word ∈ wordsOf text, isName word = true) :
    classes.addWords text = .ok ((wordsOf text).foldl insert classes) := by
  have hnone : (wordsOf text).find? (!isName ·) = none :=
    List.find?_eq_none.mpr fun word hword => by simp [h word hword]
  have hleading : leadingNames (wordsOf text) = wordsOf text := by
    rw [leadingNames, map_trimmed_wordsOf]
    exact List.takeWhile_eq_self_iff.mpr h
  unfold addWords
  rw [← wordsOf, addTokens_eq, map_trimmed_wordsOf, hnone, hleading]

/-- The first word that is no name is the error. -/
theorem addWords_of_find? (h : (wordsOf text).find? (!isName ·) = some word) :
    classes.addWords text = .error (.invalidClass word) := by
  unfold addWords
  rw [← wordsOf, addTokens_eq, map_trimmed_wordsOf, h]

end ClassSet

/-! ## Values with both kinds of quotes -/

theorem mem_of_mem_intercalate {α : Type} {sep : List α} {parts : List (List α)} {a : α}
    (h : a ∈ sep.intercalate parts) : a ∈ sep ∨ ∃ part ∈ parts, a ∈ part := by
  match parts with
  | [] => cases h
  | [part] =>
    rw [List.intercalate_singleton] at h
    exact .inr ⟨part, List.mem_singleton_self part, h⟩
  | part :: next :: rest =>
    rw [List.intercalate_cons_cons, List.append_assoc] at h
    rcases List.mem_append.mp h with h | h
    · exact .inr ⟨part, List.mem_cons_self, h⟩
    rcases List.mem_append.mp h with h | h
    · exact .inl h
    · refine (mem_of_mem_intercalate h).imp_right ?_
      rintro ⟨other, hother, ha⟩
      exact ⟨other, List.mem_cons_of_mem part hother, ha⟩

namespace AttributeSet
variable {attributes : AttributeSet} {name value : String}

theorem hasBothQuotes_congr {other : String}
    (h : ∀ c, c = '\'' ∨ c = '"' → (c ∈ value.toList ↔ c ∈ other.toList)) :
    hasBothQuotes value = hasBothQuotes other := by
  unfold hasBothQuotes
  rw [Bool.eq_iff_iff]
  simp [h]

theorem quotes_of_not_mem (h : '"' ∉ value.toList) : hasBothQuotes value = false := by
  simp [hasBothQuotes, h]

/-- The first value with both kinds of quotes is the error. -/
theorem validate_of_find? (h : attributes.entries.find? (hasBothQuotes ·.2) = some (name, value)) :
    attributes.validate = .error (.ambiguousQuotes name value) := by
  unfold validate
  generalize attributes.entries = entries at h
  induction entries with
  | nil => cases h
  | cons entry entries ih =>
    obtain ⟨key, text⟩ := entry
    rw [List.forM_eq_forM, List.forM_cons]
    show (checkQuotes key text >>= _) = _
    rw [List.find?_cons] at h
    cases hentry : hasBothQuotes text with
    | true =>
      have hcheck : checkQuotes key text = .error (.ambiguousQuotes key text) := if_pos hentry
      simp only [hentry, Option.some.injEq, Prod.mk.injEq] at h
      obtain ⟨rfl, rfl⟩ := h
      rw [hcheck]
      rfl
    | false =>
      have hcheck : checkQuotes key text = .ok () := if_neg (Bool.eq_false_iff.mp hentry)
      simp only [hentry] at h
      rw [hcheck]
      exact ih h

end AttributeSet

theorem ClassSet.quotes_write {classes : ClassSet} (h : classes.Named) :
    hasBothQuotes classes.write = false := by
  refine AttributeSet.quotes_of_not_mem fun hmem => ?_
  rw [write, String.toList_intercalate] at hmem
  rcases mem_of_mem_intercalate hmem with hspace | ⟨part, hpart, hquote⟩
  · exact absurd hspace (by decide)
  · obtain ⟨token, htoken, rfl⟩ := List.mem_map.mp hpart
    exact not_mem_of_isName (h token htoken) (by decide) hquote

/-! ## Styles -/

namespace Text

theorem mem_dropWhile_iff {p : Char → Bool} {c : Char} {text : List Char} (hc : p c = false) :
    c ∈ text.dropWhile p ↔ c ∈ text := by
  refine ⟨fun h => (List.dropWhile_sublist p).subset h, fun h => ?_⟩
  rw [← List.takeWhile_append_dropWhile (p := p) (l := text)] at h
  rcases List.mem_append.mp h with h | h
  · rw [List.mem_takeWhile_imp h] at hc
    cases hc
  · exact h

theorem mem_strip_iff {p : Char → Bool} {c : Char} {text : List Char} (hc : p c = false) :
    c ∈ strip p text ↔ c ∈ text := by
  rw [strip, List.mem_reverse, mem_dropWhile_iff hc, List.mem_reverse, mem_dropWhile_iff hc]

end Text

namespace Style
variable {style : Style} {piece : String} {c : Char}

/-- A piece brings its characters along, and at most a semicolon. -/
theorem mem_push_iff (hblank : Text.isBlank c = false) (hsemicolon : c ≠ ';') :
    c ∈ (style.push piece).text.toList ↔ c ∈ style.text.toList ∨ c ∈ piece.toList := by
  have htrimmed : c ∈ (Text.trimmed piece).toList ↔ c ∈ piece.toList := by
    rw [Text.trimmed, String.toList_ofList]
    exact Text.mem_strip_iff hblank
  unfold push
  dsimp only
  split
  · rename_i hempty
    rw [String.isEmpty_iff.mp hempty] at htrimmed
    simp [← htrimmed]
  · split
    · simp [htrimmed]
    · simp [htrimmed, hsemicolon]

theorem push_empty : style.push "" = style := by
  have hempty : (Text.trimmed "").isEmpty = true := by decide
  unfold push
  dsimp only
  rw [if_pos hempty]

end Style

/-! ## Merging -/

section
variable {ε α β : Type} {x : Except ε α} {f : α → Except ε β} {e : ε}

theorem ok_bind {a : α} (h : x = .ok a) : x >>= f = f a := by
  rw [h]
  rfl

theorem error_bind (h : x = .error e) : x >>= f = .error e := by
  rw [h]
  rfl

theorem of_bind_eq_error (h : x >>= f = .error e) :
    x = .error e ∨ ∃ a, x = .ok a ∧ f a = .error e := by
  cases x with
  | error e' =>
    have h : Except.error e' = Except.error e := h
    cases h
    exact .inl rfl
  | ok a => exact .inr ⟨a, rfl, h⟩

end

section
variable {container : Container} {setup : Setup} {site defaults attributes merged : AttributeSet}
  {classes : ClassSet} {style : Style} {id : String} {e : AttributeError}

/-- The style of an element: that of the container, that of the setup and that of a style attribute,
in this order. -/
def mergedStyle (container : Container) (setup : Setup) (merged : AttributeSet) : Style :=
  ((Style.ofText container.style).push setup.style.text).push ((merged.get? "style").getD "")

/-- The quotes of the style are those of its pieces. -/
theorem quotes_mergedStyle : hasBothQuotes (mergedStyle container setup merged).text =
    hasBothQuotes (container.style ++ setup.style.text ++ (merged.get? "style").getD "") := by
  refine AttributeSet.hasBothQuotes_congr fun c hc => ?_
  have hblank : Text.isBlank c = false := by rcases hc with rfl | rfl <;> decide
  have hsemicolon : c ≠ ';' := by rcases hc with rfl | rfl <;> decide
  have hnone : c ∉ Style.empty.text.toList := List.not_mem_nil
  rw [mergedStyle, Style.ofText, Style.mem_push_iff hblank hsemicolon,
    Style.mem_push_iff hblank hsemicolon, Style.mem_push_iff hblank hsemicolon,
    String.toList_append, String.toList_append, List.mem_append, List.mem_append,
    or_iff_right hnone]

theorem mem_elementAttributes_style (h : style.isEmpty = false) :
    ("style", style.text) ∈ (elementAttributes merged id classes style).entries := by
  have hget : (elementAttributes merged id classes style).get? "style" = some style.text := by
    unfold elementAttributes
    dsimp only
    rw [h]
    exact Dictionary.get?_insert
  obtain ⟨before, behind, hentries, -⟩ := List.lookup_eq_some_iff.mp hget
  rw [hentries]
  exact List.mem_append_cons_self

/-- Where only the style may have both kinds of quotes, nothing else is looked at. -/
theorem validate_elementAttributes (hmerged : ∀ e ∈ merged.entries, hasBothQuotes e.2 = false)
    (hid : hasBothQuotes id = false) (hclasses : classes.Named) :
    (elementAttributes merged id classes style).validate =
      AttributeSet.checkQuotes "style" style.text := by
  have hwrite := ClassSet.quotes_write hclasses
  unfold AttributeSet.checkQuotes
  cases hstyle : hasBothQuotes style.text with
  | false =>
    exact AttributeSet.validate_eq_ok_iff.mpr (forall_elementAttributes hmerged hid hwrite hstyle)
  | true =>
    have hsome : style.isEmpty = false := by
      refine Bool.eq_false_iff.mpr fun hempty => ?_
      rw [String.isEmpty_iff.mp hempty] at hstyle
      exact absurd hstyle (by decide)
    have honly : ∀ e ∈ (elementAttributes merged id classes style).entries,
        hasBothQuotes e.2 = true → e = ("style", style.text) := by
      refine forall_elementAttributes (fun e he hboth => ?_) ?_ ?_ fun _ => rfl
      · cases (hmerged e he).symm.trans hboth
      · intro hboth
        cases hid.symm.trans hboth
      · intro hboth
        cases hwrite.symm.trans hboth
    -- The style is there, and nothing else can be found before it.
    refine AttributeSet.validate_of_find? ?_
    cases hfind : (elementAttributes merged id classes style).entries.find? (hasBothQuotes ·.2) with
    | none =>
      exact absurd hstyle (List.find?_eq_none.mp hfind _ (mem_elementAttributes_style hsome))
    | some e =>
      have hboth : hasBothQuotes e.2 = true := by simpa using List.find?_some hfind
      rw [honly e (List.mem_of_find?_eq_some hfind) hboth]

/-- What is wrong with the texts of the container or with a class attribute. -/
theorem mergeAttributes_of_error (h : mergedClasses container setup site = .error e) :
    mergeAttributes container setup site id = .error e := by
  unfold mergedClasses at h
  unfold mergeAttributes
  rcases of_bind_eq_error h with hdefaults | ⟨defaults, hdefaults, h⟩
  · exact error_bind hdefaults
  rw [ok_bind hdefaults]
  rcases of_bind_eq_error h with hfirst | ⟨first, hfirst, h⟩
  · exact error_bind hfirst
  dsimp only
  rw [ok_bind hfirst]
  rcases of_bind_eq_error h with hsecond | ⟨second, hsecond, h⟩
  · exact error_bind hsecond
  · cases h

/-- Otherwise only the quotes are looked at. -/
theorem mergeAttributes_of_classes
    (hdefaults : AttributeSet.parse container.attributes = .ok defaults)
    (h : mergedClasses container setup site = .ok classes)
    (hmerged : merged = (setup.attributes.merge site true).merge defaults false)
    (hattributes : attributes =
      elementAttributes merged id classes (mergedStyle container setup merged)) :
    mergeAttributes container setup site id = attributes.validate.map fun _ => attributes := by
  unfold mergedClasses at h
  obtain ⟨defaults', hdefaults', h⟩ := exists_of_bind_eq_ok h
  cases hdefaults.symm.trans hdefaults'
  obtain ⟨first, hfirst, h⟩ := exists_of_bind_eq_ok h
  obtain ⟨second, hsecond, h⟩ := exists_of_bind_eq_ok h
  obtain rfl := Except.ok.inj h
  have hrun : mergeAttributes container setup site id =
      (AttributeSet.validate attributes >>= fun _ => pure attributes) := by
    rw [mergeAttributes, ok_bind hdefaults]
    dsimp only
    rw [ok_bind hfirst, ok_bind hsecond, hattributes, hmerged]
    rfl
  rw [hrun]
  cases attributes.validate <;> rfl

end

end TagWeave
