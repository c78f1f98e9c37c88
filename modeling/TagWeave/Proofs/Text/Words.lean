import TagWeave.Proofs.Text.Runs

/-!
# Words of a text

Words hold no blanks (`mem_words`), and a blank between two texts keeps the words of both apart
(`words_append_blank`). A text is a run of blanks, or its last word can be taken off
(`blanks_or_last_word`).
-/

namespace TagWeave.Text

variable {text more word before gap : List Char} {c : Char}

theorem mem_splitOnP {p : Char → Bool} (h : word ∈ text.splitOnP p) : ∀ c ∈ word, p c = false := by
  induction text generalizing word with
  | nil =>
    rw [List.splitOnP_nil, List.mem_singleton] at h
    subst h
    exact List.forall_mem_nil _
  | cons c text ih =>
    rw [List.splitOnP_cons_eq_if_modifyHead] at h
    split at h
    · rcases List.mem_cons.mp h with rfl | h
      · exact List.forall_mem_nil _
      · exact ih h
    · rename_i hc
      obtain ⟨first, others, hsplit⟩ := List.exists_cons_of_ne_nil (List.splitOnP_ne_nil p text)
      rw [hsplit, List.modifyHead_cons] at h
      rcases List.mem_cons.mp h with rfl | h
      · exact List.forall_mem_cons.mpr
          ⟨Bool.eq_false_iff.mpr hc, ih (hsplit ▸ List.mem_cons_self)⟩
      · exact ih (hsplit ▸ List.mem_cons_of_mem first h)

theorem mem_words (h : word ∈ words text) : word ≠ [] ∧ ∀ c ∈ word, isBlank c = false := by
  obtain ⟨hsplit, hne⟩ := List.mem_filter.mp h
  exact ⟨by simpa using hne, mem_splitOnP hsplit⟩

theorem words_append_blank (hc : isBlank c = true) :
    words (text ++ c :: more) = words text ++ words more := by
  rw [words, List.splitOnP_append_cons text more hc, List.filter_append]
  rfl

theorem words_blank (hc : isBlank c = true) : words (c :: more) = words more :=
  @words_append_blank [] more c hc

theorem words_word (hne : word ≠ []) (hword : ∀ c ∈ word, isBlank c = false) :
    words word = [word] := by
  rw [words, List.splitOnP_eq_singleton hword]
  simp [hne]

theorem words_gap (hgap : ∀ c ∈ gap, isBlank c = true) : words gap = [] := by
  induction gap with
  | nil => rfl
  | cons c gap ih =>
    obtain ⟨hc, hgap⟩ := List.forall_mem_cons.mp hgap
    rw [words_blank hc, ih hgap]

theorem words_append_gap (hgap : ∀ c ∈ gap, isBlank c = true) :
    words (text ++ gap) = words text := by
  cases gap with
  | nil => rw [List.append_nil]
  | cons c gap =>
    obtain ⟨hc, hgap⟩ := List.forall_mem_cons.mp hgap
    rw [words_append_blank hc, words_gap hgap, List.append_nil]

/-- Words with a space between them are found again. -/
theorem words_intercalate : ∀ {parts : List (List Char)},
    (∀ word ∈ parts, word ≠ [] ∧ ∀ c ∈ word, isBlank c = false) →
    words ([' '].intercalate parts) = parts
  | [], _ => rfl
  | [word], h => by
    obtain ⟨hne, hword⟩ := h word List.mem_cons_self
    rw [List.intercalate_singleton, words_word hne hword]
  | word :: next :: rest, h => by
    obtain ⟨⟨hne, hword⟩, hrest⟩ := List.forall_mem_cons.mp h
    have hblank : isBlank ' ' = true := by decide
    rw [List.intercalate_cons_cons, List.append_assoc, List.singleton_append,
      words_append_blank hblank, words_word hne hword, words_intercalate hrest]
    rfl

/-- Nothing stands in front, or a blank does, so that a word can begin. -/
def AtWordStart (before : List Char) : Prop := ∀ c ∈ before.getLast?, isBlank c = true

theorem atWordStart_nil : AtWordStart [] := by
  intro c hc
  cases hc

theorem words_append_word (hbefore : AtWordStart before) (hne : word ≠ [])
    (hword : ∀ c ∈ word, isBlank c = false) : words (before ++ word) = words before ++ [word] := by
  rcases List.eq_nil_or_concat before with rfl | ⟨front, c, rfl⟩
  · exact words_word hne hword
  · rw [List.concat_eq_append] at hbefore ⊢
    have hc : isBlank c = true := hbefore c List.getLast?_concat
    have hfront : words (front ++ [c]) = words front :=
      words_append_gap (List.forall_mem_singleton.mpr hc)
    rw [hfront, List.append_assoc, List.singleton_append, words_append_blank hc,
      words_word hne hword]

theorem not_atWordStart_word (hne : word ≠ []) (hword : ∀ c ∈ word, isBlank c = false) :
    ¬ AtWordStart (before ++ word) := by
  intro hstart
  obtain ⟨c, hc⟩ := Option.ne_none_iff_exists'.mp (mt List.getLast?_eq_none_iff.mp hne)
  have hlast : c ∈ (before ++ word).getLast? := by
    rw [List.getLast?_append, hc, Option.some_or]
    rfl
  exact absurd (hstart c hlast) (Bool.eq_false_iff.mp (hword c (List.mem_of_getLast? hc)))

theorem blanks_or_last_word (text : List Char) : (∀ c ∈ text, isBlank c = true) ∨
    ∃ before word gap, text = before ++ (word ++ gap) ∧ AtWordStart before ∧ word ≠ [] ∧
      (∀ c ∈ word, isBlank c = false) ∧ ∀ c ∈ gap, isBlank c = true := by
  obtain ⟨front, gap, rfl, hgap, hfront⟩ := exists_run_behind isBlank text
  obtain ⟨before, word, rfl, hword, hbefore⟩ := exists_run_behind (fun c => !isBlank c) front
  have hword : ∀ c ∈ word, isBlank c = false := fun c hc => by simpa using hword c hc
  have hbefore : AtWordStart before := fun c hc => by simpa using hbefore c hc
  by_cases hne : word = []
  · -- What stands before the last run of blanks does not end with one, so it is nothing.
    subst hne
    rw [List.append_nil] at hfront ⊢
    refine .inl ?_
    rcases List.eq_nil_or_concat before with rfl | ⟨front, c, rfl⟩
    · exact hgap
    · rw [List.concat_eq_append] at hbefore hfront
      have hc : c ∈ (front ++ [c]).getLast? := List.getLast?_concat
      exact absurd (hbefore c hc) (Bool.eq_false_iff.mp (hfront c hc))
  · exact .inr ⟨before, word, gap, List.append_assoc .., hbefore, hne, hword, hgap⟩

end TagWeave.Text
