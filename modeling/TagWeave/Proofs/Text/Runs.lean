import Mathlib.Data.List.TakeWhile
import TagWeave.Text.Blank
import TagWeave.Text.Find
import TagWeave.Text.Span

/-!
# Runs and pieces of a text

A longest run of characters of one class is determined by where it stops (`run_unique`). The part
before the first occurrence of a piece stays the same when text is added behind: always if the piece
does occur (`cutAt_append_of_found`), else if no occurrence lies across the seam
(`cutAt_append_of_not_found`).
-/

namespace TagWeave.Text

/-! ## Bytes -/

@[simp] theorem byteSize_nil : byteSize [] = 0 := rfl

@[simp] theorem byteSize_cons {c : Char} {text : List Char} :
    byteSize (c :: text) = c.utf8Size + byteSize text := rfl

@[simp] theorem byteSize_append {a b : List Char} :
    byteSize (a ++ b) = byteSize a + byteSize b := by
  induction a with
  | nil => simp
  | cons c a ih => simp [ih, Nat.add_assoc]

/-! ## Runs -/

/-- The text is empty or begins with a character outside the class. -/
def Stops (p : Char → Bool) (text : List Char) : Prop := ∀ c ∈ text.head?, p c = false

section
variable {p : Char → Bool} {run run' rest rest' text : List Char}

@[simp] theorem stops_nil : Stops p [] := fun _ h => nomatch h

@[simp] theorem stops_cons {c : Char} : Stops p (c :: rest) ↔ p c = false := by
  simp [Stops]

theorem stops_append (h : run ≠ []) : Stops p (run ++ rest) ↔ Stops p run := by
  obtain ⟨c, run, rfl⟩ := List.exists_cons_of_ne_nil h
  rw [List.cons_append, stops_cons, stops_cons]

theorem stops_of_forall (h : ∀ c ∈ text, p c = false) : Stops p text := fun c hc =>
  h c (List.mem_of_head? hc)

theorem stops_of_initial (h : Stops p text) (hinitial : run <+: text) : Stops p run := by
  obtain ⟨rest, rfl⟩ := hinitial
  by_cases hne : run = []
  · exact hne ▸ stops_nil
  · exact (stops_append hne).mp h

theorem stops_dropWhile : Stops p (text.dropWhile p) := by
  intro c hc
  have := List.head?_dropWhile_not p text
  rw [Option.mem_def.mp hc] at this
  simpa using this

theorem takeWhile_of_stops (hrest : Stops p rest) : rest.takeWhile p = [] := by
  cases rest with
  | nil => rfl
  | cons c rest => simp [stops_cons.mp hrest]

theorem dropWhile_of_stops (hrest : Stops p rest) : rest.dropWhile p = rest := by
  cases rest with
  | nil => rfl
  | cons c rest => simp [stops_cons.mp hrest]

theorem takeWhile_run (hrun : ∀ c ∈ run, p c = true) (hrest : Stops p rest) :
    (run ++ rest).takeWhile p = run := by
  rw [List.takeWhile_append_of_pos hrun, takeWhile_of_stops hrest, List.append_nil]

theorem dropWhile_run (hrun : ∀ c ∈ run, p c = true) (hrest : Stops p rest) :
    (run ++ rest).dropWhile p = rest := by
  rw [List.dropWhile_append_of_pos hrun, dropWhile_of_stops hrest]

/-- The longest run at the end of a text, and what stands before it. -/
theorem exists_run_behind (p : Char → Bool) (text : List Char) : ∃ before run,
    text = before ++ run ∧ (∀ c ∈ run, p c = true) ∧ ∀ c ∈ before.getLast?, p c = false := by
  refine ⟨(text.reverse.dropWhile p).reverse, (text.reverse.takeWhile p).reverse, ?_, ?_, ?_⟩
  · rw [← List.reverse_append, List.takeWhile_append_dropWhile, List.reverse_reverse]
  · intro c hc
    exact List.mem_takeWhile_imp (List.mem_reverse.mp hc)
  · rw [List.getLast?_reverse]
    exact stops_dropWhile

/-- Two longest runs at the front of one text are the same. -/
theorem run_unique (h : run ++ rest = run' ++ rest') (hrun : ∀ c ∈ run, p c = true)
    (hrest : Stops p rest) (hrun' : ∀ c ∈ run', p c = true) (hrest' : Stops p rest') :
    run = run' ∧ rest = rest' := by
  constructor
  · rw [← takeWhile_run hrun hrest, h, takeWhile_run hrun' hrest']
  · rw [← dropWhile_run hrun hrest, h, dropWhile_run hrun' hrest']

end

/-! ## Ends of a text -/

theorem stops_strip (p : Char → Bool) (text : List Char) :
    Stops p (strip p text) ∧ Stops p (strip p text).reverse := by
  have hsuffix : (text.dropWhile p).reverse.dropWhile p <:+ (text.dropWhile p).reverse :=
    List.dropWhile_suffix p
  have hinitial : strip p text <+: text.dropWhile p := by
    simpa [strip] using List.reverse_prefix.mpr hsuffix
  refine ⟨stops_of_initial stops_dropWhile hinitial, ?_⟩
  rw [strip, List.reverse_reverse]
  exact stops_dropWhile

theorem strip_of_stops {p : Char → Bool} {text : List Char} (h : Stops p text)
    (hend : Stops p text.reverse) : strip p text = text := by
  rw [strip, dropWhile_of_stops h, dropWhile_of_stops hend, List.reverse_reverse]

theorem trimmed_of_noBlank {text : String} (h : ∀ c ∈ text.toList, isBlank c = false) :
    trimmed text = text := by
  have htrim : trim text.toList = text.toList :=
    strip_of_stops (stops_of_forall h) (stops_of_forall fun c hc => h c (List.mem_reverse.mp hc))
  rw [trimmed, htrim, String.ofList_toList]

/-- A text without blanks at its ends has none to lose. -/
theorem trimmed_trimmed (text : String) : trimmed (trimmed text) = trimmed text := by
  obtain ⟨hfront, hback⟩ := stops_strip isBlank text.toList
  have htrim : trim (trim text.toList) = trim text.toList := strip_of_stops hfront hback
  rw [trimmed, trimmed, String.toList_ofList, htrim]

/-! ## Pieces -/

section
variable {piece text more : List Char}

theorem after?_append {rest : List Char} (h : after? piece text = some rest) :
    after? piece (text ++ more) = some (rest ++ more) := by
  rw [after?_eq_some_iff] at h ⊢
  rw [h, List.append_assoc]

theorem after?_eq_none_iff : after? piece text = none ↔ ¬ piece <+: text := by
  rw [Option.eq_none_iff_forall_ne_some]
  constructor
  · rintro h ⟨rest, rfl⟩
    exact h rest (after?_eq_some_iff.mpr rfl)
  · intro h rest hrest
    exact h ⟨rest, (after?_eq_some_iff.mp hrest).symm⟩

/-- An occurrence of the piece begins in `text` and ends in `more`. -/
def Straddles (piece text more : List Char) : Prop :=
  ∃ front back, front ≠ [] ∧ back ≠ [] ∧ piece = front ++ back ∧ front <:+ text ∧ back <+: more

theorem Straddles.cons {c : Char} (h : Straddles piece text more) :
    Straddles piece (c :: text) more := by
  obtain ⟨front, back, hfront, hback, heq, htext, hmore⟩ := h
  exact ⟨front, back, hfront, hback, heq, htext.trans (List.suffix_cons c text), hmore⟩

theorem straddles_iff : Straddles piece text more ↔
    ∃ k ∈ List.range piece.length, 0 < k ∧ piece.take k <:+ text ∧ piece.drop k <+: more := by
  constructor
  · rintro ⟨front, back, hfront, hback, rfl, htext, hmore⟩
    refine ⟨front.length, List.mem_range.mpr ?_, List.length_pos_iff.mpr hfront, ?_, ?_⟩
    · rw [List.length_append]
      exact Nat.lt_add_of_pos_right (List.length_pos_iff.mpr hback)
    · rwa [List.take_left]
    · rwa [List.drop_left]
  · rintro ⟨k, hk, hpos, htext, hmore⟩
    have hlt := List.mem_range.mp hk
    refine ⟨piece.take k, piece.drop k, ?_, ?_, (List.take_append_drop k piece).symm, htext, hmore⟩
    · exact List.ne_nil_of_length_pos (by rw [List.length_take]; omega)
    · exact List.ne_nil_of_length_pos (by rw [List.length_drop]; omega)

instance : Decidable (Straddles piece text more) :=
  decidable_of_iff _ straddles_iff.symm

/-- A piece at the front of a text with text added is there without it, or lies across the seam. -/
theorem prefix_of_prefix_append (h : piece <+: text ++ more) (htext : text ≠ [])
    (hseam : ¬ Straddles piece text more) : piece <+: text := by
  rcases Nat.lt_or_ge text.length piece.length with hlen | hlen
  · obtain ⟨back, rfl⟩ :=
      List.prefix_of_prefix_length_le (List.prefix_append text more) h (Nat.le_of_lt hlen)
    have hback : back ≠ [] := by
      rintro rfl
      simp at hlen
    exact absurd ⟨text, back, htext, hback, rfl, List.suffix_rfl,
      (List.prefix_append_right_inj text).mp h⟩ hseam
  · exact List.prefix_of_prefix_length_le h (List.prefix_append text more) hlen

theorem cutAt_of_starts {c : Char} (h : piece <+: c :: text) :
    cutAt piece (c :: text) = ([], c :: text) := by
  rw [cutAt, if_pos (List.isPrefixOf_iff_prefix.mpr h)]

theorem cutAt_of_not_starts {c : Char} (h : ¬ piece <+: c :: text) :
    cutAt piece (c :: text) = (c :: (cutAt piece text).1, (cutAt piece text).2) := by
  rw [cutAt, if_neg (mt List.isPrefixOf_iff_prefix.mp h)]

/-- What the cut leaves begins with the piece. -/
theorem prefix_cutAt (h : (cutAt piece text).2 ≠ []) : piece <+: (cutAt piece text).2 := by
  induction text with
  | nil => exact absurd rfl h
  | cons c text ih =>
    by_cases hc : piece <+: c :: text
    · rw [cutAt_of_starts hc]
      exact hc
    · rw [cutAt_of_not_starts hc] at h ⊢
      exact ih h

/-- An occurrence that has been found stays the first one. -/
theorem cutAt_append_of_found (h : (cutAt piece text).2 ≠ []) :
    cutAt piece (text ++ more) = ((cutAt piece text).1, (cutAt piece text).2 ++ more) := by
  induction text with
  | nil => exact absurd rfl h
  | cons c text ih =>
    by_cases hc : piece <+: c :: text
    · rw [cutAt_of_starts hc, List.cons_append]
      exact cutAt_of_starts (hc.trans (List.prefix_append (c :: text) more))
    · rw [cutAt_of_not_starts hc] at h ⊢
      -- The occurrence found later is as long, so one here would not reach the end of the text.
      have hlen : piece.length ≤ (c :: text).length := by
        have := (prefix_cutAt h).length_le
        have := congrArg List.length (cutAt_append piece text)
        simp only [List.length_append, List.length_cons] at this ⊢
        omega
      have hc' : ¬ piece <+: c :: (text ++ more) := fun hp =>
        hc (List.prefix_of_prefix_length_le hp (List.prefix_append (c :: text) more) hlen)
      rw [List.cons_append, cutAt_of_not_starts hc', ih h]

theorem cutAt_append_of_not_found (h : (cutAt piece text).2 = [])
    (hseam : ¬ Straddles piece text more) :
    cutAt piece (text ++ more) = (text ++ (cutAt piece more).1, (cutAt piece more).2) := by
  induction text with
  | nil => rfl
  | cons c text ih =>
    by_cases hc : piece <+: c :: text
    · rw [cutAt_of_starts hc] at h
      exact nomatch h
    · have hc' : ¬ piece <+: c :: (text ++ more) := fun hp =>
        hc (prefix_of_prefix_append hp (List.cons_ne_nil c text) hseam)
      rw [cutAt_of_not_starts hc] at h
      rw [List.cons_append, cutAt_of_not_starts hc', ih h fun hs => hseam hs.cons]
      rfl

end

end TagWeave.Text
