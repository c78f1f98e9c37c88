import Mathlib.Data.List.Count
import TagWeave.Proofs.Text.Runs

/-!
# Places between characters

A text can be cut at a place that lies between two characters (`cutAtByte?_eq_some_iff`). From any
other place the search goes back to the beginning of a character, so that the characters are counted
that end before the place (`charsBefore?_eq`). What this says about spans, however they lie, is
`inChars_counts`.
-/

namespace TagWeave.Text

/-- The number of characters that end at a place or before it. -/
def charsEndingBy (place : Nat) (text : List Char) : Nat :=
  (List.range text.length).countP fun index => byteSize (text.take (index + 1)) ≤ place

variable {text before behind : List Char} {place place' found offset count : Nat}

/-! ## Cutting a text -/

theorem cutAtByte?_eq_some_iff : cutAtByte? place text = some (before, behind) ↔
    text = before ++ behind ∧ place = byteSize before := by
  fun_induction cutAtByte? place text generalizing before with
  | case1 text =>
    constructor
    · intro h
      cases h
      exact ⟨rfl, rfl⟩
    · rintro ⟨rfl, hplace⟩
      cases before with
      | nil => rfl
      | cons c before =>
        have := c.utf8Size_pos
        simp only [byteSize_cons] at hplace
        omega
  | case2 place =>
    refine ⟨nofun, ?_⟩
    rintro ⟨htext, hplace⟩
    obtain ⟨rfl, -⟩ := List.append_eq_nil_iff.mp htext.symm
    cases hplace
  | case3 place c rest hfits ih =>
    rw [Option.map_eq_some_iff]
    constructor
    · rintro ⟨⟨front, back⟩, hcut, heq⟩
      cases heq
      obtain ⟨rfl, hplace⟩ := ih.mp hcut
      refine ⟨rfl, ?_⟩
      rw [byteSize_cons]
      omega
    · rintro ⟨htext, hplace⟩
      cases before with
      | nil => cases hplace
      | cons d before =>
        obtain ⟨rfl, rfl⟩ := List.cons.inj htext
        rw [byteSize_cons] at hplace
        exact ⟨(before, behind), ih.mpr ⟨rfl, by omega⟩, rfl⟩
  | case4 place c rest hfits =>
    refine ⟨nofun, ?_⟩
    rintro ⟨htext, hplace⟩
    cases before with
    | nil => cases hplace
    | cons d before =>
      obtain ⟨rfl, rfl⟩ := List.cons.inj htext
      rw [byteSize_cons] at hplace
      omega

theorem isBoundary_iff : isBoundary text place = true ↔
    ∃ before behind, text = before ++ behind ∧ place = byteSize before := by
  rw [isBoundary, Option.isSome_iff_exists, Prod.exists]
  simp only [cutAtByte?_eq_some_iff]

theorem isBoundary_zero : isBoundary text 0 = true := isBoundary_iff.mpr ⟨[], text, rfl, rfl⟩

/-! ## Going back to a boundary -/

/-- The search comes to an end, at the beginning of the text if not before. -/
theorem exists_boundaryUpTo? (text : List Char) (place : Nat) :
    ∃ found, boundaryUpTo? text place = some found := by
  induction place with
  | zero => exact ⟨0, if_pos isBoundary_zero⟩
  | succ place ih =>
    rw [boundaryUpTo?]
    split
    · exact ⟨place + 1, rfl⟩
    · exact ih

/-- It ends at the nearest boundary. -/
theorem nearest_of_boundaryUpTo? (h : boundaryUpTo? text place = some found) :
    isBoundary text found = true ∧ found ≤ place ∧
      ∀ other, found < other → other ≤ place → isBoundary text other = false := by
  induction place with
  | zero =>
    rw [boundaryUpTo?, if_pos isBoundary_zero] at h
    cases h
    refine ⟨isBoundary_zero, Nat.le_refl 0, fun other hlt hle => ?_⟩
    omega
  | succ place ih =>
    rw [boundaryUpTo?] at h
    split at h
    · rename_i hboundary
      cases h
      refine ⟨hboundary, Nat.le_refl _, fun other hlt hle => ?_⟩
      omega
    · rename_i hinside
      obtain ⟨hfound, hle, hnone⟩ := ih h
      refine ⟨hfound, Nat.le_succ_of_le hle, fun other hlt hother => ?_⟩
      rcases Nat.lt_or_eq_of_le hother with hless | rfl
      · exact hnone other hlt (Nat.le_of_lt_succ hless)
      · exact Bool.eq_false_iff.mpr hinside

/-- The text is cut at the boundary that the search comes to: the next character ends behind the
place from which it goes back. -/
theorem exists_cut (text : List Char) (place : Nat) :
    ∃ before behind, text = before ++ behind ∧ boundaryUpTo? text place = some (byteSize before) ∧
      byteSize before ≤ place ∧
      ∀ c rest, behind = c :: rest → place < byteSize (before ++ [c]) := by
  obtain ⟨found, hfound⟩ := exists_boundaryUpTo? text place
  obtain ⟨hboundary, hle, hnone⟩ := nearest_of_boundaryUpTo? hfound
  obtain ⟨before, behind, htext, rfl⟩ := isBoundary_iff.mp hboundary
  refine ⟨before, behind, htext, hfound, hle, fun c rest hbehind => ?_⟩
  -- The end of the next character is a boundary, too.
  have hend : isBoundary text (byteSize (before ++ [c])) = true :=
    isBoundary_iff.mpr ⟨before ++ [c], rest, by simp [htext, hbehind], rfl⟩
  have hlater : byteSize before < byteSize (before ++ [c]) := by
    have := c.utf8Size_pos
    simp only [byteSize_append, byteSize_cons, byteSize_nil]
    omega
  by_contra hplace
  rw [hnone _ hlater (Nat.le_of_not_lt hplace)] at hend
  cases hend

/-! ## Counting characters -/

theorem charsEndingBy_le_length : charsEndingBy place text ≤ text.length := by
  have hle := List.countP_le_length (l := List.range text.length)
    (p := fun index => decide (byteSize (text.take (index + 1)) ≤ place))
  rwa [List.length_range] at hle

theorem charsEndingBy_mono (h : place ≤ place') :
    charsEndingBy place text ≤ charsEndingBy place' text := by
  apply List.countP_mono_left
  intro index _ hend
  exact decide_eq_true (Nat.le_trans (of_decide_eq_true hend) h)

/-- Where the text is cut, the characters in front are those that end by the place. -/
theorem charsEndingBy_append (hbefore : byteSize before ≤ place)
    (hbehind : ∀ c rest, behind = c :: rest → place < byteSize (before ++ [c])) :
    charsEndingBy place (before ++ behind) = before.length := by
  unfold charsEndingBy
  rw [List.length_append, List.range_add, List.countP_append, List.countP_map]
  have hfront : (List.range before.length).countP
      (fun index => byteSize ((before ++ behind).take (index + 1)) ≤ place) = before.length := by
    have hall : ∀ index ∈ List.range before.length,
        decide (byteSize ((before ++ behind).take (index + 1)) ≤ place) = true := by
      intro index hindex
      have hlt : index + 1 ≤ before.length := List.mem_range.mp hindex
      have hsize : byteSize before =
          byteSize (before.take (index + 1)) + byteSize (before.drop (index + 1)) := by
        rw [← byteSize_append, List.take_append_drop]
      rw [List.take_append_of_le_length hlt]
      exact decide_eq_true (by omega)
    rw [List.countP_eq_length.mpr hall, List.length_range]
  have hback : (List.range behind.length).countP
      ((fun index => decide (byteSize ((before ++ behind).take (index + 1)) ≤ place)) ∘
        (before.length + ·)) = 0 := by
    apply List.countP_eq_zero.mpr
    intro index hindex
    cases behind with
    | nil => cases hindex
    | cons c rest =>
      have hlater := hbehind c rest rfl
      have htake : (before ++ c :: rest).take (before.length + index + 1) =
          before ++ [c] ++ rest.take index := by
        rw [Nat.add_assoc, List.take_length_add_append, List.take_succ_cons]
        simp
      rw [Function.comp_apply, htake, byteSize_append, decide_eq_true_eq]
      omega
  rw [hfront, hback, Nat.add_zero]

/-- The characters before a place are counted, wherever it lies: those that end by it. -/
theorem charsBefore?_eq (offset : Nat) (text : List Char) : charsBefore? offset text =
    some (charsEndingBy (min offset (byteSize text)) text) := by
  obtain ⟨before, behind, rfl, hfound, hbefore, hbehind⟩ :=
    exists_cut text (min offset (byteSize text))
  have hcut : cutAtByte? (byteSize before) (before ++ behind) = some (before, behind) :=
    cutAtByte?_eq_some_iff.mpr ⟨rfl, rfl⟩
  rw [charsEndingBy_append hbefore hbehind, charsBefore?, hfound]
  show (cutAtByte? (byteSize before) (before ++ behind)).bind _ = _
  rw [hcut]
  rfl

/-- A place between two characters has as many of them before it as the text up to it. -/
theorem charsBefore?_append :
    charsBefore? (byteSize before) (before ++ behind) = some before.length := by
  have hclamped : min (byteSize before) (byteSize (before ++ behind)) = byteSize before := by
    rw [byteSize_append]
    omega
  have hbehind : ∀ c rest, behind = c :: rest → byteSize before < byteSize (before ++ [c]) := by
    intro c rest _
    have := c.utf8Size_pos
    simp only [byteSize_append, byteSize_cons, byteSize_nil]
    omega
  rw [charsBefore?_eq, hclamped, charsEndingBy_append (Nat.le_refl _) hbehind]

/-! ## Spans -/

/-- How a place in bytes is counted in characters. -/
structure CountsAs (text : List Char) (offset count : Nat) : Prop where
  /-- The search goes back to the beginning of a character, of which there are at most three bytes
  to go over, and finds the end of the characters that are counted. -/
  search : ∃ place, boundaryUpTo? text (min offset (byteSize text)) = some place ∧
    place = byteSize (text.take count) ∧ place ≤ min offset (byteSize text) ∧
    min offset (byteSize text) ≤ place + 3
  count_eq : count = charsEndingBy (min offset (byteSize text)) text
  le_length : count ≤ text.length
  /-- A place between two characters is the end of those that are counted, -/
  size_take : isBoundary text offset = true → byteSize (text.take count) = offset
  /-- and the place behind some characters is counted as their number. -/
  eq_of_size : ∀ chars, chars ≤ text.length → offset = byteSize (text.take chars) → count = chars

theorem countsAs (offset : Nat) (text : List Char) :
    CountsAs text offset (charsEndingBy (min offset (byteSize text)) text) := by
  obtain ⟨before, behind, htext, hfound, hbefore, hbehind⟩ :=
    exists_cut text (min offset (byteSize text))
  have hcount : charsEndingBy (min offset (byteSize text)) (before ++ behind) = before.length :=
    charsEndingBy_append hbefore hbehind
  rw [← htext] at hcount
  have htake : text.take before.length = before := by rw [htext, List.take_left]
  -- A place between two characters is counted by itself.
  have hself {front back : List Char} (hsplit : text = front ++ back)
      (hoffset : offset = byteSize front) :
      charsEndingBy (min offset (byteSize text)) text = front.length := by
    rw [← Option.some_inj, ← charsBefore?_eq, hsplit, hoffset]
    exact charsBefore?_append
  refine ⟨⟨byteSize before, hfound, ?_, hbefore, ?_⟩, rfl, charsEndingBy_le_length, ?_, ?_⟩
  · rw [hcount, htake]
  · cases behind with
    | nil =>
      rw [htext, List.append_nil]
      omega
    | cons c rest =>
      have hend := hbehind c rest rfl
      have := c.utf8Size_le_four
      simp only [byteSize_append, byteSize_cons, byteSize_nil] at hend
      omega
  · intro hboundary
    obtain ⟨front, back, hsplit, hoffset⟩ := isBoundary_iff.mp hboundary
    rw [hself hsplit hoffset, hoffset]
    conv_lhs => rw [hsplit, List.take_left]
  · intro chars hchars hoffset
    rw [hself (List.take_append_drop chars text).symm hoffset, List.length_take]
    omega

/-- **A span in bytes is one in characters, however it lies.** From an end that lies inside a
character or behind the text the search goes back to a place between two characters, which it always
finds. What stands before that place is counted: the characters that end by the offset, which is
that of the text's end if it lies behind it. So no end is behind the last character, the ends keep
their order, and a place between two characters is counted exactly. -/
theorem inChars_counts (span : Span) (text : List Char) :
    ∃ chars, span.inChars? text = some chars ∧ span.inChars text = chars ∧
      CountsAs text span.start chars.start ∧ CountsAs text span.stop chars.stop ∧
      (span.start ≤ span.stop → chars.start ≤ chars.stop) := by
  have hchars : span.inChars? text =
      some ⟨charsEndingBy (min span.start (byteSize text)) text,
        charsEndingBy (min span.stop (byteSize text)) text⟩ := by
    rw [Span.inChars?, charsBefore?_eq, charsBefore?_eq]
    rfl
  refine ⟨_, hchars, by rw [Span.inChars, hchars]; rfl, countsAs _ _, countsAs _ _, fun hle => ?_⟩
  apply charsEndingBy_mono
  omega

/-- The first end lies inside a character of two bytes, the second behind the text. -/
example : Span.inChars? ⟨1, 40⟩ "é<ick-x".toList = some ⟨0, 7⟩ := by decide

end TagWeave.Text
