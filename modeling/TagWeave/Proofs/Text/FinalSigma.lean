import TagWeave.Proofs.Text.Lowercase

/-!
# Small letters of texts that are joined

The small form of a text begins with that of its front, since small forms are found character by
character. The exception is a capital sigma that ends a word in the front but not in the whole text
(`lowerFrom_prefix_iff`).
-/

namespace TagWeave.Text

/-- A word ends with a capital sigma at the end of the text. Characters that neither end nor begin a
word may stand behind it. -/
def endsInSigma (text : List Char) : Bool :=
  match text.reverse.dropWhile caseIgnorable.contains with
  | 'Σ' :: before => meetsLetter before
  | _ => false

/-- The word that a capital sigma ends in the text goes on in `rest`. -/
def joinsSigma (text rest : List Char) : Bool := endsInSigma text && meetsLetter rest

/-- The same where `before` stands in front of the text, nearest character first. -/
def JoinsSigma (before text rest : List Char) : Prop :=
  ∃ front ignored, text = front ++ 'Σ' :: ignored ∧
    (∀ c ∈ ignored, caseIgnorable.contains c = true) ∧
    meetsLetter (front.reverse ++ before) = true ∧ meetsLetter rest = true

variable {text text' rest before front ignored : List Char} {c : Char}

theorem not_ignorable_sigma : caseIgnorable.contains 'Σ' = false := by decide +kernel

/-! ## Where a word goes on -/

theorem meetsLetter_of_ignorable (h : ∀ c ∈ text, caseIgnorable.contains c = true) :
    meetsLetter (text ++ rest) = meetsLetter rest := by
  rw [meetsLetter, meetsLetter, List.dropWhile_append_of_pos h]

theorem not_meetsLetter_of_ignorable (h : ∀ c ∈ text, caseIgnorable.contains c = true) :
    meetsLetter text = false := by
  have hnil : meetsLetter (text ++ []) = meetsLetter [] := meetsLetter_of_ignorable h
  rw [List.append_nil] at hnil
  exact hnil

theorem meetsLetter_cons : meetsLetter (c :: text) =
    if caseIgnorable.contains c then meetsLetter text else cased.contains c := by
  rw [meetsLetter, List.dropWhile_cons]
  cases caseIgnorable.contains c with
  | true => rfl
  | false => rfl

/-- Nothing behind a character that is not ignored matters. -/
theorem meetsLetter_of_not_ignorable (hc : c ∈ text) (hnot : caseIgnorable.contains c = false) :
    meetsLetter (text ++ rest) = meetsLetter text := by
  induction text with
  | nil => cases hc
  | cons d text ih =>
    rw [List.cons_append, meetsLetter_cons, meetsLetter_cons]
    rcases List.mem_cons.mp hc with rfl | hc
    · rw [hnot, if_neg Bool.false_ne_true, if_neg Bool.false_ne_true]
    · rw [ih hc]

/-! ## Small forms of joined texts -/

/-- A character has the same small form before two texts unless it is a capital sigma at the end of
a word before one of them only. -/
theorem lowerFrom_cons_congr
    (h : c = 'Σ' → meetsLetter before = true → meetsLetter text = meetsLetter text') :
    ∃ form, lowerFrom before (c :: text) = form ++ lowerFrom (c :: before) text ∧
      lowerFrom before (c :: text') = form ++ lowerFrom (c :: before) text' := by
  refine ⟨_, rfl, ?_⟩
  rw [lowerFrom]
  congr 1
  by_cases hc : c = 'Σ'
  · cases hbefore : meetsLetter before with
    | false => simp
    | true => rw [h hc hbefore]
  · have hother : (c == 'Σ') = false := beq_false_of_ne hc
    simp [hother]

/-- Where no sigma is joined, both parts keep their small forms. -/
theorem lowerFrom_append (h : ¬ JoinsSigma before text rest) :
    lowerFrom before (text ++ rest) =
      lowerFrom before text ++ lowerFrom (text.reverse ++ before) rest := by
  induction text generalizing before with
  | nil => rfl
  | cons c text ih =>
    have hrest : ¬ JoinsSigma (c :: before) text rest := by
      rintro ⟨front, ignored, rfl, hignored, hbefore, hgoesOn⟩
      exact h ⟨c :: front, ignored, rfl, hignored, by simpa using hbefore, hgoesOn⟩
    have hsame : c = 'Σ' → meetsLetter before = true →
        meetsLetter text = meetsLetter (text ++ rest) := by
      rintro rfl hbefore
      by_cases hletter : ∃ d ∈ text, caseIgnorable.contains d = false
      · obtain ⟨d, hd, hnot⟩ := hletter
        exact (meetsLetter_of_not_ignorable hd hnot).symm
      · have hignored : ∀ d ∈ text, caseIgnorable.contains d = true := fun d hd =>
          eq_true_of_ne_false fun hnot => hletter ⟨d, hd, hnot⟩
        rw [meetsLetter_of_ignorable hignored, not_meetsLetter_of_ignorable hignored]
        refine (Bool.eq_false_iff.mpr fun hgoesOn => h ?_).symm
        exact ⟨[], text, rfl, hignored, hbefore, hgoesOn⟩
    obtain ⟨form, hfront, hwhole⟩ := lowerFrom_cons_congr hsame
    rw [List.cons_append, hwhole, hfront, ih hrest, List.reverse_cons, List.append_assoc,
      List.append_assoc]
    rfl

/-- A sigma that is joined has another small form at the end of the text than inside the whole. -/
theorem not_prefix_of_joinsSigma (h : JoinsSigma before text rest) :
    ¬ lowerFrom before text <+: lowerFrom before (text ++ rest) := by
  obtain ⟨front, ignored, rfl, hignored, hbefore, hgoesOn⟩ := h
  induction front generalizing before with
  | nil =>
    have hend : lowerFrom before ('Σ' :: ignored) = 'ς' :: lowerFrom ('Σ' :: before) ignored := by
      have hletter : meetsLetter before = true := hbefore
      simp [lowerFrom, hletter, not_meetsLetter_of_ignorable hignored]
    have hinside : lowerFrom before ('Σ' :: (ignored ++ rest)) =
        'σ' :: lowerFrom ('Σ' :: before) (ignored ++ rest) := by
      simp [lowerFrom, meetsLetter_of_ignorable hignored, hgoesOn]
    rw [List.nil_append, List.cons_append, hend, hinside, List.cons_prefix_cons]
    rintro ⟨hsame, -⟩
    exact absurd hsame (by decide)
  | cons c front ih =>
    have hsame : c = 'Σ' → meetsLetter before = true →
        meetsLetter (front ++ 'Σ' :: ignored) =
          meetsLetter (front ++ 'Σ' :: ignored ++ rest) := fun _ _ =>
      (meetsLetter_of_not_ignorable List.mem_append_cons_self not_ignorable_sigma).symm
    obtain ⟨form, hfront, hwhole⟩ := lowerFrom_cons_congr hsame
    rw [List.cons_append, List.cons_append, hfront, hwhole, List.prefix_append_right_inj]
    exact ih (by simpa using hbefore)

theorem lowerFrom_prefix_iff : lowerFrom before text <+: lowerFrom before (text ++ rest) ↔
    ¬ JoinsSigma before text rest := by
  constructor
  · intro hprefix hjoins
    exact not_prefix_of_joinsSigma hjoins hprefix
  · intro h
    rw [lowerFrom_append h]
    exact List.prefix_append _ _

/-! ## Deciding it -/

theorem endsInSigma_iff :
    endsInSigma text = true ↔ ∃ front ignored, text = front ++ 'Σ' :: ignored ∧
    (∀ c ∈ ignored, caseIgnorable.contains c = true) ∧ meetsLetter front.reverse = true := by
  unfold endsInSigma
  constructor
  · intro h
    split at h
    · rename_i before hends
      refine ⟨before.reverse, (text.reverse.takeWhile caseIgnorable.contains).reverse, ?_, ?_, ?_⟩
      · rw [← List.reverse_inj, List.reverse_append, List.reverse_cons, List.reverse_reverse,
          List.reverse_reverse, List.append_assoc, List.singleton_append, ← hends,
          List.takeWhile_append_dropWhile]
      · intro c hc
        exact List.mem_takeWhile_imp (List.mem_reverse.mp hc)
      · rwa [List.reverse_reverse]
    · cases h
  · rintro ⟨front, ignored, rfl, hignored, hbefore⟩
    have hrun : ∀ c ∈ ignored.reverse, caseIgnorable.contains c = true := fun c hc =>
      hignored c (List.mem_reverse.mp hc)
    have hends : (front ++ 'Σ' :: ignored).reverse.dropWhile caseIgnorable.contains =
        'Σ' :: front.reverse := by
      rw [List.reverse_append, List.reverse_cons, List.append_assoc, List.singleton_append]
      exact dropWhile_run hrun (stops_cons.mpr not_ignorable_sigma)
    rw [hends]
    exact hbefore

theorem joinsSigma_iff : joinsSigma text rest = true ↔ JoinsSigma [] text rest := by
  rw [joinsSigma, Bool.and_eq_true, endsInSigma_iff]
  simp only [JoinsSigma, List.append_nil]
  constructor
  · rintro ⟨⟨front, ignored, htext, hignored, hbefore⟩, hgoesOn⟩
    exact ⟨front, ignored, htext, hignored, hbefore, hgoesOn⟩
  · rintro ⟨front, ignored, htext, hignored, hbefore, hgoesOn⟩
    exact ⟨⟨front, ignored, htext, hignored, hbefore⟩, hgoesOn⟩

/-- The small form of a joined text begins with that of its front unless a sigma is joined. -/
theorem lowercase_prefix_iff {front rest : String} :
    (lowercase front).toList <+: (lowercase (front ++ rest)).toList ↔
      joinsSigma front.toList rest.toList = false := by
  rw [lowercase, lowercase, String.toList_ofList, String.toList_ofList, String.toList_append,
    lowerFrom_prefix_iff, ← joinsSigma_iff, Bool.not_eq_true]

/-- Behind the sigma there is an apostrophe, which ends no word; a hyphen does. -/
example : joinsSigma "aΣ'".toList "b".toList = true ∧
    joinsSigma "aΣ-".toList "b".toList = false := by
  decide +kernel

end TagWeave.Text
