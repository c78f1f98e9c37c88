import TagWeave.Number.Decimal
import TagWeave.Text.Blank

/-!
# Characters of numbers

A number is written with letters, digits, the point and signs only (`chars_of_isNumeric`,
`chars_of_toString`). None of them is a blank.
-/

namespace TagWeave.Number

variable {c : Char} {text : List Char}

/-- What a number may be written with. -/
def isNumeralChar (c : Char) : Bool := c.isAlphanum || c == '.' || c == '+' || c == '-'

theorem isNumeralChar_of_isDigit (h : c.isDigit = true) : isNumeralChar c = true := by
  show (c.isAlpha || c.isDigit || c == '.' || c == '+' || c == '-') = true
  rw [h, Bool.or_true, Bool.true_or, Bool.true_or, Bool.true_or]

theorem isNumeralChar_of_isAlpha (h : c.isAlpha = true) : isNumeralChar c = true := by
  show (c.isAlpha || c.isDigit || c == '.' || c == '+' || c == '-') = true
  rw [h, Bool.true_or, Bool.true_or, Bool.true_or, Bool.true_or]

theorem toNat_of_isUpper (h : c.isUpper = true) : 0x41 ≤ c.toNat ∧ c.toNat ≤ 0x5A :=
  (of_decide_eq_true h).imp UInt32.le_iff_toNat_le.mp UInt32.le_iff_toNat_le.mp

theorem toNat_of_isLower (h : c.isLower = true) : 0x61 ≤ c.toNat ∧ c.toNat ≤ 0x7A := by
  have h : (decide (c.val ≥ 'a'.val) && decide (c.val ≤ 'z'.val)) = true := h
  rw [Bool.and_eq_true, decide_eq_true_eq, decide_eq_true_eq] at h
  exact h.imp UInt32.le_iff_toNat_le.mp UInt32.le_iff_toNat_le.mp

/-- Neither a quote, a slash nor an equals sign is among them. -/
theorem toNat_of_isNumeralChar (h : isNumeralChar c = true) :
    0x2B ≤ c.toNat ∧ c.toNat ≤ 0x7A ∧ c.toNat ≠ 0x2F ∧ c.toNat ≠ 0x3D := by
  have h : (c.isUpper || c.isLower || c.isDigit || c == '.' || c == '+' || c == '-') = true := h
  simp only [Bool.or_eq_true, beq_iff_eq] at h
  rcases h with ((((h | h) | h) | rfl) | rfl) | rfl
  · have := toNat_of_isUpper h
    omega
  · have := toNat_of_isLower h
    omega
  · have : 0x30 ≤ c.toNat ∧ c.toNat ≤ 0x39 := Char.isDigit_iff_toNat.mp h
    omega
  · decide
  · decide
  · decide

theorem isBlank_of_isNumeralChar (h : isNumeralChar c = true) : Text.isBlank c = false := by
  have hrange := toNat_of_isNumeralChar h
  have houtside : ∀ range ∈ Text.blanks, range.2 < 0x2B ∨ 0x7A < range.1 := by decide
  rw [Bool.eq_false_iff]
  intro hblank
  obtain ⟨range, hmem, hin⟩ := List.any_eq_true.mp hblank
  simp only [Bool.and_eq_true, decide_eq_true_eq] at hin
  have := houtside range hmem
  omega

theorem chars_of_toString (n : Int) : ∀ c ∈ (toString n).toList, isNumeralChar c = true := by
  have hdigits (n : Nat) : ∀ c ∈ n.repr.toList, isNumeralChar c = true := fun c hc =>
    isNumeralChar_of_isDigit
      (Nat.isDigit_of_mem_toDigits (by decide) (by decide) (Nat.toList_repr ▸ hc))
  cases n with
  | ofNat n => exact hdigits n
  | negSucc n =>
    have htext : toString (Int.negSucc n) = "-" ++ n.succ.repr := rfl
    rw [htext, String.toList_append]
    exact List.forall_mem_append.mpr ⟨List.all_eq_true.mp (by decide), hdigits n.succ⟩

/-- A character whose small form is a letter is a letter itself. -/
theorem isAlpha_of_toLower (h : c.toLower.isAlpha = true) : c.isAlpha = true := by
  unfold Char.toLower at h
  split at h
  · rename_i hupper
    have hupper : c.isUpper = true := decide_eq_true hupper
    show (c.isUpper || c.isLower) = true
    rw [hupper, Bool.true_or]
  · exact h

/-! ## What a reader accepts -/

theorem chars_of_digitsOnly? (h : (readExponent?.digitsOnly? text).isSome = true) :
    ∀ c ∈ text, isNumeralChar c = true := by
  unfold readExponent?.digitsOnly? at h
  split at h
  · cases h
  · rename_i htest
    simp only [Bool.or_eq_true, not_or, Bool.not_eq_true', Bool.not_eq_false] at htest
    exact fun c hc => isNumeralChar_of_isDigit (List.all_eq_true.mp htest.2 c hc)

theorem chars_of_readExponent? (h : (readExponent? text).isSome = true) :
    ∀ c ∈ text, isNumeralChar c = true := by
  unfold readExponent? at h
  split at h
  · exact List.forall_mem_nil _
  rename_i c rest
  split at h
  · rename_i hc
    have hletter : isNumeralChar c = true := by
      simp only [Bool.or_eq_true, beq_iff_eq] at hc
      rcases hc with rfl | rfl <;> decide
    refine List.forall_mem_cons.mpr ⟨hletter, ?_⟩
    split at h
    · rename_i digits
      refine List.forall_mem_cons.mpr ⟨by decide, chars_of_digitsOnly? ?_⟩
      cases hdigits : readExponent?.digitsOnly? digits with
      | none =>
        rw [hdigits] at h
        cases h
      | some n => rfl
    · exact List.forall_mem_cons.mpr ⟨by decide, chars_of_digitsOnly? (by simpa using h)⟩
    · exact chars_of_digitsOnly? (by simpa using h)
  · cases h

theorem chars_of_readUnsigned? {negative : Bool}
    (h : (readUnsigned? negative text).isSome = true) :
    text ≠ [] ∧ ∀ c ∈ text, isNumeralChar c = true := by
  have hdigits {part : List Char} : ∀ c ∈ part.takeWhile Char.isDigit, isNumeralChar c = true :=
    fun c hc => isNumeralChar_of_isDigit (List.all_eq_true.mp List.all_takeWhile c hc)
  constructor
  · rintro rfl
    cases h
  unfold readUnsigned? at h
  rw [← List.takeWhile_append_dropWhile (p := Char.isDigit) (l := text)]
  refine List.forall_mem_append.mpr ⟨hdigits, ?_⟩
  split at h
  rename_i fraction rest hpoint
  have hexponent : ∀ c ∈ rest, isNumeralChar c = true := by
    dsimp only at h
    split at h
    · cases h
    · exact chars_of_readExponent? (by simpa using h)
  split at hpoint
  · rename_i more hmore
    cases hpoint
    rw [hmore, ← List.takeWhile_append_dropWhile (p := Char.isDigit) (l := more)]
    exact List.forall_mem_cons.mpr ⟨by decide, List.forall_mem_append.mpr ⟨hdigits, hexponent⟩⟩
  · cases hpoint
    exact hexponent

theorem chars_of_unsigned {negative : Bool} (h : (read?.unsigned negative text).isSome = true) :
    text ≠ [] ∧ ∀ c ∈ text, isNumeralChar c = true := by
  -- A value that is not finite is written with the letters of its name.
  have hnamed {name : String} (hletters : ∀ c ∈ name.toList, c.isAlpha = true) (hne : name ≠ "")
      (htext : String.ofList (text.map Char.toLower) = name) :
      text ≠ [] ∧ ∀ c ∈ text, isNumeralChar c = true := by
    subst htext
    constructor
    · rintro rfl
      exact hne rfl
    · intro c hc
      refine isNumeralChar_of_isAlpha (isAlpha_of_toLower (hletters _ ?_))
      rw [String.toList_ofList]
      exact List.mem_map_of_mem hc
  unfold read?.unsigned at h
  dsimp only at h
  split at h
  · rename_i hname
    rcases (Bool.or_eq_true _ _).mp hname with hname | hname
    · exact hnamed (List.all_eq_true.mp (by decide)) (by decide) (eq_of_beq hname)
    · exact hnamed (List.all_eq_true.mp (by decide)) (by decide) (eq_of_beq hname)
  split at h
  · rename_i hname
    exact hnamed (List.all_eq_true.mp (by decide)) (by decide) (eq_of_beq hname)
  · exact chars_of_readUnsigned? (by simpa using h)

theorem chars_of_isNumeric {text : String} (h : isNumeric text = true) :
    text ≠ "" ∧ ∀ c ∈ text.toList, isNumeralChar c = true := by
  unfold isNumeric read? at h
  have hne : text.toList ≠ [] ∧ ∀ c ∈ text.toList, isNumeralChar c = true := by
    split at h
    · rename_i rest heq
      rw [heq]
      exact ⟨List.cons_ne_nil _ _, List.forall_mem_cons.mpr ⟨by decide, (chars_of_unsigned h).2⟩⟩
    · rename_i rest heq
      rw [heq]
      exact ⟨List.cons_ne_nil _ _, List.forall_mem_cons.mpr ⟨by decide, (chars_of_unsigned h).2⟩⟩
    · exact chars_of_unsigned h
  refine ⟨?_, hne.2⟩
  rintro rfl
  exact hne.1 rfl

end TagWeave.Number
