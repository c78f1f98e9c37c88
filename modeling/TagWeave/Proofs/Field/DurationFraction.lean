import TagWeave.Proofs.Field.DurationText

/-!
# Fractions of a duration

Of the digits of a fraction only the first eighteen are read. Of seconds and of smaller units
nothing is lost by that, as these divide the power of ten
(`Number.floor_decimalFraction_take_of_dvd`). Of a minute or an hour a nanosecond may be lost, and
sometimes is (`nanosecond_lost`).
-/

namespace TagWeave

namespace Number

variable {digits : List Char} {n scale : Nat}

/-! ## Fractions that are cut -/

/-- What the digits beyond the first ones add to a multiple of a fraction. -/
theorem floor_decimalFraction_eq (hlength : n ≤ digits.length) :
    ⌊decimalFraction digits * scale⌋₊ = (valueOfDigits (digits.take n) * scale +
      valueOfDigits (digits.drop n) * scale / 10 ^ (digits.drop n).length) / 10 ^ n := by
  have hpower : 10 ^ digits.length = 10 ^ (digits.drop n).length * 10 ^ n := by
    rw [← Nat.pow_add, List.length_drop, Nat.sub_add_cancel hlength]
  have hvalue := valueOfDigits_append (digits.take n) (digits.drop n)
  rw [List.take_append_drop] at hvalue
  rw [floor_decimalFraction_mul, hpower, ← Nat.div_div_eq_div_mul, hvalue, Nat.add_mul,
    Nat.mul_right_comm, Nat.mul_comm _ (10 ^ _), Nat.mul_add_div (Nat.pow_pos (by decide))]

theorem floor_decimalFraction_take_eq (hlength : n ≤ digits.length) :
    ⌊decimalFraction (digits.take n) * scale⌋₊ =
      valueOfDigits (digits.take n) * scale / 10 ^ n := by
  rw [floor_decimalFraction_mul, List.length_take_of_le hlength]

/-- The further digits add less than one to a fraction, so less than the factor to a product. -/
theorem valueOfDigits_drop_mul_lt (hdigits : ∀ c ∈ digits, c.isDigit = true) (hscale : 0 < scale) :
    valueOfDigits (digits.drop n) * scale / 10 ^ (digits.drop n).length < scale := by
  have hmore : valueOfDigits (digits.drop n) < 10 ^ (digits.drop n).length :=
    valueOfDigits_lt fun c hc => hdigits c (List.mem_of_mem_drop hc)
  apply Nat.div_lt_of_lt_mul
  exact Nat.mul_lt_mul_of_pos_right hmore hscale

/-- A cut makes a multiple of a fraction smaller by one at most. -/
theorem floor_decimalFraction_take_bounds (hdigits : ∀ c ∈ digits, c.isDigit = true)
    (hscale : 0 < scale) (hbound : scale ≤ 10 ^ n) :
    ⌊decimalFraction (digits.take n) * scale⌋₊ ≤ ⌊decimalFraction digits * scale⌋₊ ∧
      ⌊decimalFraction digits * scale⌋₊ ≤ ⌊decimalFraction (digits.take n) * scale⌋₊ + 1 := by
  rcases Nat.le_total digits.length n with hlength | hlength
  · rw [List.take_of_length_le hlength]
    exact ⟨Nat.le_refl _, Nat.le_succ _⟩
  · have hmore := valueOfDigits_drop_mul_lt (n := n) hdigits hscale
    rw [floor_decimalFraction_eq hlength, floor_decimalFraction_take_eq hlength]
    constructor
    · exact Nat.div_le_div_right (Nat.le_add_right _ _)
    · rw [← Nat.add_div_right _ (Nat.pow_pos (by decide))]
      exact Nat.div_le_div_right (Nat.add_le_add_left (Nat.le_trans (Nat.le_of_lt hmore) hbound) _)

/-- If the factor divides the power of ten, the further digits cannot come to a whole. -/
theorem floor_decimalFraction_take_of_dvd (hdigits : ∀ c ∈ digits, c.isDigit = true)
    (hscale : 0 < scale) (hdvd : scale ∣ 10 ^ n) :
    ⌊decimalFraction (digits.take n) * scale⌋₊ = ⌊decimalFraction digits * scale⌋₊ := by
  rcases Nat.le_total digits.length n with hlength | hlength
  · rw [List.take_of_length_le hlength]
  · have hmore := valueOfDigits_drop_mul_lt (n := n) hdigits hscale
    obtain ⟨parts, hparts⟩ := hdvd
    rw [floor_decimalFraction_eq hlength, floor_decimalFraction_take_eq hlength, hparts,
      ← Nat.div_div_eq_div_mul, ← Nat.div_div_eq_div_mul, Nat.mul_div_cancel _ hscale,
      Nat.mul_comm, Nat.mul_add_div hscale, Nat.div_eq_of_lt hmore, Nat.add_zero]

end Number

namespace Duration

open Number (decimalFraction valueOfDigits)

/-! ## What a term loses -/

/-- The whole nanoseconds in a term, of whose fraction all digits count. -/
def Term.exactSize (t : Term) : Nat :=
  valueOfDigits t.whole * t.scale + ⌊decimalFraction t.fraction * t.scale⌋₊

def Terms.exactSize (terms : List Term) : Nat := (terms.map Term.exactSize).sum

/-- The digits that are not read make the term larger. -/
def Term.Loses (t : Term) : Prop := t.size < t.exactSize

instance : DecidablePred Term.Loses := fun t => Nat.decLt t.size t.exactSize

section
variable {t : Term} {terms terms' : List Term} {text : String} {d : Duration}

theorem scale_dvd_or {unit : String} {scale : Nat} (h : (unit, scale) ∈ units) :
    scale ∣ 10 ^ 18 ∨ unit = "m" ∨ unit = "h" := by
  have hall : ∀ entry ∈ units, entry.2 ∣ 10 ^ 18 ∨ entry.1 = "m" ∨ entry.1 = "h" := by decide
  exact hall _ h

theorem Term.exactSize_eq (t : Term) : t.exactSize = t.size + if t.Loses then 1 else 0 := by
  obtain ⟨hpositive, hbounded⟩ := scale_bounds t.unit_size
  have hbound : t.scale ≤ 10 ^ 18 := Nat.le_trans hbounded (by decide)
  obtain ⟨hle, hlt⟩ :=
    Number.floor_decimalFraction_take_bounds t.fraction_digits hpositive hbound
  have hle : t.size ≤ t.exactSize := Nat.add_le_add_left hle _
  have hlt : t.exactSize ≤ t.size + 1 := Nat.add_le_add_left hlt _
  by_cases hloses : t.Loses
  · rw [if_pos hloses]
    exact Nat.le_antisymm hlt hloses
  · rw [if_neg hloses]
    exact Nat.le_antisymm (Nat.not_lt.mp hloses) hle

theorem Term.Loses.length (h : t.Loses) : 18 < t.fraction.length := by
  by_contra hlength
  have hsame : t.size = t.exactSize := by
    rw [Term.size, Term.exactSize, List.take_of_length_le (Nat.not_lt.mp hlength)]
  exact Nat.ne_of_lt h hsame

theorem Term.Loses.unit (h : t.Loses) : t.unit = "m" ∨ t.unit = "h" := by
  rcases scale_dvd_or t.unit_size with hdvd | hunit
  · have hsame : t.size = t.exactSize := by
      rw [Term.size, Term.exactSize, Number.floor_decimalFraction_take_of_dvd t.fraction_digits
        (scale_bounds t.unit_size).1 hdvd]
    exact absurd hsame (Nat.ne_of_lt h)
  · exact hunit

theorem Terms.exactSize_eq (terms : List Term) :
    Terms.exactSize terms = Terms.size terms + terms.countP (·.Loses) := by
  induction terms with
  | nil => rfl
  | cons t terms ih =>
    have hcons : Terms.exactSize (t :: terms) = t.exactSize + Terms.exactSize terms := List.sum_cons
    rw [hcons, ih, Term.exactSize_eq, Terms.size_cons, List.countP_cons]
    simp only [decide_eq_true_eq]
    omega

/-! ## The terms of a text -/

/-- A duration without its sign, where a lone zero stands for no terms. -/
def Terms.unsigned (terms : List Term) : List Char :=
  if terms = [] then ['0'] else Terms.text terms

/-- Blanks and a sign aside, the text consists of these terms. -/
def ConsistsOf (text : String) (terms : List Term) : Prop :=
  ∃ sign, (sign = [] ∨ sign = ['+'] ∨ sign = ['-']) ∧
    Text.trim text.toList = sign ++ Terms.unsigned terms

theorem Terms.unsigned_injective : Function.Injective Terms.unsigned := by
  intro terms terms' h
  unfold Terms.unsigned at h
  split at h <;> split at h
  · rename_i hnil hnil'
    rw [hnil, hnil']
  · exact absurd h.symm (Terms.text_ne_zero terms')
  · exact absurd h (Terms.text_ne_zero terms)
  · exact Terms.text_injective h

theorem Terms.stops_unsigned (terms : List Term) :
    Text.Stops isUnitChar (Terms.unsigned terms) := by
  unfold Terms.unsigned
  split
  · exact Text.stops_cons.mpr (by decide)
  · exact stops_terms terms

/-- The sign is what could be in a unit, so it ends where the terms begin. -/
theorem ConsistsOf.dropWhile_trim (h : ConsistsOf text terms) :
    (Text.trim text.toList).dropWhile isUnitChar = Terms.unsigned terms := by
  obtain ⟨sign, hsign, htrim⟩ := h
  have hchars : ∀ c ∈ sign, isUnitChar c = true := by
    rcases hsign with rfl | rfl | rfl <;> exact List.all_eq_true.mp (by decide)
  rw [htrim, Text.dropWhile_run hchars (Terms.stops_unsigned terms)]

theorem ConsistsOf.unique (h : ConsistsOf text terms) (h' : ConsistsOf text terms') :
    terms = terms' := by
  apply Terms.unsigned_injective
  rw [← h.dropWhile_trim, ← h'.dropWhile_trim]

theorem eq_of_seconds {n : Nat} (hseconds : d.seconds = n / 10 ^ 9)
    (hsubseconds : d.subseconds = n % 10 ^ 9) : d.nanoseconds = n :=
  congrArg nanoseconds (eq_mk_iff.mpr ⟨hseconds, hsubseconds⟩)

theorem exists_consistsOf_of_parse (h : parse text = .ok d) :
    ∃ terms, ConsistsOf text terms ∧ d.nanoseconds = Terms.size terms := by
  rcases parse_eq_ok_iff.mp h with ⟨htrim, rfl⟩ | ⟨sign, unsigned, hsign, htrim, hread⟩
  · exact ⟨[], ⟨['-'], .inr (.inr rfl), htrim⟩, rfl⟩
  have hsigns : sign = [] ∨ sign = ['+'] ∨ sign = ['-'] := hsign.imp_right .inl
  rcases hread with ⟨rfl, rfl⟩ | ⟨terms, hne, rfl, -, hvalue⟩
  · exact ⟨[], ⟨sign, hsigns, htrim⟩, rfl⟩
  · refine ⟨terms, ⟨sign, hsigns, ?_⟩, eq_of_seconds hvalue.1 hvalue.2⟩
    rw [Terms.unsigned, if_neg hne]
    exact htrim

/-! ## What a duration loses -/

/-- **What is lost with the digits that are not read.** The text of a duration consists of terms.
What they come to exactly is more than what is read by one nanosecond for each term that loses, and
such a term is one of minutes or hours with more than eighteen digits behind its point. -/
theorem cut_fractions_lose (h : parse text = .ok d) :
    (∃ terms, ConsistsOf text terms) ∧ ∀ terms, ConsistsOf text terms →
      Terms.exactSize terms = d.nanoseconds + terms.countP (·.Loses) ∧
      ∀ t ∈ terms, t.Loses → (t.unit = "m" ∨ t.unit = "h") ∧ 18 < t.fraction.length := by
  obtain ⟨terms, hterms, hsize⟩ := exists_consistsOf_of_parse h
  refine ⟨⟨terms, hterms⟩, ?_⟩
  intro terms' hterms'
  rw [hterms'.unique hterms]
  refine ⟨?_, fun t _ hloses => ⟨hloses.unit, hloses.length⟩⟩
  rw [Terms.exactSize_eq, hsize]

end

def twoMinutes : Term where
  whole := ['2']
  pointed := false
  fraction := []
  unit := "m"
  scale := 60 * 10 ^ 9
  whole_digits := List.all_eq_true.mp (by decide)
  fraction_digits := List.all_eq_true.mp (by decide)
  fraction_pointed := fun _ => rfl
  some_digit := by decide
  unit_size := by decide

/-- A bit more than a third of an hour, which the nineteenth digit shows. -/
def thirdOfAnHour : Term where
  whole := ['0']
  pointed := true
  fraction := "3333333333333333334".toList
  unit := "h"
  scale := 3600 * 10 ^ 9
  whole_digits := List.all_eq_true.mp (by decide)
  fraction_digits := List.all_eq_true.mp (by decide)
  fraction_pointed := Bool.noConfusion
  some_digit := by decide
  unit_size := by decide

theorem cut_fractions_lose_once : ∃ d, parse "2m0.3333333333333333334h" = .ok d ∧
    Terms.exactSize [twoMinutes, thirdOfAnHour] = d.nanoseconds + 1 := by
  have hparse : parse "2m0.3333333333333333334h" = .ok ⟨1320 * 10 ^ 9 - 1⟩ := by decide +kernel
  have hterms : ConsistsOf "2m0.3333333333333333334h" [twoMinutes, thirdOfAnHour] :=
    ⟨[], .inl rfl, by decide +kernel⟩
  have hcount : [twoMinutes, thirdOfAnHour].countP (·.Loses) = 1 := by decide +kernel
  obtain ⟨hexact, -⟩ := (cut_fractions_lose hparse).2 _ hterms
  rw [hcount] at hexact
  exact ⟨_, hparse, hexact⟩

/-- A text that is read as a nanosecond less than its only term comes to. -/
theorem nanosecond_lost :
    parse "0.3333333333333333334h" = .ok ⟨1200 * 10 ^ 9 - 1⟩ ∧
    ConsistsOf "0.3333333333333333334h" [thirdOfAnHour] ∧
    Terms.exactSize [thirdOfAnHour] = 1200 * 10 ^ 9 :=
  ⟨by decide +kernel, ⟨[], .inl rfl, by decide +kernel⟩, by decide +kernel⟩

end Duration

end TagWeave
