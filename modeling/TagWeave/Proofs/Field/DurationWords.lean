import TagWeave.Proofs.Field.DurationText

/-!
# Durations counted in words

The nanoseconds of a duration are counted in words of 128 bits, its seconds are kept in 64 and the
nanoseconds beyond them in 32. Some steps refuse a text when their result does not fit, the others
do not look. Whatever the text is, those that do not look always fit, and the answer is the one of
the reader without bounds (`readInWords_eq`).
-/

namespace TagWeave.Duration

open Number (valueOfDigits)

/-- A calculation has an answer, which may be a fault of the text, or it breaks off. -/
abbrev Calculation := ExceptT Fault Option

namespace Calculation
variable {α β : Type} {a : α} {e : Fault} {f : α → Calculation β} {bits n : Nat}

def answer (x : Except Fault α) : Calculation α := .mk (some x)

def breakOff : Calculation α := .mk none

/-- A result that is refused if it does not fit a word. -/
def checked (bits n : Nat) : Calculation Nat :=
  answer (if n < 2 ^ bits then .ok n else .error .outOfRange)

/-- A result that has to fit a word. -/
def unchecked (bits n : Nat) : Calculation Nat :=
  if n < 2 ^ bits then answer (.ok n) else breakOff

theorem ok_bind : answer (.ok a) >>= f = f a := rfl

theorem error_bind : answer (.error e) >>= f = answer (.error e) := rfl

theorem checked_of_lt (h : n < 2 ^ bits) : checked bits n = answer (.ok n) :=
  congrArg answer (if_pos h)

theorem checked_of_le (h : 2 ^ bits ≤ n) : checked bits n = answer (.error .outOfRange) :=
  congrArg answer (if_neg (Nat.not_lt.mpr h))

theorem unchecked_of_lt (h : n < 2 ^ bits) : unchecked bits n = answer (.ok n) := if_pos h

end Calculation

open Calculation

/-- Adds the whole part of a segment; every step looks whether its result fits. -/
def Segment.addWholeInWords (s : Segment) (scale total : Nat) : Calculation Nat :=
  if s.whole.isEmpty then answer (.ok total)
  else do
    let whole ← checked 128 (valueOfDigits s.whole)
    let product ← checked 128 (whole * scale)
    checked 128 (total + product)

/-- Adds the fraction of a segment; the length of its digits, the power of ten and the product are
not looked at. -/
def Segment.addFractionInWords (s : Segment) (scale total : Nat) : Calculation Nat :=
  if s.fraction.isEmpty then answer (.ok total)
  else do
    let digits := s.fraction.take 18
    let numerator ← checked 128 (valueOfDigits digits)
    let length ← unchecked 32 digits.length
    let denominator ← unchecked 128 (10 ^ length)
    let product ← unchecked 128 (numerator * scale)
    checked 128 (total + product / denominator)

/-- Adds the segments of a text in at most so many rounds. -/
def addSegmentsInWords : (rounds total : Nat) → List Char → Calculation Nat
  | 0, total, text => if text.isEmpty then answer (.ok total) else breakOff
  | rounds + 1, total, text =>
    if text.isEmpty then answer (.ok total)
    else
      let s := cutSegment text
      if s.whole = [] ∧ s.fraction = [] then answer (.error .malformed)
      else
        match unitSize? (.ofList s.unit) with
        | none =>
          answer (.error (if s.unit.isEmpty then .missingUnit else .unknownUnit (.ofList s.unit)))
        | some scale => do
          let total ← s.addWholeInWords scale total
          let total ← s.addFractionInWords scale total
          addSegmentsInWords rounds total s.rest

/-- Seconds and nanoseconds. Nanoseconds that come to seconds would be carried. -/
def splitInWords (total : Nat) : Calculation (Nat × Nat) := do
  let seconds ← checked 64 (total / 10 ^ 9)
  let nanoseconds ← unchecked 32 (total % 10 ^ 9)
  let carried ← unchecked 64 (seconds + nanoseconds / 10 ^ 9)
  answer (.ok (carried, nanoseconds % 10 ^ 9))

def readUnsignedInWords (text : List Char) : Calculation (Nat × Nat) :=
  if text = ['0'] then answer (.ok (0, 0))
  else if text.isEmpty then answer (.error .malformed)
  else do splitInWords (← addSegmentsInWords text.length 0 text)

/-- Reads the seconds and the nanoseconds beyond them, with one round for each character at most. -/
def readInWords (text : String) : Calculation (Nat × Nat) :=
  match Text.trim text.toList with
  | '+' :: rest => readUnsignedInWords rest
  | '-' :: rest => if rest = ['0'] then answer (.ok (0, 0)) else answer (.error .negative)
  | rest => readUnsignedInWords rest

section
variable {s : Segment} {scale total rounds : Nat} {text : List Char}

/-! ## One segment -/

/-- An addition that is refused from the limit on. -/
theorem checked_add {n : Nat} : checked 128 (total + n) =
    answer (if sumLimit ≤ total + n then .error .outOfRange else .ok (total + n)) := by
  have hlimit : sumLimit = 2 ^ 128 := rfl
  rw [hlimit]
  by_cases h : 2 ^ 128 ≤ total + n
  · rw [checked_of_le h, if_pos h]
  · rw [checked_of_lt (Nat.not_le.mp h), if_neg h]

theorem addWholeInWords_eq (hscale : 0 < scale) (htotal : total < sumLimit) :
    s.addWholeInWords scale total = answer (if sumLimit ≤ total + s.wholeSize scale then
      .error .outOfRange else .ok (total + s.wholeSize scale)) := by
  have hlimit : sumLimit = 2 ^ 128 := rfl
  unfold Segment.addWholeInWords
  by_cases hempty : s.whole = []
  · have hsize : s.wholeSize scale = 0 := by
      rw [Segment.wholeSize, hempty, Number.valueOfDigits_nil, Nat.zero_mul]
    rw [hempty, hsize, Nat.add_zero, if_neg (Nat.not_le.mpr htotal)]
    rfl
  rw [if_neg (by simpa using hempty), Segment.wholeSize]
  -- A factor that does not fit makes a product that does not.
  have hfactor : valueOfDigits s.whole ≤ valueOfDigits s.whole * scale :=
    Nat.le_mul_of_pos_right _ hscale
  by_cases hproduct : valueOfDigits s.whole * scale < 2 ^ 128
  · rw [checked_of_lt (Nat.lt_of_le_of_lt hfactor hproduct), ok_bind, checked_of_lt hproduct,
      ok_bind, checked_add]
  · have hproduct := Nat.not_lt.mp hproduct
    have hsum : sumLimit ≤ total + valueOfDigits s.whole * scale :=
      Nat.le_trans hproduct (Nat.le_add_left _ _)
    rw [if_pos hsum]
    by_cases hwhole : valueOfDigits s.whole < 2 ^ 128
    · rw [checked_of_lt hwhole, ok_bind, checked_of_le hproduct, error_bind]
    · rw [checked_of_le (Nat.not_lt.mp hwhole), error_bind]

/-- Eighteen digits times the nanoseconds of an hour fit by far. -/
theorem addFractionInWords_eq (hdigits : ∀ c ∈ s.fraction, c.isDigit = true)
    (hscale : scale ≤ 3600 * 10 ^ 9) (htotal : total < sumLimit) :
    s.addFractionInWords scale total = answer (if sumLimit ≤ total + s.fractionSize scale then
      .error .outOfRange else .ok (total + s.fractionSize scale)) := by
  unfold Segment.addFractionInWords
  by_cases hempty : s.fraction = []
  · have hsize : s.fractionSize scale = 0 := by
      rw [Segment.fractionSize, hempty, List.take_nil, Number.valueOfDigits_nil, Nat.zero_mul,
        Nat.zero_div]
    rw [hempty, hsize, Nat.add_zero, if_neg (Nat.not_le.mpr htotal)]
    rfl
  rw [if_neg (by simpa using hempty), Segment.fractionSize]
  have hlength : (s.fraction.take 18).length ≤ 18 := List.length_take_le _ _
  have hpower : 10 ^ (s.fraction.take 18).length ≤ 10 ^ 18 :=
    Nat.pow_le_pow_right (by decide) hlength
  have hvalue : valueOfDigits (s.fraction.take 18) < 10 ^ 18 :=
    Nat.lt_of_lt_of_le (Number.valueOfDigits_lt fun c hc => hdigits c (List.mem_of_mem_take hc))
      hpower
  have hproduct : valueOfDigits (s.fraction.take 18) * scale ≤ 10 ^ 18 * (3600 * 10 ^ 9) :=
    Nat.mul_le_mul (Nat.le_of_lt hvalue) hscale
  dsimp only
  rw [checked_of_lt (by omega), ok_bind, unchecked_of_lt (by omega), ok_bind,
    unchecked_of_lt (by omega), ok_bind, unchecked_of_lt (by omega), ok_bind, checked_add]
  rfl

/-! ## All segments -/

theorem addSegmentsInWords_eq (hrounds : text.length ≤ rounds) (htotal : total < sumLimit) :
    addSegmentsInWords rounds total text = answer (addSegments total text) := by
  induction rounds generalizing total text with
  | zero =>
    obtain rfl := List.length_eq_zero_iff.mp (Nat.le_zero.mp hrounds)
    rw [addSegments]
    rfl
  | succ rounds ih =>
    rw [addSegmentsInWords]
    by_cases hempty : text = []
    · rw [hempty, addSegments]
      rfl
    rw [if_neg (by simpa using hempty)]
    dsimp only
    by_cases hdigits : (cutSegment text).whole = [] ∧ (cutSegment text).fraction = []
    · rw [if_pos hdigits, addSegments, if_neg (by simpa using hempty), dif_pos hdigits]
    rw [if_neg hdigits]
    cases hunit : unitSize? (.ofList (cutSegment text).unit) with
    | none =>
      have hsome : text.isEmpty = false := List.isEmpty_eq_false_iff.mpr hempty
      rw [addSegments, hsome, if_neg Bool.false_ne_true, dif_neg hdigits, hunit]
    | some scale =>
      obtain ⟨hpositive, hbounded⟩ := scale_bounds (unitSize?_eq_some_iff.mp hunit)
      obtain ⟨-, -, -, -, hfraction⟩ := cutSegment_spec text
      have hshorter : (cutSegment text).rest.length ≤ rounds := by
        have hcut := length_cutSegment text
        have hsome :
            0 < (cutSegment text).whole.length ∨ 0 < (cutSegment text).fraction.length := by
          simpa only [List.length_pos_iff, ne_eq, Decidable.not_and_iff_not_or_not] using hdigits
        omega
      rw [addSegments_eq hdigits hunit hempty]
      dsimp only
      rw [addWholeInWords_eq hpositive htotal]
      split
      · rw [error_bind]
      rename_i hwhole
      rw [ok_bind, addFractionInWords_eq hfraction hbounded (Nat.not_le.mp hwhole)]
      split
      · rw [error_bind]
      rename_i hboth
      rw [ok_bind]
      exact ih hshorter (Nat.not_le.mp hboth)

/-! ## Seconds and nanoseconds -/

theorem splitInWords_eq : splitInWords total = answer (if total / perSecond < secondsLimit then
    .ok (Duration.seconds ⟨total⟩, Duration.subseconds ⟨total⟩) else .error .outOfRange) := by
  have hlimit : secondsLimit = 2 ^ 64 := rfl
  have hsecond : perSecond = 10 ^ 9 := rfl
  rw [hlimit, hsecond, splitInWords]
  by_cases hfits : total / 10 ^ 9 < 2 ^ 64
  · have hbelow : total % 10 ^ 9 < 10 ^ 9 := Nat.mod_lt _ (by decide)
    have hcarry : total % 10 ^ 9 / 10 ^ 9 = 0 := Nat.div_eq_of_lt hbelow
    rw [checked_of_lt hfits, ok_bind, unchecked_of_lt (by omega), ok_bind, hcarry, Nat.add_zero,
      unchecked_of_lt hfits, ok_bind, Nat.mod_mod, if_pos hfits]
    rfl
  · rw [checked_of_le (Nat.not_lt.mp hfits), error_bind, if_neg hfits]

theorem readUnsignedInWords_eq : readUnsignedInWords text =
    answer ((readUnsigned text).map fun d => (d.seconds, d.subseconds)) := by
  unfold readUnsignedInWords readUnsigned
  split
  · rfl
  split
  · rfl
  rw [addSegmentsInWords_eq (Nat.le_refl _) (by decide)]
  cases addSegments 0 text with
  | error e => rfl
  | ok total =>
    rw [ok_bind, splitInWords_eq]
    dsimp only
    split <;> rfl

theorem readInWords_eq {text : String} : readInWords text =
    answer ((parse text).map fun d => (d.seconds, d.subseconds)) := by
  unfold readInWords
  split
  · rename_i htrim
    rw [parse_plus htrim]
    exact readUnsignedInWords_eq
  · rename_i htrim
    rw [parse_minus htrim]
    split <;> rfl
  · rename_i hplus hminus
    rw [parse_unsigned hplus hminus]
    exact readUnsignedInWords_eq

end

/-- **A duration is read exactly where one is written, and no step overflows.** Blanks at the ends
aside, a text is accepted if and only if it is `-0`, or an optional plus sign with a lone zero or
with terms behind it that come to less than `2 ^ 64` seconds; and the duration is what the terms
come to. Counted in words of fixed width the answer to every text is the same, after one round for
each of its characters at most, and a step that does not look whether its result fits never breaks
off. -/
theorem durations_read_iff_written (text : String) :
    (∀ d, parse text = .ok d ↔ (Text.trim text.toList = ['-', '0'] ∧ d = ⟨0⟩) ∨
      ∃ sign unsigned, (sign = [] ∨ sign = ['+']) ∧ Text.trim text.toList = sign ++ unsigned ∧
        ((unsigned = ['0'] ∧ d = ⟨0⟩) ∨
          ∃ terms, terms ≠ [] ∧ unsigned = Terms.text terms ∧
            Terms.size terms < 2 ^ 64 * 10 ^ 9 ∧
            d.seconds = Terms.size terms / 10 ^ 9 ∧ d.subseconds = Terms.size terms % 10 ^ 9)) ∧
    (readInWords text).run = some ((parse text).map fun d => (d.seconds, d.subseconds)) :=
  ⟨fun _ => parse_eq_ok_iff, congrArg ExceptT.run readInWords_eq⟩

end TagWeave.Duration
