import TagWeave.Field.Duration
import TagWeave.Proofs.Number.Digits
import TagWeave.Proofs.Text.Runs

/-!
# Durations as they are written

A duration is written as a sum of terms, each a number with a unit (`Duration.Term`). The reader
cuts such a text into its terms again (`cutSegment_term`) and accepts nothing else but a lone zero
(`parse_eq_ok_iff`).
-/

namespace TagWeave.Duration

open Number (decimalFraction valueOfDigits)
open Text (Stops)

/-- The units with their sizes. -/
def units : List (String × Nat) :=
  [("ns", 1), ("us", 10 ^ 3), ("\u00b5s", 10 ^ 3), ("\u03bcs", 10 ^ 3), ("ms", 10 ^ 6),
    ("s", 10 ^ 9), ("m", 60 * 10 ^ 9), ("h", 3600 * 10 ^ 9)]

/-- What a unit may consist of. -/
def isUnitChar (c : Char) : Bool := !(c.isDigit || c == '.')

/-- A number with its unit as it is written: digits, more of them behind a point if there is one, at
least one digit in all, and a unit. -/
@[ext]
structure Term where
  whole : List Char
  pointed : Bool
  /-- The digits behind the point. -/
  fraction : List Char
  unit : String
  scale : Nat
  whole_digits : ∀ c ∈ whole, c.isDigit = true
  fraction_digits : ∀ c ∈ fraction, c.isDigit = true
  fraction_pointed : pointed = false → fraction = []
  some_digit : ¬ (whole = [] ∧ fraction = [])
  unit_size : (unit, scale) ∈ units

namespace Term

/-- The point and the digits behind it. -/
def behindWhole (t : Term) : List Char := if t.pointed then '.' :: t.fraction else []

def text (t : Term) : List Char := t.whole ++ (t.behindWhole ++ t.unit.toList)

/-- The whole nanoseconds in a term, of whose fraction the first eighteen digits count. -/
def size (t : Term) : Nat :=
  valueOfDigits t.whole * t.scale + ⌊decimalFraction (t.fraction.take 18) * t.scale⌋₊

end Term

namespace Terms

def text (terms : List Term) : List Char := terms.flatMap Term.text

/-- The nanoseconds in all terms. -/
def size (terms : List Term) : Nat := (terms.map Term.size).sum

@[simp] theorem text_nil : text [] = [] := rfl

@[simp] theorem text_cons {t : Term} {terms : List Term} :
    text (t :: terms) = t.text ++ text terms := List.flatMap_cons

@[simp] theorem size_nil : size [] = 0 := rfl

@[simp] theorem size_cons {t : Term} {terms : List Term} :
    size (t :: terms) = t.size + size terms := List.sum_cons

end Terms

/-! ## Units -/

theorem unitSize?_eq_some_iff {unit : String} {scale : Nat} :
    unitSize? unit = some scale ↔ (unit, scale) ∈ units := by
  constructor
  · intro h
    unfold unitSize? at h
    split at h <;> cases h <;> decide
  · intro h
    simp only [units, List.mem_cons, Prod.mk.injEq, List.not_mem_nil, or_false] at h
    rcases h with ⟨rfl, rfl⟩ | ⟨rfl, rfl⟩ | ⟨rfl, rfl⟩ | ⟨rfl, rfl⟩ | ⟨rfl, rfl⟩ | ⟨rfl, rfl⟩ |
      ⟨rfl, rfl⟩ | ⟨rfl, rfl⟩ <;> rfl

theorem scale_bounds {unit : String} {scale : Nat} (h : (unit, scale) ∈ units) :
    0 < scale ∧ scale ≤ 3600 * 10 ^ 9 := by
  have hall : ∀ entry ∈ units, 0 < entry.2 ∧ entry.2 ≤ 3600 * 10 ^ 9 := by decide
  exact hall _ h

theorem unit_chars {unit : String} {scale : Nat} (h : (unit, scale) ∈ units) :
    unit.toList ≠ [] ∧ ∀ c ∈ unit.toList, isUnitChar c = true := by
  have hall : ∀ entry ∈ units,
      entry.1.toList ≠ [] ∧ entry.1.toList.all isUnitChar = true := by decide
  exact (hall _ h).imp_right List.all_eq_true.mp

theorem isUnitChar_iff {c : Char} : isUnitChar c = true ↔ c.isDigit = false ∧ c ≠ '.' := by
  simp [isUnitChar]

/-! ## A term and its segment -/

section
variable {text rest : List Char} {total total' scale : Nat} {t : Term} {terms : List Term}

theorem Term.stops_unit (t : Term) : Stops Char.isDigit (t.unit.toList ++ rest) := by
  obtain ⟨hne, hchars⟩ := unit_chars t.unit_size
  rw [Text.stops_append hne]
  apply Text.stops_of_forall
  intro c hc
  exact (isUnitChar_iff.mp (hchars c hc)).1

/-- A term begins with a digit or a point, where a unit ends. -/
theorem Term.stops_text (t : Term) : Stops isUnitChar (t.text ++ rest) := by
  have hdigit {c : Char} (hc : c.isDigit = true) : isUnitChar c = false := by
    rw [isUnitChar, hc]
    rfl
  cases hwhole : t.whole with
  | cons c whole =>
    rw [Term.text, hwhole, List.cons_append, List.cons_append, Text.stops_cons]
    exact hdigit (t.whole_digits c (hwhole ▸ List.mem_cons_self))
  | nil =>
    have hpointed : t.pointed = true := by
      rw [← Bool.not_eq_false]
      intro hpoint
      exact t.some_digit ⟨hwhole, t.fraction_pointed hpoint⟩
    rw [Term.text, hwhole, Term.behindWhole, if_pos hpointed]
    exact Text.stops_cons.mpr (by decide)

theorem stops_terms (terms : List Term) : Stops isUnitChar (Terms.text terms) := by
  cases terms with
  | nil => exact Text.stops_nil
  | cons t terms =>
    rw [Terms.text_cons]
    exact t.stops_text

theorem cutSegment_term (t : Term) (hrest : Stops isUnitChar rest) :
    cutSegment (t.text ++ rest) = ⟨t.whole, t.fraction, t.unit.toList, rest⟩ := by
  obtain ⟨hne, hchars⟩ := unit_chars t.unit_size
  have htext : t.text ++ rest = t.whole ++ (t.behindWhole ++ (t.unit.toList ++ rest)) := by
    rw [Term.text, List.append_assoc, List.append_assoc]
  have hstop : Stops Char.isDigit (t.behindWhole ++ (t.unit.toList ++ rest)) := by
    unfold Term.behindWhole
    split
    · exact Text.stops_cons.mpr (by decide)
    · exact t.stops_unit
  have hunit := Text.takeWhile_run hchars hrest
  have hbehind := Text.dropWhile_run hchars hrest
  unfold cutSegment
  dsimp only
  rw [htext, Text.takeWhile_run t.whole_digits hstop, Text.dropWhile_run t.whole_digits hstop]
  unfold Term.behindWhole
  cases hpoint : t.pointed with
  | true =>
    rw [if_pos rfl, List.cons_append, List.head?_cons, if_pos rfl, if_pos rfl, List.tail_cons,
      Text.takeWhile_run t.fraction_digits t.stops_unit,
      Text.dropWhile_run t.fraction_digits t.stops_unit]
    exact congrArg₂ (Segment.mk t.whole t.fraction) hunit hbehind
  | false =>
    have hnoPoint : (t.unit.toList ++ rest).head? ≠ some '.' := by
      obtain ⟨c, tail, hcons⟩ := List.exists_cons_of_ne_nil hne
      rw [hcons, List.cons_append, List.head?_cons]
      rintro ⟨⟩
      exact (isUnitChar_iff.mp (hchars '.' (hcons ▸ List.mem_cons_self))).2 rfl
    rw [if_neg Bool.false_ne_true, List.nil_append, if_neg hnoPoint, if_neg hnoPoint,
      t.fraction_pointed hpoint]
    exact congrArg₂ (Segment.mk t.whole []) hunit hbehind

/-- Where a text begins with a term, the text says which. -/
theorem Term.text_append_inj {t' : Term} {rest' : List Char} (hrest : Stops isUnitChar rest)
    (hrest' : Stops isUnitChar rest') (h : t.text ++ rest = t'.text ++ rest') :
    t = t' ∧ rest = rest' := by
  have hcut := cutSegment_term t hrest
  rw [h, cutSegment_term t' hrest', Segment.mk.injEq] at hcut
  obtain ⟨hwhole, hfraction, hunit, rfl⟩ := hcut
  have hunit : t'.unit = t.unit := String.toList_inj.mp hunit
  have hscale : t'.scale = t.scale := by
    have hsize := unitSize?_eq_some_iff.mpr t'.unit_size
    rw [hunit, unitSize?_eq_some_iff.mpr t.unit_size] at hsize
    exact (Option.some.inj hsize).symm
  have hpointed : t'.pointed = t.pointed := by
    have htext := List.append_cancel_right h
    rw [Term.text, Term.text, hwhole, hunit] at htext
    have hbehind := List.append_cancel_right (List.append_cancel_left htext)
    unfold Term.behindWhole at hbehind
    cases hpoint : t.pointed <;> cases hpoint' : t'.pointed <;>
      simp [hpoint, hpoint'] at hbehind ⊢
  exact ⟨Term.ext hwhole.symm hpointed.symm hfraction.symm hunit.symm hscale.symm, rfl⟩

theorem cutSegment_spec (text : List Char) : ∃ pointed : Bool,
    text = (cutSegment text).whole ++
      ((if pointed then '.' :: (cutSegment text).fraction else []) ++
        ((cutSegment text).unit ++ (cutSegment text).rest)) ∧
    (pointed = false → (cutSegment text).fraction = []) ∧
    (∀ c ∈ (cutSegment text).whole, c.isDigit = true) ∧
    ∀ c ∈ (cutSegment text).fraction, c.isDigit = true := by
  have hwhole := (List.takeWhile_append_dropWhile (p := Char.isDigit) (l := text)).symm
  by_cases hpoint : (text.dropWhile Char.isDigit).head? = some '.'
  · obtain ⟨tail, htail⟩ := List.head?_eq_some_iff.mp hpoint
    refine ⟨true, ?_, Bool.noConfusion, fun _ => List.mem_takeWhile_imp, ?_⟩
    · rw [htail] at hwhole
      simpa [cutSegment, htail, List.takeWhile_append_dropWhile] using hwhole
    · simp only [cutSegment, htail, List.head?_cons, if_true, List.tail_cons]
      exact fun _ => List.mem_takeWhile_imp
  · refine ⟨false, ?_, fun _ => ?_, fun _ => List.mem_takeWhile_imp, ?_⟩
    · simp [cutSegment, hpoint]
    · simp [cutSegment, hpoint]
    · simp [cutSegment, hpoint]

/-- A segment with digits and a unit is a term. -/
theorem exists_term_of_cutSegment
    (hdigits : ¬ ((cutSegment text).whole = [] ∧ (cutSegment text).fraction = []))
    (hunit : unitSize? (.ofList (cutSegment text).unit) = some scale) :
    ∃ t : Term, text = t.text ++ (cutSegment text).rest ∧ t.whole = (cutSegment text).whole ∧
      t.fraction = (cutSegment text).fraction ∧ t.scale = scale := by
  obtain ⟨pointed, htext, hpointed, hwhole, hfraction⟩ := cutSegment_spec text
  refine ⟨⟨_, pointed, _, _, _, hwhole, hfraction, hpointed, hdigits,
    unitSize?_eq_some_iff.mp hunit⟩, ?_, rfl, rfl, rfl⟩
  rw [Term.text, Term.behindWhole, String.toList_ofList, List.append_assoc, List.append_assoc]
  exact htext

/-- The size of a term in terms of its segment. -/
theorem Term.size_eq {s : Segment} (hwhole : s.whole = t.whole)
    (hfraction : s.fraction = t.fraction) :
    t.size = s.wholeSize t.scale + s.fractionSize t.scale := by
  rw [Term.size, Number.floor_decimalFraction_mul, ← hwhole, ← hfraction]
  rfl

/-! ## Sums -/

/-- A round of reading at a segment with digits and a unit. -/
theorem addSegments_eq
    (hdigits : ¬ ((cutSegment text).whole = [] ∧ (cutSegment text).fraction = []))
    (hunit : unitSize? (.ofList (cutSegment text).unit) = some scale) (hne : text ≠ []) :
    addSegments total text =
      let s := cutSegment text
      if sumLimit ≤ total + s.wholeSize scale then .error .outOfRange
      else if sumLimit ≤ total + s.wholeSize scale + s.fractionSize scale then .error .outOfRange
      else addSegments (total + s.wholeSize scale + s.fractionSize scale) s.rest := by
  rw [addSegments, if_neg (by simpa using hne), dif_neg hdigits, hunit]

theorem Term.length_text (t : Term) : 2 ≤ t.text.length := by
  have hunit := List.length_pos_iff.mpr (unit_chars t.unit_size).1
  rw [Term.text, List.length_append, List.length_append]
  by_cases hwhole : t.whole = []
  · have hfraction : t.fraction ≠ [] := fun h => t.some_digit ⟨hwhole, h⟩
    have hpointed : t.pointed = true := by
      rw [← Bool.not_eq_false]
      exact fun h => hfraction (t.fraction_pointed h)
    rw [Term.behindWhole, if_pos hpointed, List.length_cons]
    omega
  · have := List.length_pos_iff.mpr hwhole
    omega

/-- The segments of written terms are added as long as the sum stays below the limit. -/
theorem addSegments_terms (hlimit : total + Terms.size terms < sumLimit) :
    addSegments total (Terms.text terms) = .ok (total + Terms.size terms) := by
  induction terms generalizing total with
  | nil =>
    rw [Terms.text_nil, addSegments]
    rfl
  | cons t terms ih =>
    have hcut := cutSegment_term t (stops_terms terms)
    have hne : t.text ++ Terms.text terms ≠ [] := by
      have := t.length_text
      apply List.ne_nil_of_length_pos
      rw [List.length_append]
      omega
    have hdigits : ¬ ((cutSegment (t.text ++ Terms.text terms)).whole = [] ∧
        (cutSegment (t.text ++ Terms.text terms)).fraction = []) := by
      rw [hcut]
      exact t.some_digit
    have hunit : unitSize? (.ofList (cutSegment (t.text ++ Terms.text terms)).unit) =
        some t.scale := by
      rw [hcut, String.ofList_toList]
      exact unitSize?_eq_some_iff.mpr t.unit_size
    have hsize := t.size_eq (congrArg Segment.whole hcut) (congrArg Segment.fraction hcut)
    rw [Terms.size_cons] at hlimit ⊢
    rw [Terms.text_cons, addSegments_eq hdigits hunit hne]
    dsimp only
    rw [if_neg (by omega), if_neg (by omega), congrArg Segment.rest hcut, ih (by omega)]
    exact congrArg Except.ok (by omega)

theorem exists_terms_of_addSegments (h : addSegments total text = .ok total') :
    ∃ terms, text = Terms.text terms ∧ total' = total + Terms.size terms := by
  fun_induction addSegments total text with
  | case1 total text hempty =>
    cases h
    exact ⟨[], List.isEmpty_iff.mp hempty, rfl⟩
  | case2 => cases h
  | case3 => cases h
  | case4 => cases h
  | case5 => cases h
  | case6 total text hempty s hdigits _ scale hunit _ _ _ _ ih =>
    obtain ⟨terms, hrest, rfl⟩ := ih h
    obtain ⟨t, htext, hwhole, hfraction, rfl⟩ := exists_term_of_cutSegment hdigits hunit
    refine ⟨t :: terms, ?_, ?_⟩
    · rw [Terms.text_cons, ← hrest]
      exact htext
    · rw [Terms.size_cons, t.size_eq hwhole.symm hfraction.symm, ← Nat.add_assoc, ← Nat.add_assoc]

/-! ## Whole texts -/

/-- The text is a duration without its sign: a lone zero, or terms that come to less than the
seconds that can be kept. -/
def Unsigned (text : List Char) (d : Duration) : Prop :=
  (text = ['0'] ∧ d = ⟨0⟩) ∨ ∃ terms, terms ≠ [] ∧ text = Terms.text terms ∧
    Terms.size terms < 2 ^ 64 * 10 ^ 9 ∧
    d.seconds = Terms.size terms / 10 ^ 9 ∧ d.subseconds = Terms.size terms % 10 ^ 9

theorem eq_mk_iff {d : Duration} {n : Nat} :
    d = ⟨n⟩ ↔ d.seconds = n / 10 ^ 9 ∧ d.subseconds = n % 10 ^ 9 := by
  constructor
  · rintro rfl
    exact ⟨rfl, rfl⟩
  · rintro ⟨hseconds, hsubseconds⟩
    have hsplit := Nat.div_add_mod d.nanoseconds perSecond
    have hn := Nat.div_add_mod n (10 ^ 9)
    have heq : d.nanoseconds = n := by
      rw [← hsplit, ← hn, ← hseconds, ← hsubseconds]
      rfl
    cases d
    cases heq
    rfl

theorem fits_iff {n : Nat} : n / perSecond < secondsLimit ↔ n < 2 ^ 64 * 10 ^ 9 :=
  Nat.div_lt_iff_lt_mul (by decide)

theorem Terms.text_ne_nil (hne : terms ≠ []) : Terms.text terms ≠ [] := by
  obtain ⟨t, terms, rfl⟩ := List.exists_cons_of_ne_nil hne
  have := t.length_text
  apply List.ne_nil_of_length_pos
  rw [Terms.text_cons, List.length_append]
  omega

theorem Terms.text_injective : Function.Injective Terms.text := by
  intro terms terms' h
  induction terms generalizing terms' with
  | nil =>
    by_contra hne
    exact Terms.text_ne_nil (Ne.symm hne) h.symm
  | cons t terms ih =>
    cases terms' with
    | nil => exact absurd h (Terms.text_ne_nil (List.cons_ne_nil t terms))
    | cons t' terms' =>
      rw [Terms.text_cons, Terms.text_cons] at h
      obtain ⟨rfl, hrest⟩ := Term.text_append_inj (stops_terms terms) (stops_terms terms') h
      rw [ih hrest]

theorem Terms.text_ne_zero (terms : List Term) : Terms.text terms ≠ ['0'] := by
  intro h
  cases terms with
  | nil => cases h
  | cons t terms =>
    have hlength := congrArg List.length h
    have := t.length_text
    rw [Terms.text_cons, List.length_append, List.length_singleton] at hlength
    omega

theorem readUnsigned_eq_ok_iff {d : Duration} : readUnsigned text = .ok d ↔ Unsigned text d := by
  constructor
  · intro h
    unfold readUnsigned at h
    split at h
    · rename_i hzero
      cases h
      exact .inl ⟨hzero, rfl⟩
    split at h
    · cases h
    rename_i hempty
    split at h
    · cases h
    rename_i total htotal
    split at h
    · rename_i hfits
      cases h
      obtain ⟨terms, htext, hsize⟩ := exists_terms_of_addSegments htotal
      rw [Nat.zero_add] at hsize
      subst hsize
      refine .inr ⟨terms, ?_, htext, fits_iff.mp hfits, rfl, rfl⟩
      rintro rfl
      exact hempty (htext ▸ rfl)
    · cases h
  · rintro (⟨rfl, rfl⟩ | ⟨terms, hne, rfl, hfits, hvalue⟩)
    · rfl
    · have hempty : ¬ (Terms.text terms).isEmpty = true := by
        simpa using Terms.text_ne_nil hne
      have hlimit : 0 + Terms.size terms < sumLimit := by
        rw [Nat.zero_add]
        exact Nat.lt_trans hfits (by decide)
      rw [eq_mk_iff.mpr hvalue]
      unfold readUnsigned
      rw [if_neg (Terms.text_ne_zero terms), if_neg hempty, addSegments_terms hlimit, Nat.zero_add]
      exact if_pos (fits_iff.mpr hfits)

/-- A duration without sign does not begin with one. -/
theorem Unsigned.no_sign {d : Duration} (h : Unsigned text d) :
    text.head? ≠ some '+' ∧ text.head? ≠ some '-' := by
  have hfirst : Stops isUnitChar text := by
    rcases h with ⟨rfl, -⟩ | ⟨terms, -, rfl, -⟩
    · exact Text.stops_cons.mpr (by decide)
    · exact stops_terms terms
  constructor
  · intro hhead
    exact absurd (hfirst '+' hhead) (by decide)
  · intro hhead
    exact absurd (hfirst '-' hhead) (by decide)

end

section
variable {text : String} {rest : List Char} {d : Duration}

theorem parse_plus (h : Text.trim text.toList = '+' :: rest) : parse text = readUnsigned rest := by
  rw [parse, h]
  rfl

theorem parse_minus (h : Text.trim text.toList = '-' :: rest) :
    parse text = if rest = ['0'] then .ok ⟨0⟩ else .error .negative := by
  rw [parse, h]
  rfl

theorem parse_unsigned (hplus : ∀ rest, Text.trim text.toList ≠ '+' :: rest)
    (hminus : ∀ rest, Text.trim text.toList ≠ '-' :: rest) :
    parse text = readUnsigned (Text.trim text.toList) := by
  unfold parse
  split
  · exact absurd ‹_› (hplus _)
  · exact absurd ‹_› (hminus _)
  · rfl

theorem parse_eq_ok_iff : parse text = .ok d ↔
    (Text.trim text.toList = ['-', '0'] ∧ d = ⟨0⟩) ∨
    ∃ sign unsigned, (sign = [] ∨ sign = ['+']) ∧ Text.trim text.toList = sign ++ unsigned ∧
      Unsigned unsigned d := by
  constructor
  · intro h
    unfold parse at h
    split at h
    · rename_i rest htrim
      exact .inr ⟨['+'], rest, .inr rfl, htrim, readUnsigned_eq_ok_iff.mp h⟩
    · rename_i rest htrim
      split at h
      · rename_i hzero
        cases h
        exact .inl ⟨by rw [htrim, hzero], rfl⟩
      · cases h
    · exact .inr ⟨[], _, .inl rfl, rfl, readUnsigned_eq_ok_iff.mp h⟩
  · rintro (⟨htrim, rfl⟩ | ⟨sign, unsigned, rfl | rfl, htrim, hread⟩)
    · rw [parse_minus htrim]
      rfl
    · obtain ⟨hplus, hminus⟩ := hread.no_sign
      rw [List.nil_append] at htrim
      rw [← htrim] at hplus hminus hread
      rw [parse_unsigned (fun _ h => hplus (h ▸ rfl)) (fun _ h => hminus (h ▸ rfl))]
      exact readUnsigned_eq_ok_iff.mpr hread
    · rw [parse_plus htrim]
      exact readUnsigned_eq_ok_iff.mpr hread

end

end TagWeave.Duration
