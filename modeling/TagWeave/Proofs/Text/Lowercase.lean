import TagWeave.Proofs.Text.Runs
import TagWeave.Registry
import TagWeave.Text.Blank
import TagWeave.Text.Case

/-!
# Small letters

Small letters stay as they are when they are put into small letters again (`lowercase_lowercase`),
and so does a name in normal form (`normalName_normalName`). The reason is in the table of case
mappings: no run leads to a code point that another run moves on, or to a blank.
-/

namespace TagWeave

namespace Text

/-! ## The table -/

namespace CaseRun
variable {run other : CaseRun} {code first last : Nat}

/-- The run leads to code points of characters. -/
def proper (run : CaseRun) : Bool :=
  0 ≤ run.first + run.shift &&
    (run.last + run.shift < 0xD800 ||
      0xDFFF < run.first + run.shift && run.last + run.shift < 0x110000)

/-- The run leads nowhere into a range of code points. -/
def avoids (run : CaseRun) (first last : Nat) : Bool :=
  (run.last + run.shift).toNat.blt first || last.blt (run.first + run.shift).toNat

/-- The run leads to nothing that the other moves: their ranges are apart, or of two sequences with
step two one has the odd and the other the even code points. -/
def apart (run other : CaseRun) : Bool :=
  run.avoids other.first other.last ||
    (other.step.beq 2 && ((run.first + run.shift).toNat + other.first) % 2 == 1 &&
      (run.step.beq 2 || run.first.beq run.last))

theorem bounds (h : run.covers code = true) :
    run.first ≤ code ∧ code ≤ run.last ∧ (code - run.first) % run.step = 0 := by
  simpa [covers, and_assoc] using h

theorem isValidChar (hproper : run.proper = true) (h : run.covers code = true) :
    (code + run.shift).toNat.isValidChar := by
  obtain ⟨hfirst, hlast, -⟩ := bounds h
  simp only [proper, Bool.and_eq_true, Bool.or_eq_true, decide_eq_true_eq] at hproper
  unfold Nat.isValidChar
  omega

theorem outside_of_avoids (havoids : run.avoids first last = true)
    (h : run.covers code = true) :
    (code + run.shift).toNat < first ∨ last < (code + run.shift).toNat := by
  obtain ⟨hfirst, hlast, -⟩ := bounds h
  simp only [avoids, Bool.or_eq_true, Nat.blt_eq] at havoids
  omega

theorem not_covers_of_apart (hproper : run.proper = true) (hapart : run.apart other = true)
    (h : run.covers code = true) : other.covers (code + run.shift).toNat = false := by
  rw [Bool.eq_false_iff]
  intro hother
  obtain ⟨hfirst, hlast, hstep⟩ := bounds h
  obtain ⟨hfirst', hlast', hstep'⟩ := bounds hother
  have hnonneg : 0 ≤ run.first + run.shift := by
    simp only [proper, Bool.and_eq_true, decide_eq_true_eq] at hproper
    exact hproper.1
  simp only [apart, Bool.or_eq_true, Bool.and_eq_true, Nat.beq_eq, beq_iff_eq] at hapart
  rcases hapart with havoids | ⟨⟨htwo, hodd⟩, hpair⟩
  · have := outside_of_avoids havoids h
    omega
  · rw [htwo] at hstep'
    rcases hpair with hsame | hsingle
    · rw [hsame] at hstep
      omega
    · omega

end CaseRun

theorem lowerRuns_checked : lowerRuns.all (fun run =>
    run.proper && lowerRuns.all run.apart && run.avoids 0x130 0x130 &&
      blanks.all fun (first, last) => run.avoids first last) = true := by
  decide +kernel

/-- A run of the table leads to characters, but to none that a run moves, not to the capital with a
small form of two characters, and to no blank. -/
theorem CaseRun.sound_of_mem {run : CaseRun} (h : run ∈ lowerRuns) :
    run.proper = true ∧ (∀ other ∈ lowerRuns, run.apart other = true) ∧
      run.avoids 0x130 0x130 = true ∧
      ∀ range ∈ blanks, run.avoids range.1 range.2 = true := by
  have hchecked := List.all_eq_true.mp lowerRuns_checked run h
  simp only [Bool.and_eq_true, List.all_eq_true] at hchecked
  obtain ⟨⟨⟨hproper, hapart⟩, hspecial⟩, hblanks⟩ := hchecked
  exact ⟨hproper, hapart, hspecial, hblanks⟩

/-! ## Characters -/

section
variable {c d : Char}

theorem lowerForm_ascii : (List.range 0x80).all (fun code =>
    lowerForm (Char.ofNat code) == [Char.ofNat code] ||
      0x41 ≤ code && code ≤ 0x5A &&
        lowerForm (Char.ofNat code) == [Char.ofNat (code + 32)]) = true := by
  decide +kernel

/-- A character is its own small form, or a run of the table leads from it, or it is the capital
with a small form of two characters. -/
theorem lowerForm_cases (c : Char) : lowerForm c = [c] ∨
    (∃ run ∈ lowerRuns, run.covers c.toNat = true ∧
      lowerForm c = [Char.ofNat (c.toNat + run.shift).toNat]) ∨
    c.toNat = 0x130 ∧ lowerForm c = [Char.ofNat 0x69, Char.ofNat 0x307] := by
  by_cases hascii : c.toNat < 0x80
  · have htable := List.all_eq_true.mp lowerForm_ascii c.toNat (List.mem_range.mpr hascii)
    simp only [Char.ofNat_toNat, Bool.or_eq_true, Bool.and_eq_true, decide_eq_true_eq,
      beq_iff_eq] at htable
    rcases htable with hself | ⟨⟨hfirst, hlast⟩, hform⟩
    · exact .inl hself
    · refine .inr (.inl ⟨⟨0x41, 0x5A, 1, 32⟩, List.mem_cons_self, ?_, hform⟩)
      simp [CaseRun.covers, hfirst, hlast, Nat.mod_one]
  · unfold lowerForm caseForm
    rw [if_neg hascii]
    cases hspecial : lowerSpecial.lookup c.toNat with
    | some form =>
      simp only [lowerSpecial, List.lookup_cons, List.lookup_nil] at hspecial
      split at hspecial
      · rename_i hcode
        cases hspecial
        exact .inr (.inr ⟨eq_of_beq hcode, rfl⟩)
      · cases hspecial
    | none =>
      cases hrun : lowerRuns.find? (·.covers c.toNat) with
      | none => exact .inl rfl
      | some run =>
        have hcovers : run.covers c.toNat = true := by simpa using List.find?_some hrun
        exact .inr (.inl ⟨run, List.mem_of_find?_eq_some hrun, hcovers, rfl⟩)

theorem lowerForm_ne_nil : lowerForm c ≠ [] := by
  rcases lowerForm_cases c with h | ⟨_, _, _, h⟩ | ⟨_, h⟩
  · exact h ▸ List.cons_ne_nil _ _
  · exact h ▸ List.cons_ne_nil _ _
  · exact h ▸ List.cons_ne_nil _ _

/-- The code point to which a run leads. -/
theorem toNat_shifted {run : CaseRun} {code : Nat} (hrun : run ∈ lowerRuns)
    (hcovers : run.covers code = true) :
    (Char.ofNat (code + run.shift).toNat).toNat = (code + run.shift).toNat := by
  obtain ⟨hproper, -, -, -⟩ := CaseRun.sound_of_mem hrun
  rw [Char.ofNat, dif_pos (CaseRun.isValidChar hproper hcovers)]
  rfl

/-- No run of the table moves what another run leads to. -/
theorem lowerForm_shifted {run : CaseRun} {code : Nat} (hrun : run ∈ lowerRuns)
    (hcovers : run.covers code = true) :
    lowerForm (Char.ofNat (code + run.shift).toNat) = [Char.ofNat (code + run.shift).toNat] := by
  obtain ⟨hproper, hapart, havoids, -⟩ := CaseRun.sound_of_mem hrun
  rcases lowerForm_cases (Char.ofNat (code + run.shift).toNat) with h | ⟨other, hother, hmoved, -⟩ |
    ⟨hspecial, -⟩
  · exact h
  · rw [toNat_shifted hrun hcovers,
      CaseRun.not_covers_of_apart hproper (hapart other hother) hcovers] at hmoved
    cases hmoved
  · rw [toNat_shifted hrun hcovers] at hspecial
    have := CaseRun.outside_of_avoids havoids hcovers
    omega

/-- The characters of the small forms that no run leads to. -/
theorem lowerForm_letters : lowerForm (Char.ofNat 0x69) = [Char.ofNat 0x69] ∧
    lowerForm (Char.ofNat 0x307) = [Char.ofNat 0x307] ∧
    lowerForm 'σ' = ['σ'] ∧ lowerForm 'ς' = ['ς'] ∧ lowerForm 'Σ' ≠ ['Σ'] := by
  decide +kernel

/-- The characters of a small form are small. -/
theorem lowerForm_of_mem (h : d ∈ lowerForm c) : lowerForm d = [d] := by
  obtain ⟨hfirst, hsecond, -⟩ := lowerForm_letters
  rcases lowerForm_cases c with hc | ⟨run, hrun, hcovers, hc⟩ | ⟨-, hc⟩
  · rw [hc, List.mem_singleton] at h
    subst h
    exact hc
  · rw [hc, List.mem_singleton] at h
    subst h
    exact lowerForm_shifted hrun hcovers
  · rw [hc] at h
    rcases List.mem_cons.mp h with rfl | h
    · exact hfirst
    · obtain rfl := List.mem_singleton.mp h
      exact hsecond

theorem isBlank_of_mem_lowerForm (h : d ∈ lowerForm c) (hc : isBlank c = false) :
    isBlank d = false := by
  rcases lowerForm_cases c with hform | ⟨run, hrun, hcovers, hform⟩ | ⟨-, hform⟩
  · rw [hform, List.mem_singleton] at h
    subst h
    exact hc
  · rw [hform, List.mem_singleton] at h
    subst h
    rw [isBlank, Ranges.contains, List.any_eq_false, toNat_shifted hrun hcovers]
    intro range hrange
    obtain ⟨-, -, -, havoids⟩ := CaseRun.sound_of_mem hrun
    have := CaseRun.outside_of_avoids (havoids range hrange) hcovers
    simp only [Bool.and_eq_true, decide_eq_true_eq]
    omega
  · rw [hform] at h
    rcases List.mem_cons.mp h with rfl | h
    · decide
    · obtain rfl := List.mem_singleton.mp h
      decide

theorem ne_sigma (h : lowerForm c = [c]) : c ≠ 'Σ' := by
  rintro rfl
  obtain ⟨-, -, -, -, hsigma⟩ := lowerForm_letters
  exact hsigma h

end

/-! ## Texts -/

section
variable {text before : List Char} {c d : Char}

/-- What a character in a text is written as in small letters. -/
theorem lowerFrom_cons (before : List Char) (c : Char) (text : List Char) :
    ∃ form, form ≠ [] ∧ (∀ d ∈ form, lowerForm d = [d]) ∧
      (isBlank c = false → ∀ d ∈ form, isBlank d = false) ∧
      lowerFrom before (c :: text) = form ++ lowerFrom (c :: before) text := by
  obtain ⟨-, -, hsmall, hfinal, -⟩ := lowerForm_letters
  refine ⟨_, ?_, ?_, ?_, rfl⟩
  · split
    · split <;> exact List.cons_ne_nil _ _
    · exact lowerForm_ne_nil
  · split
    · split
      · exact List.forall_mem_singleton.mpr hfinal
      · exact List.forall_mem_singleton.mpr hsmall
    · exact fun d => lowerForm_of_mem
  · intro hc
    split
    · split <;> exact List.forall_mem_singleton.mpr (by decide)
    · exact fun d hd => isBlank_of_mem_lowerForm hd hc

theorem lowerFrom_ne_nil (h : text ≠ []) : lowerFrom before text ≠ [] := by
  obtain ⟨c, text, rfl⟩ := List.exists_cons_of_ne_nil h
  obtain ⟨form, hne, -, -, heq⟩ := lowerFrom_cons before c text
  rw [heq]
  exact List.append_ne_nil_of_left_ne_nil hne _

theorem lowerForm_of_mem_lowerFrom (h : d ∈ lowerFrom before text) : lowerForm d = [d] := by
  induction text generalizing before with
  | nil => cases h
  | cons c text ih =>
    obtain ⟨form, -, hform, -, heq⟩ := lowerFrom_cons before c text
    rw [heq] at h
    rcases List.mem_append.mp h with h | h
    · exact hform d h
    · exact ih h

theorem lowerFrom_of_small (h : ∀ c ∈ text, lowerForm c = [c]) : lowerFrom before text = text := by
  induction text generalizing before with
  | nil => rfl
  | cons c text ih =>
    obtain ⟨hc, htext⟩ := List.forall_mem_cons.mp h
    have hsigma : (c == 'Σ') = false := beq_false_of_ne (ne_sigma hc)
    rw [lowerFrom, ih htext, hsigma]
    exact congrArg (· ++ text) hc

theorem stops_lowerFrom (h : Stops isBlank text) : Stops isBlank (lowerFrom before text) := by
  cases text with
  | nil => exact stops_nil
  | cons c text =>
    obtain ⟨form, hne, -, hform, heq⟩ := lowerFrom_cons before c text
    obtain ⟨d, form, rfl⟩ := List.exists_cons_of_ne_nil hne
    rw [heq, List.cons_append, stops_cons]
    exact hform (stops_cons.mp h) d List.mem_cons_self

theorem stops_reverse_lowerFrom (h : Stops isBlank text.reverse) :
    Stops isBlank (lowerFrom before text).reverse := by
  induction text generalizing before with
  | nil => exact stops_nil
  | cons c text ih =>
    obtain ⟨form, -, -, hform, heq⟩ := lowerFrom_cons before c text
    rw [heq, List.reverse_append]
    rw [List.reverse_cons] at h
    by_cases htext : text = []
    · subst htext
      have hblank := hform (stops_cons.mp h)
      exact stops_of_forall fun d hd => hblank d (List.mem_reverse.mp hd)
    · have hne : (lowerFrom (c :: before) text).reverse ≠ [] :=
        List.reverse_ne_nil_iff.mpr (lowerFrom_ne_nil htext)
      exact (stops_append hne).mpr
        (ih ((stops_append (List.reverse_ne_nil_iff.mpr htext)).mp h))

/-- Small letters stay as they are. -/
theorem lowercase_lowercase (text : String) : lowercase (lowercase text) = lowercase text := by
  rw [lowercase, lowercase, String.toList_ofList,
    lowerFrom_of_small fun c hc => lowerForm_of_mem_lowerFrom hc]

end

end Text

/-! ## Names -/

/-- A name in normal form is its own normal form. -/
theorem normalName_normalName (name : String) :
    normalName (normalName name) = normalName name := by
  have hstable : Text.trimmed (normalName name) = normalName name := by
    obtain ⟨hfront, hback⟩ := Text.stops_strip Text.isBlank name.toList
    have htrim (before : List Char) :
        Text.trim (Text.lowerFrom before (Text.trim name.toList)) =
          Text.lowerFrom before (Text.trim name.toList) :=
      Text.strip_of_stops (Text.stops_lowerFrom hfront) (Text.stops_reverse_lowerFrom hback)
    rw [Text.trimmed, normalName, Text.lowercase, String.toList_ofList, Text.trimmed,
      String.toList_ofList, htrim]
  rw [normalName, hstable, normalName, Text.lowercase_lowercase]

end TagWeave
