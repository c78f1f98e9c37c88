import TagWeave.Proofs.Markup.AttributeGrammar
import TagWeave.Proofs.Registry.FirstRegistrations
import TagWeave.Proofs.Text.FinalSigma

/-!
# Names behind the reserved characters

A name in small letters is a name (`isName_lowercase`). The reserved characters are put into small
letters alone and a name as a whole. So a name that begins with the reserved characters may be
registered unless it goes on behind a capital sigma at their end (`Registrable.iff_not_joinsSigma`).
-/

namespace TagWeave

/-! ## Names in small letters -/

namespace Text.CaseRun

/-- The run leads into a range of code points only. -/
def leadsInto (run : CaseRun) (first last : Nat) : Bool :=
  first ≤ run.first + run.shift && run.last + run.shift ≤ last

/-- The run moves nothing in a range of code points. -/
def misses (run : CaseRun) (first last : Nat) : Bool := run.last.blt first || last.blt run.first

end Text.CaseRun

theorem lowerRuns_names_checked : Text.lowerRuns.all (fun run =>
    nameStarts.any (fun (first, last) => run.leadsInto first last) ||
      (nameStarts ++ nameContinues).all fun (first, last) => run.misses first last) = true := by
  decide +kernel

section
variable {c d : Char} {text before : List Char} {form : List Char}

theorem isNameChar_iff : isNameChar c = true ↔
    ∃ range ∈ nameStarts ++ nameContinues, range.1 ≤ c.toNat ∧ c.toNat ≤ range.2 := by
  simp only [isNameChar, isNameStart, Text.Ranges.contains, ← List.any_append, List.any_eq_true,
    Bool.and_eq_true, decide_eq_true_eq]

/-- A run that moves a character of names leads to one with which a name may begin. -/
theorem isNameStart_shifted {run : Text.CaseRun} (hrun : run ∈ Text.lowerRuns)
    (hcovers : run.covers c.toNat = true) (hc : isNameChar c = true) :
    isNameStart (Char.ofNat (c.toNat + run.shift).toNat) = true := by
  have hchecked := List.all_eq_true.mp lowerRuns_names_checked run hrun
  obtain ⟨hfirst, hlast, -⟩ := Text.CaseRun.bounds hcovers
  rw [Bool.or_eq_true] at hchecked
  rcases hchecked with hleads | hmisses
  · obtain ⟨range, hrange, hleads⟩ := List.any_eq_true.mp hleads
    simp only [Text.CaseRun.leadsInto, Bool.and_eq_true, decide_eq_true_eq] at hleads
    refine List.any_eq_true.mpr ⟨range, hrange, ?_⟩
    rw [Text.toNat_shifted hrun hcovers, Bool.and_eq_true, decide_eq_true_eq, decide_eq_true_eq]
    omega
  · obtain ⟨range, hrange, hbegin, hend⟩ := isNameChar_iff.mp hc
    have hmiss := List.all_eq_true.mp hmisses range hrange
    simp only [Text.CaseRun.misses, Bool.or_eq_true, Nat.blt_eq] at hmiss
    omega

/-- The small form of a character of names is made of such, and a name may begin with it if it may
begin with the character. -/
theorem lowerForm_of_isNameChar (hc : isNameChar c = true) :
    ∃ d rest, Text.lowerForm c = d :: rest ∧
    (isNameStart c = true → isNameStart d = true) ∧ ∀ e ∈ d :: rest, isNameChar e = true := by
  rcases Text.lowerForm_cases c with hform | ⟨run, hrun, hcovers, hform⟩ | ⟨-, hform⟩
  · exact ⟨c, [], hform, id, List.forall_mem_singleton.mpr hc⟩
  · have hstart := isNameStart_shifted hrun hcovers hc
    exact ⟨_, [], hform, fun _ => hstart,
      List.forall_mem_singleton.mpr (isNameChar_of_isNameStart hstart)⟩
  · exact ⟨_, _, hform, fun _ => by decide, List.all_eq_true.mp (by decide)⟩

/-- The same for a character in a text, where a capital sigma has two small forms. -/
theorem lowerFrom_of_isNameChar (before text : List Char) (hc : isNameChar c = true) :
    ∃ d rest, Text.lowerFrom before (c :: text) = d :: rest ++ Text.lowerFrom (c :: before) text ∧
      (isNameStart c = true → isNameStart d = true) ∧ ∀ e ∈ d :: rest, isNameChar e = true := by
  rw [Text.lowerFrom]
  split
  · split
    · exact ⟨'ς', [], rfl, fun _ => by decide, List.forall_mem_singleton.mpr (by decide)⟩
    · exact ⟨'σ', [], rfl, fun _ => by decide, List.forall_mem_singleton.mpr (by decide)⟩
  · obtain ⟨d, rest, hform, hstart, hchars⟩ := lowerForm_of_isNameChar hc
    exact ⟨d, rest, by rw [hform], hstart, hchars⟩

theorem isNameChar_of_mem_lowerFrom (h : ∀ c ∈ text, isNameChar c = true) :
    ∀ d ∈ Text.lowerFrom before text, isNameChar d = true := by
  induction text generalizing before with
  | nil => exact List.forall_mem_nil _
  | cons c text ih =>
    obtain ⟨hc, htext⟩ := List.forall_mem_cons.mp h
    obtain ⟨d, rest, hform, -, hchars⟩ := lowerFrom_of_isNameChar before text hc
    rw [hform]
    exact List.forall_mem_append.mpr ⟨hchars, ih htext⟩

theorem isName_lowercase {name : String} (h : isName name = true) :
    isName (Text.lowercase name) = true := by
  obtain ⟨c, text, htext, hfirst, hchars⟩ := isName_iff.mp h
  obtain ⟨hc, hrest⟩ := List.forall_mem_cons.mp hchars
  obtain ⟨d, rest, hform, hstart, hd⟩ := lowerFrom_of_isNameChar [] text hc
  rw [← htext] at hform
  refine isName_iff.mpr ⟨d, rest ++ Text.lowerFrom [c] text, ?_, hstart hfirst, ?_⟩
  · rw [Text.lowercase, String.toList_ofList, hform, List.cons_append]
  · rw [← List.cons_append]
    exact List.forall_mem_append.mpr ⟨hd, isNameChar_of_mem_lowerFrom hrest⟩

end

/-! ## Names that begin with the reserved characters -/

section
variable {text : List Char} {reserved suffix : String} {actions : List Action} {g : Registration}

/-- The characters with which a name without blanks goes on, checked one by one. -/
theorem all_isNameChar_iff : (text.all fun c => isNameChar c && !Text.isBlank c) = true ↔
    ∀ c ∈ text, isNameChar c = true ∧ Text.isBlank c = false := by
  simp only [List.all_eq_true, Bool.and_eq_true, Bool.not_eq_true']

theorem isNameWord_of_all {name : String} (h : isName name = true)
    (hall : (name.toList.all fun c => isNameChar c && !Text.isBlank c) = true) : IsNameWord name :=
  ⟨h, fun c hc => (all_isNameChar_iff.mp hall c hc).2⟩

theorem IsNameWord.append (h : IsNameWord reserved)
    (hsuffix : ∀ c ∈ suffix.toList, isNameChar c = true ∧ Text.isBlank c = false) :
    IsNameWord (reserved ++ suffix) := by
  obtain ⟨c, rest, htext, hc, hchars⟩ := isName_iff.mp h.isName
  have hwhole : (reserved ++ suffix).toList = c :: (rest ++ suffix.toList) := by
    rw [String.toList_append, htext, List.cons_append]
  constructor
  · refine isName_iff.mpr ⟨c, rest ++ suffix.toList, hwhole, hc, ?_⟩
    rw [← List.cons_append]
    exact List.forall_mem_append.mpr ⟨hchars, fun d hd => (hsuffix d hd).1⟩
  · rw [String.toList_append]
    exact List.forall_mem_append.mpr ⟨h.noBlank, fun d hd => (hsuffix d hd).2⟩

theorem IsNameWord.normalName_eq {name : String} (h : IsNameWord name) :
    normalName name = Text.lowercase name := by
  rw [normalName, Text.trimmed_of_noBlank h.noBlank]

/-- A name that begins with the reserved characters and goes on may be registered, unless it joins a
capital sigma. -/
theorem Registrable.iff_not_joinsSigma (hword : IsNameWord (reserved ++ suffix))
    (hmore : suffix ≠ "") : Registrable (Text.lowercase reserved) (reserved ++ suffix) ↔
      Text.joinsSigma reserved.toList suffix.toList = false := by
  rw [Registrable, hword.normalName_eq, Text.lowercase_prefix_iff]
  constructor
  · rintro ⟨hjoins, -⟩
    exact hjoins
  · intro hjoins
    refine ⟨hjoins, fun hsame => ?_, isName_lowercase hword.isName⟩
    -- The small form of what follows is not empty.
    have hsplit : ¬ Text.JoinsSigma [] reserved.toList suffix.toList := by
      rw [← Text.joinsSigma_iff, hjoins]
      exact Bool.false_ne_true
    have hfollows : suffix.toList ≠ [] := by simpa using hmore
    have hlength := congrArg (List.length ∘ String.toList) hsame
    simp only [Function.comp_apply, Text.lowercase, String.toList_ofList, String.toList_append,
      Text.lowerFrom_append hsplit, List.length_append] at hlength
    have hnone : Text.lowerFrom (reserved.toList.reverse ++ []) suffix.toList ≠ [] :=
      Text.lowerFrom_ne_nil hfollows
    exact hnone (List.eq_nil_of_length_eq_zero (by omega))

namespace Registry
variable {r : Registry} {name : String}

/-- Under a name without the reserved characters nothing is found. -/
theorem Orderly.lookup?_eq_none (h : r.Orderly)
    (hmissing : ¬ r.reserved.toList <+: (normalName name).toList) : r.lookup? name = none := by
  cases hlookup : r.lookup? name with
  | none => rfl
  | some d =>
    obtain ⟨hnormal, hbegins, -⟩ := h.of_find? hlookup
    rw [hnormal] at hbegins
    exact absurd hbegins hmissing

/-- A type whose name may be registered is registered, and its name is found. -/
theorem exists_lookup?_attempt (g : Registration) (hname : Registrable r.reserved g.name) :
    ∃ r' d, g.attempt r = (.ok (), r') ∧ r'.reserved = r.reserved ∧ r'.lookup? g.name = some d ∧
      d.name = normalName g.name ∧ (r.lookup? g.name = none → d = g.descriptor) := by
  have hgoes := g.attempt_goes r
  generalize g.attempt r = outcome at hgoes
  cases hgoes with
  | refused hrefused => exact absurd hname hrefused.not_registrable
  | @taken d _ hfind =>
    refine ⟨r, d, rfl, rfl, hfind, name_of_find? hfind, fun hfree => ?_⟩
    cases hfind.symm.trans hfree
  | added _ hfree =>
    refine ⟨r.add g, g.descriptor, rfl, rfl, ?_, rfl, fun _ => rfl⟩
    rw [lookup?, find?_add, hfree, Option.none_or, if_pos rfl]

end Registry

/-- **Reserved characters can be used**, unless a name joins a capital sigma at their end. If they
are a name without blanks, every name that begins with them and goes on without blanks is a name in
small letters, too, and a type is registered under it whatever was done with the registry: it is
stored in small letters, with the reserved characters in front, and found. But if the reserved
characters end in a capital sigma that ends a word, and the word goes on in the name, the name is
refused for lack of the reserved characters, and nothing is ever found under it. -/
theorem usable_unless_sigma_joined (hreserved : IsNameWord reserved) (hmore : suffix ≠ "")
    (hsuffix : ∀ c ∈ suffix.toList, isNameChar c = true ∧ Text.isBlank c = false)
    (hname : g.name = reserved ++ suffix) :
    let r := Registry.ofActions reserved actions
    isName (Text.lowercase g.name) = true ∧
    (Text.joinsSigma reserved.toList suffix.toList = false →
      ∃ r' d, g.attempt r = (.ok (), r') ∧ r'.reserved = r.reserved ∧ r'.lookup? g.name = some d ∧
        d.name = Text.lowercase g.name ∧ r'.reserved.toList <+: d.name.toList ∧
        (r.lookup? g.name = none → d = g.descriptor)) ∧
    (Text.joinsSigma reserved.toList suffix.toList = true →
      g.attempt r = (.error (.missingPrefix (Text.lowercase g.name) r.reserved), r) ∧
        r.lookup? g.name = none) := by
  intro r
  have hword : IsNameWord g.name := hname ▸ hreserved.append hsuffix
  have hr : r.reserved = Text.lowercase reserved := Registry.reserved_ofActions reserved actions
  have horderly : r.Orderly := .ofActions reserved actions
  refine ⟨isName_lowercase hword.isName, fun hjoins => ?_, fun hjoins => ?_⟩
  · have hregistrable : Registrable r.reserved g.name := by
      rw [hr, hname]
      exact (Registrable.iff_not_joinsSigma (hname ▸ hword) hmore).mpr hjoins
    obtain ⟨r', d, hattempt, hkept, hlookup, hd, hfirst⟩ :=
      Registry.exists_lookup?_attempt g hregistrable
    refine ⟨r', d, hattempt, hkept, hlookup, hd.trans hword.normalName_eq, ?_, hfirst⟩
    rw [hkept, hd]
    exact hregistrable.1
  · have hmissing : ¬ r.reserved.toList <+: (normalName g.name).toList := by
      rw [hr, hword.normalName_eq, hname, Text.lowercase_prefix_iff, hjoins]
      exact Bool.false_ne_true.symm
    refine ⟨?_, horderly.lookup?_eq_none hmissing⟩
    rw [← hword.normalName_eq]
    exact Registration.goes_iff.mpr (.refused (.missingPrefix hmissing))

end

/-- A sigma that is followed by a hyphen in the reserved characters is joined by nothing. -/
theorem usable_unless_sigma_joined_hyphen :
    let g : Registration := ⟨"xΣ-Box", "", TextComponent.blueprint, true⟩
    IsNameWord "xΣ-" ∧ "Box" ≠ "" ∧
    (∀ c ∈ "Box".toList, isNameChar c = true ∧ Text.isBlank c = false) ∧
    ∃ r' d, g.attempt (Registry.withReserved "xΣ-") = (.ok (), r') ∧
      r'.lookup? "xΣ-Box" = some d ∧ d.name = "xς-box" ∧ r'.reserved = "xς-" := by
  intro g
  have hreserved : IsNameWord "xΣ-" := isNameWord_of_all (by decide) (by decide)
  have hsuffix : ∀ c ∈ "Box".toList, isNameChar c = true ∧ Text.isBlank c = false :=
    all_isNameChar_iff.mp (by decide)
  have hname : g.name = "xΣ-" ++ "Box" := by decide
  obtain ⟨-, husable, -⟩ := @usable_unless_sigma_joined _ _ [] g hreserved (by decide) hsuffix hname
  obtain ⟨r', d, hattempt, hkept, hlookup, hname, -⟩ := husable (by decide +kernel)
  refine ⟨hreserved, by decide, hsuffix, r', d, hattempt, hlookup, hname.trans ?_, hkept.trans ?_⟩
  · decide +kernel
  · decide +kernel

/-- A name is refused that begins with the reserved characters as they were given, since they end in
a capital sigma and the word goes on. -/
theorem refused_behind_sigma :
    let g : Registration := ⟨"aΣb", "", TextComponent.blueprint, true⟩
    IsNameWord "aΣ" ∧ g.name = "aΣ" ++ "b" ∧
    (∀ c ∈ "b".toList, isNameChar c = true ∧ Text.isBlank c = false) ∧
    isName (Text.lowercase g.name) = true ∧
    (g.attempt (Registry.withReserved "aΣ")).1 = .error (.missingPrefix "aσb" "aς") := by
  intro g
  have hname : Text.lowercase "aΣb" = "aσb" := by decide +kernel
  have hreserved : (Registry.withReserved "aΣ").reserved = "aς" := by decide +kernel
  have hnormal : normalName "aΣb" = "aσb" := by decide +kernel
  have hword : IsNameWord "aΣ" := isNameWord_of_all (by decide) (by decide)
  refine ⟨hword, by decide, all_isNameChar_iff.mp (by decide), by decide +kernel, ?_⟩
  rw [← hnormal, ← hreserved]
  exact congrArg Prod.fst (Registration.goes_iff.mpr
    (.refused (.missingPrefix (by decide +kernel))))

end TagWeave
