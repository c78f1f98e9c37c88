import TagWeave.Markup.Name
import TagWeave.Proofs.Text.Lowercase

/-!
# ASCII letters in either case

A name in normal form is that of every spelling which differs from it in the case of ASCII letters
(`normalName_of_map_toLower`), although the normal form is found by the rules of Unicode. Such a
spelling has the same blanks and is made of characters of names, too.
-/

namespace TagWeave

namespace Text
variable {c : Char} {text small before : List Char}

/-- The small letter of an ASCII capital stands 32 places behind it. Nothing else is changed. -/
theorem toLower_cases (c : Char) : c.toLower = c ∨
    0x41 ≤ c.toNat ∧ c.toNat ≤ 0x5A ∧ c.toLower.toNat = c.toNat + 32 := by
  unfold Char.toLower
  split
  · rename_i hcapital
    have hfirst : 0x41 ≤ c.toNat := UInt32.le_iff_toNat_le.mp hcapital.1
    have hlast : c.toNat ≤ 0x5A := UInt32.le_iff_toNat_le.mp hcapital.2
    have hcode : (c.val + 32).toNat = (c.toNat + 32) % 2 ^ 32 := UInt32.toNat_add ..
    rw [Nat.mod_eq_of_lt (by omega)] at hcode
    exact .inr ⟨hfirst, hlast, hcode⟩
  · exact .inl rfl

theorem isBlank_toLower (c : Char) : isBlank c.toLower = isBlank c := by
  rcases toLower_cases c with h | ⟨hfirst, hlast, hcode⟩
  · rw [h]
  · have houtside (d : Char) (hd : 0x41 ≤ d.toNat ∧ d.toNat ≤ 0x7A) : isBlank d = false := by
      simp only [isBlank, blanks, Ranges.contains, List.any_cons, List.any_nil, Bool.or_false,
        Bool.or_eq_false_iff, Bool.and_eq_false_iff, decide_eq_false_iff_not]
      omega
    rw [houtside c (by omega), houtside c.toLower (by omega)]

theorem stops_map_toLower (h : Stops isBlank (text.map Char.toLower)) : Stops isBlank text := by
  cases text with
  | nil => exact stops_nil
  | cons c text =>
    rw [List.map_cons, stops_cons, isBlank_toLower] at h
    exact stops_cons.mpr h

/-- A character that leads to a small one by its case in ASCII leads there by the table, too. -/
theorem lowerForm_of_toLower (h : lowerForm c.toLower = [c.toLower]) :
    lowerForm c = [c.toLower] := by
  rcases toLower_cases c with hself | ⟨-, hlast, -⟩
  · rw [hself] at h ⊢
    exact h
  · exact if_pos (by omega)

theorem toLower_of_small (h : lowerForm c = [c]) : c.toLower = c := by
  rcases toLower_cases c with hself | ⟨-, hlast, -⟩
  · exact hself
  · have hform : lowerForm c = [c.toLower] := if_pos (by omega)
    exact List.singleton_inj.mp (hform.symm.trans h)

theorem lowerFrom_of_map_toLower (hsmall : ∀ c ∈ text.map Char.toLower, lowerForm c = [c]) :
    lowerFrom before text = text.map Char.toLower := by
  induction text generalizing before with
  | nil => rfl
  | cons c text ih =>
    obtain ⟨hc, htext⟩ := List.forall_mem_cons.mp hsmall
    have hsigma : (c == 'Σ') = false := by
      refine beq_false_of_ne ?_
      rintro rfl
      exact ne_sigma hc rfl
    rw [lowerFrom, ih htext, hsigma, lowerForm_of_toLower hc]
    rfl

end Text

theorem toList_normalName {name : String} :
    (normalName name).toList = Text.lowerFrom [] (Text.trim name.toList) := by
  rw [normalName, Text.lowercase, String.toList_ofList, Text.trimmed, String.toList_ofList]

/-- A name in normal form is the normal form of every spelling that differs from it in the case of
ASCII letters. -/
theorem normalName_of_map_toLower {name spelled : String} (hnormal : normalName name = name)
    (hcase : spelled.toList.map Char.toLower = name.toList) : normalName spelled = name := by
  have htext : Text.lowerFrom [] (Text.trim name.toList) = spelled.toList.map Char.toLower := by
    rw [← toList_normalName, hnormal, hcase]
  obtain ⟨hfront, hback⟩ := Text.stops_strip Text.isBlank name.toList
  have hfront : Text.Stops Text.isBlank (Text.lowerFrom [] (Text.trim name.toList)) :=
    Text.stops_lowerFrom hfront
  have hback : Text.Stops Text.isBlank (Text.lowerFrom [] (Text.trim name.toList)).reverse :=
    Text.stops_reverse_lowerFrom hback
  have hsmall : ∀ c ∈ spelled.toList.map Char.toLower, Text.lowerForm c = [c] := by
    rw [← htext]
    exact fun c => Text.lowerForm_of_mem_lowerFrom
  -- A normal form has no blanks at its ends, and the case of letters makes none.
  have htrim : Text.trim spelled.toList = spelled.toList := by
    refine Text.strip_of_stops (Text.stops_map_toLower (htext ▸ hfront)) ?_
    refine Text.stops_map_toLower ?_
    rw [List.map_reverse, ← htext]
    exact hback
  rw [← String.toList_inj, toList_normalName, htrim, Text.lowerFrom_of_map_toLower hsmall, hcase]

theorem map_toLower_of_normal {name : String} (hnormal : normalName name = name) :
    name.toList.map Char.toLower = name.toList := by
  have hsmall : ∀ c ∈ name.toList, c.toLower = c := by
    rw [← hnormal, toList_normalName]
    exact fun c hc => Text.toLower_of_small (Text.lowerForm_of_mem_lowerFrom hc)
  rw [List.map_congr_left hsmall, List.map_id']

/-- A name may begin with every capital of ASCII. -/
theorem isNameStart_of_toLower {c : Char} (h : isNameStart c.toLower = true) :
    isNameStart c = true := by
  rcases Text.toLower_cases c with hself | ⟨hfirst, hlast, -⟩
  · rwa [hself] at h
  · have hcapitals : ((0x41, 0x5A) : Nat × Nat) ∈ nameStarts := by decide
    exact List.any_eq_true.mpr ⟨_, hcapitals, by simp [hfirst, hlast]⟩

/-- What may stand in a name but not first is no letter. -/
theorem isNameChar_of_toLower {c : Char} (h : isNameChar c.toLower = true) :
    isNameChar c = true := by
  rw [isNameChar, Bool.or_eq_true] at h ⊢
  rcases h with h | h
  · exact .inl (isNameStart_of_toLower h)
  · rcases Text.toLower_cases c with hself | ⟨hfirst, hlast, hcode⟩
    · rw [hself] at h
      exact .inr h
    · simp only [nameContinues, Text.Ranges.contains, List.any_cons, List.any_nil, Bool.or_false,
        Bool.or_eq_true, Bool.and_eq_true, decide_eq_true_eq] at h
      omega

theorem isName_of_map_toLower {name spelled : String} (hname : isName name = true)
    (hcase : spelled.toList.map Char.toLower = name.toList) : isName spelled = true := by
  unfold isName at hname ⊢
  rw [← hcase] at hname
  cases htext : spelled.toList with
  | nil =>
    rw [htext] at hname
    cases hname
  | cons c rest =>
    rw [htext] at hname
    simp only [List.map_cons, Bool.and_eq_true, List.all_map, List.all_eq_true,
      Function.comp] at hname ⊢
    obtain ⟨hfirst, hrest⟩ := hname
    exact ⟨isNameStart_of_toLower hfirst, fun d hd => isNameChar_of_toLower (hrest d hd)⟩

end TagWeave
