import TagWeave.Proofs.Markup.TagForm

/-!
# Names and blanks

Names are taken without the blanks at their ends (`IsTrimmedName`), but inside they may hold one
kind of blank, since the ranges of names run across the ogham space mark (`eq_oghamSpace`).
-/

namespace TagWeave

/-- A name without blanks at its ends. -/
structure IsTrimmedName (name : String) : Prop where
  isName : isName name = true
  trimmed : Text.trimmed name = name

instance {name : String} : Decidable (IsTrimmedName name) :=
  decidable_of_iff (isName name = true ∧ Text.trimmed name = name)
    ⟨fun h => ⟨h.1, h.2⟩, fun h => ⟨h.isName, h.trimmed⟩⟩

theorem isTrimmedName_trimmed {text : String} (h : isName (Text.trimmed text) = true) :
    IsTrimmedName (Text.trimmed text) := ⟨h, Text.trimmed_trimmed text⟩

/-- The ogham space mark. -/
def oghamSpace : Char := '\u1680'

/-- No other blank can stand in a name. -/
theorem eq_oghamSpace {c : Char} (hname : isNameChar c = true) (hblank : Text.isBlank c = true) :
    c = oghamSpace := by
  simp only [isNameChar, isNameStart, Text.Ranges.contains, nameStarts, nameContinues,
    List.any_cons, List.any_nil, Bool.or_eq_true, Bool.and_eq_true, decide_eq_true_eq,
    Bool.false_eq_true, or_false] at hname
  simp only [Text.isBlank, Text.blanks, Text.Ranges.contains, List.any_cons, List.any_nil,
    Bool.or_eq_true, Bool.and_eq_true, decide_eq_true_eq, Bool.false_eq_true, or_false] at hblank
  have hcode : c.toNat = 0x1680 := by omega
  exact Char.toNat_inj.mp hcode

end TagWeave
