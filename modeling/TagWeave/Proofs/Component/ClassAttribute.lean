import TagWeave.Proofs.Component.Merging
import TagWeave.Proofs.Markup.ClassEdits

/-!
# Classes written and read back

The text of classes is read as the same classes, unless a token holds an ogham space mark
(`ClassSet.parse_write_iff`). Such tokens do not come from a text
(`ClassSet.isNameWord_of_addWords`), so in the class attribute of an element they can only be those
of the setup (`unbroken_mergedClasses_iff`). The opening tag gives the classes back if besides their
text is not respelled (`ClassSet.parse_normalValue_iff`).
-/

namespace TagWeave

open AttributeSet (normalValue)

theorem isNameWord_iff {name : String} (h : isName name = true) :
    IsNameWord name ↔ oghamSpace ∉ name.toList := by
  constructor
  · intro hword hmem
    have hblank := hword.noBlank _ hmem
    exact absurd hblank (by decide)
  · intro hout
    refine ⟨h, fun c hc => Bool.eq_false_iff.mpr fun hblank => ?_⟩
    obtain ⟨_, _, htext, -, hchars⟩ := isName_iff.mp h
    exact hout (eq_oghamSpace (hchars c (htext ▸ hc)) hblank ▸ hc)

namespace ClassSet

/-- No token holds an ogham space mark. -/
def Unbroken (classes : ClassSet) : Prop := ∀ token ∈ classes.tokens, oghamSpace ∉ token.toList

instance {classes : ClassSet} : Decidable classes.Unbroken :=
  inferInstanceAs (Decidable (∀ token ∈ classes.tokens, oghamSpace ∉ token.toList))

variable {classes result : ClassSet} {text : String}

theorem Named.unbroken_iff (h : classes.Named) :
    classes.Unbroken ↔ ∀ token ∈ classes.tokens, IsNameWord token :=
  forall₂_congr fun token htoken => (isNameWord_iff (h token htoken)).symm

/-! ## The text of classes -/

/-- What comes from a text is one word. -/
theorem isNameWord_of_addWords (h : classes.addWords text = .ok result) :
    ∀ token ∈ result.tokens, token ∈ classes.tokens ∨ IsNameWord token := by
  intro token htoken
  rw [eq_of_addWords h, tokens_addTokens, List.mem_append] at htoken
  refine htoken.imp_right fun hfresh => ?_
  have hleading := (mem_fresh.mp hfresh).1
  obtain ⟨word, hword, rfl⟩ := List.mem_map.mp ((List.takeWhile_sublist _).subset hleading)
  have hname := (isTrimmedName_of_mem_leadingNames hleading).isName
  rw [trimmed_of_mem_wordsOf hword] at hname ⊢
  exact ⟨hname, noBlank_of_mem_wordsOf hword⟩

theorem unbroken_of_parse (h : parse text = .ok classes) : classes.Unbroken := by
  refine (named_parse h).unbroken_iff.mpr fun token htoken => ?_
  exact (isNameWord_of_addWords h token htoken).resolve_left List.not_mem_nil

theorem wordsOf_write (h : ∀ token ∈ classes.tokens, IsNameWord token) :
    wordsOf classes.write = classes.tokens := by
  have hwords : ∀ word ∈ classes.tokens.map String.toList,
      word ≠ [] ∧ ∀ c ∈ word, Text.isBlank c = false :=
    List.forall_mem_map.mpr fun token htoken => ⟨(h token htoken).ne_nil, (h token htoken).noBlank⟩
  have htext : classes.write.toList = [' '].intercalate (classes.tokens.map String.toList) :=
    String.toList_intercalate
  rw [wordsOf, htext, Text.words_intercalate hwords, List.map_map]
  exact (List.map_congr_left fun _ _ => String.ofList_toList).trans (List.map_id _)

/-- The text of classes is read as the same classes exactly if each of them is one word. -/
theorem parse_write_iff (h : classes.Named) :
    parse classes.write = .ok classes ↔ classes.Unbroken := by
  refine ⟨unbroken_of_parse, fun hunbroken => ?_⟩
  have hwords : wordsOf classes.write = classes.tokens :=
    wordsOf_write (h.unbroken_iff.mp hunbroken)
  have hnames : ∀ word ∈ wordsOf classes.write, isName word = true := hwords ▸ h
  rw [parse, addWords_of_names hnames, hwords]
  refine congrArg Except.ok (eq_of_tokens ?_)
  rw [tokens_foldl_insert, empty, List.nil_append, eraseDups_of_nodup classes.nodup]

/-- The same for the text as an opening tag gives it back. -/
theorem parse_normalValue_iff (h : classes.Named) :
    parse (normalValue classes.write) = .ok classes ↔
      ¬ Respelled classes.write ∧ classes.Unbroken := by
  by_cases hwrite : Respelled classes.write
  · -- Truth is read as no class at all, falsehood as one in small letters.
    refine iff_of_false (fun hparse => ?_) fun hboth => hboth.1 hwrite
    rcases hwrite with htrue | ⟨hfalse, hne⟩
    · have hnone : parse "" = .ok empty := by decide
      rw [normalValue, if_pos htrue, hnone] at hparse
      cases hparse
      exact absurd htrue (by decide)
    · have htrue : ¬ Text.lowercase classes.write = "true" := by
        rw [hfalse]
        decide
      have hone : parse "false" = .ok (empty.insert "false") := by decide +kernel
      rw [normalValue, if_neg htrue, if_pos hfalse, hone] at hparse
      cases hparse
      exact hne (by decide)
  · rw [normalValue_eq_self_iff.mpr hwrite, parse_write_iff h, and_iff_right hwrite]

end ClassSet

/-! ## The class attribute of an element -/

variable {container : Container} {setup : Setup} {site attributes : AttributeSet}
  {merged : ClassSet} {id : String}

/-- Only the classes of the setup may hold what breaks them. -/
theorem unbroken_mergedClasses_iff (h : mergedClasses container setup site = .ok merged) :
    merged.Unbroken ↔ setup.classes.Unbroken := by
  unfold mergedClasses at h
  obtain ⟨_, -, h⟩ := exists_of_bind_eq_ok h
  obtain ⟨first, hfirst, h⟩ := exists_of_bind_eq_ok h
  obtain ⟨second, hsecond, h⟩ := exists_of_bind_eq_ok h
  cases h
  have hread : ∀ token ∈ second.tokens, oghamSpace ∉ token.toList := by
    intro token htoken
    rcases ClassSet.isNameWord_of_addWords hsecond token htoken with hmem | hword
    · exact ClassSet.unbroken_of_parse hfirst token hmem
    · exact (isNameWord_iff hword.isName).mp hword
  have htokens : (second.union setup.classes).tokens =
      second.tokens ++ second.fresh setup.classes.tokens := ClassSet.tokens_foldl_fresh
  unfold ClassSet.Unbroken
  rw [htokens, List.forall_mem_append, and_iff_right hread]
  constructor
  · intro hfresh token htoken
    by_cases hmem : token ∈ second.tokens
    · exact hread token hmem
    · exact hfresh token (ClassSet.mem_fresh.mpr ⟨htoken, hmem⟩)
  · intro hsetup token htoken
    exact hsetup token (ClassSet.mem_fresh.mp htoken).1

/-- **Classes are read back from their text** exactly if no token holds an ogham space mark. This is
so also for the class attribute of an element, whose classes are put together from several sets:
only the classes of the setup count. What is read from the opening tag gives them back if besides it
does not respell their text. -/
theorem classes_read_back_iff {classes : ClassSet} (h : classes.Reached) :
    (ClassSet.parse classes.write = .ok classes ↔ classes.Unbroken) ∧
    ∀ container setup site id attributes, setup.classes = classes →
      mergeAttributes container setup site id = .ok attributes →
      ∃ merged, mergedClasses container setup site = .ok merged ∧
        attributes.get? "class" = (if merged.isEmpty then none else some merged.write) ∧
        (ClassSet.parse merged.write = .ok merged ↔ classes.Unbroken) ∧
        ((∀ e ∈ setup.attributes.entries, isName e.1 = true) →
          (∀ e ∈ site.entries, isName e.1 = true) →
          ∀ tag, ∃ read, readOpening? tag (openingTag tag attributes) = some read ∧
            (ClassSet.parse ((read.lookup "class").getD "") = .ok merged ↔
              ¬ Respelled merged.write ∧ classes.Unbroken)) := by
  have hnamed : classes.Named := fun token htoken => (h.isTrimmedName token htoken).isName
  refine ⟨ClassSet.parse_write_iff hnamed, ?_⟩
  rintro container setup site id attributes rfl hattributes
  obtain ⟨_, merged, _, -, hmerged, heq, -⟩ := mergeAttributes_eq_ok hattributes
  have hmergedNamed : merged.Named := named_mergedClasses hmerged hnamed
  refine ⟨merged, hmerged, ?_, ?_, fun hsetup hsite tag => ?_⟩
  · rw [heq, get?_elementAttributes_class]
  · rw [ClassSet.parse_write_iff hmergedNamed, unbroken_mergedClasses_iff hmerged]
  · obtain ⟨merged', hmerged', hread⟩ := exists_merged hattributes hnamed hsetup hsite
    cases hmerged.symm.trans hmerged'
    refine ⟨_, hread.readOpening?, ?_⟩
    have hvalue :
        (attributes.normal.entries.lookup "class").getD "" = normalValue merged.write := by
      rw [hread.lookup_class]
      split
      · rename_i hnone
        rw [ClassSet.write_eq_empty hnone]
        decide
      · rfl
    rw [hvalue, ClassSet.parse_normalValue_iff hmergedNamed, unbroken_mergedClasses_iff hmerged]

/-- A container whose classes are put together from two texts. -/
def badge : Container where
  classes := "a b"
  attributes := "class='c a'"

/-- Classes of a container, of an attribute and of a setup are read back together. -/
theorem classes_read_back_iff_badge : ∃ classes attributes read, classes.Reached ∧
    mergeAttributes badge { classes := classes } .empty "x" = .ok attributes ∧
    readOpening? "div" (openingTag "div" attributes) = some read ∧
    (ClassSet.parse ((read.lookup "class").getD "")).toOption.map ClassSet.tokens =
      some ["a", "b", "c", "d"] := by
  let classes : ClassSet := ⟨["d", "b"], by decide⟩
  have hparse : ClassSet.parse "d b" = .ok classes := by decide +kernel
  have hmerged : mergedClasses badge { classes := classes } .empty =
      .ok ⟨["a", "b", "c", "d"], by decide⟩ := by
    decide +kernel
  have hdone :
      (mergeAttributes badge { classes := classes } .empty "x").toOption.isSome = true := by
    decide +kernel
  have hreached : classes.Reached := .parse hparse
  have hunbroken : classes.Unbroken := by decide
  cases hattributes : mergeAttributes badge { classes := classes } .empty "x" with
  | error e =>
    rw [hattributes] at hdone
    cases hdone
  | ok attributes =>
    obtain ⟨-, helement⟩ := classes_read_back_iff hreached
    obtain ⟨merged, hclasses, -, -, htag⟩ := helement badge _ _ _ _ rfl hattributes
    obtain ⟨read, hread, hback⟩ := htag (List.forall_mem_nil _) (List.forall_mem_nil _) "div"
    cases hmerged.symm.trans hclasses
    have hwrite : ¬ Respelled (ClassSet.write ⟨["a", "b", "c", "d"], by decide⟩) := by
      unfold Respelled
      decide +kernel
    refine ⟨classes, attributes, read, hreached, hattributes, hread, ?_⟩
    rw [hback.mpr ⟨hwrite, hunbroken⟩]
    rfl

/-- A token with an ogham space mark is read as two, or its second half is no name. -/
theorem broken_by_ogham_space : ∃ classes other parts, ClassSet.Reached classes ∧
    ClassSet.Reached other ∧ classes.tokens = ["a\u1680b"] ∧ other.tokens = ["a\u1680-b"] ∧
    ClassSet.parse classes.write = .ok parts ∧ parts.tokens = ["a", "b"] ∧
    ClassSet.parse other.write = .error (.invalidClass "-b") := by
  let added (token : String) : ClassSet := (ClassSet.Edit.run .empty (.addTokens [token])).2
  have hadded (token : String) : ClassSet.Reached (added token) := .edit .empty _ nofun
  refine ⟨added "a\u1680b", added "a\u1680-b", ⟨["a", "b"], by decide⟩, hadded _, hadded _, ?_⟩
  decide +kernel

end TagWeave
