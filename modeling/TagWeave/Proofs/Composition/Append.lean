import TagWeave.Proofs.Composition.Output
import TagWeave.Proofs.Markup.ScanAppend

/-!
# Composing a text that is put together from two

If templates are left as they are and no tag opens across the seam, a text put together from two is
composed like the two one after the other (`Composer.composeFragment_append`). The tokens on either
side of the seam expand separately (`Composer.Expands.join`), and where a tag stands in a text does
not matter (`Composer.Expands.shift`).
-/

namespace TagWeave

open Text (byteSize)

/-! ## Tokens around the seam -/

section
variable {a b done more : List Token} {tag : Tag}

theorem joinTokens_append_tag :
    joinTokens (done ++ .tag tag :: more) b = done ++ .tag tag :: joinTokens more b := by
  induction done with
  | nil => exact joinTokens_tag
  | cons token done ih =>
    rw [List.cons_append, joinTokens_of_ne_nil (by simp), ih, List.cons_append]

theorem joinTokens_tag_append :
    joinTokens a (done ++ .tag tag :: more) = joinTokens a done ++ .tag tag :: more := by
  fun_induction joinTokens a done with
  | case1 => rfl
  | case2 => rfl
  | case3 token tokens done hrun ih =>
    -- Only a last literal run may be merged, and `hrun` says that no run follows it.
    rcases tokens with _ | ⟨next, tokens⟩
    · rcases token with text | tag'
      · rcases done with _ | ⟨text' | tag', done⟩
        · rfl
        · exact absurd rfl (hrun text text' done rfl rfl)
        · rfl
      · rw [joinTokens_tag, ih, List.cons_append]
    · rw [joinTokens_of_ne_nil (List.cons_ne_nil next tokens), ih, List.cons_append]

end

namespace Composer
variable {composer : Composer} {depth n : Nat} {r r' r₁ r₂ : Registry} {root : Data}
  {tokens a b : List Token} {nodes na nb : List Node} {tag : Tag} {trail : Trail} {e : ComposeError}

theorem Expands.shift (h : composer.Expands depth r root tokens nodes r₁) :
    composer.Expands depth r root (tokens.map (Token.shift n)) nodes r₁ := by
  induction tokens generalizing r nodes with
  | nil => exact h
  | cons token tokens ih =>
    cases h with
    | literal hrest => exact .literal (ih hrest)
    | unregistered hlookup hstrict hrest => exact .unregistered hlookup hstrict (ih hrest)
    | component hlookup hmade hid hwrites hrest =>
      exact .component hlookup hmade hid hwrites (ih hrest)

theorem TagFails.shift (h : composer.TagFails depth r root tag trail e r₁) :
    composer.TagFails depth r root (tag.shift n) trail e r₁ := by
  cases h with
  | unregistered hlookup hstrict => exact .unregistered hlookup hstrict
  | fieldBinding hlookup hmade => exact .fieldBinding hlookup hmade
  | component hlookup hmade hid hfails => exact .component hlookup hmade hid hfails

/-- Tokens that expand one after the other expand joined, to nodes that come to the same. -/
theorem Expands.join (ha : composer.Expands depth r root a na r₁)
    (hb : composer.Expands depth r₁ root b nb r₂) :
    ∃ nodes, composer.Expands depth r root (joinTokens a b) nodes r₂ ∧
      htmlOf nodes = htmlOf na ++ htmlOf nb ∧
      occurrencesOf nodes = occurrencesOf na ++ occurrencesOf nb := by
  fun_induction joinTokens a b generalizing r na with
  | case1 =>
    cases ha
    exact ⟨nb, hb, by simp [htmlOf], by simp [occurrencesOf]⟩
  | case2 x y more =>
    cases ha with | literal hnil => ?_
    cases hnil
    cases hb with | literal hrest => ?_
    exact ⟨_, hrest.literal, by simp [htmlOf, Node.html, String.append_assoc],
      by simp [occurrencesOf, Node.occurrences]⟩
  | case3 token tokens more hrun ih =>
    obtain ⟨node, rest, r', rfl, hhead, hrest⟩ := ha.uncons
    obtain ⟨nodes, hnodes, hhtml, hoccurrences⟩ := ih hrest hb
    exact ⟨node :: nodes, hhead _ _ _ hnodes, by simp [htmlOf, hhtml, String.append_assoc],
      by simp [occurrencesOf, hoccurrences]⟩

/-- All tags of a text expand; then the text fails at most by its syntax. -/
def TagsExpand (composer : Composer) (depth : Nat) (r : Registry) (root : Data) (text : String) :
    Prop :=
  ∃ nodes r', composer.Expands depth r root (scan r.reserved text).tokens nodes r'

/-! ## Texts -/

section
variable {first second : String} {before : List Node}

theorem tokens_append (hscan : (scan r.reserved first).error? = none)
    (hseam : SeamFree r.reserved first second) :
    (scan r.reserved (first ++ second)).tokens = joinTokens (scan r.reserved first).tokens
      ((scan r.reserved second).tokens.map (Token.shift (byteSize first.toList))) := by
  rw [scan_append hscan hseam]
  rfl

theorem error?_append (hscan : (scan r.reserved first).error? = none)
    (hseam : SeamFree r.reserved first second) :
    (scan r.reserved (first ++ second)).error? =
      (scan r.reserved second).error?.map (TagError.shift (byteSize first.toList)) := by
  rw [scan_append hscan hseam]
  rfl

theorem FailsWithin.append_left (hscan : (scan r.reserved first).error? = none)
    (hseam : SeamFree r.reserved first second)
    (h : composer.FailsWithin depth r root first before trail e r') :
    composer.FailsWithin depth r root (first ++ second) before trail e r' := by
  cases h with
  | tagSyntax herror => exact nomatch hscan.symm.trans herror
  | tag htokens hbefore hfails =>
    have hwhole := tokens_append hscan hseam
    rw [htokens, joinTokens_append_tag] at hwhole
    exact .tag hwhole hbefore hfails

theorem Expands.append_text (hscan : (scan r.reserved first).error? = none)
    (hseam : SeamFree r.reserved first second)
    (hfirst : composer.Expands depth r root (scan r.reserved first).tokens na r₁)
    (hsecond : composer.Expands depth r₁ root (scan r₁.reserved second).tokens nb r₂) :
    ∃ nodes, composer.Expands depth r root (scan r.reserved (first ++ second)).tokens nodes r₂ ∧
      htmlOf nodes = htmlOf na ++ htmlOf nb ∧
      occurrencesOf nodes = occurrencesOf na ++ occurrencesOf nb := by
  rw [hfirst.reserved] at hsecond
  rw [tokens_append hscan hseam]
  exact hfirst.join hsecond.shift

/-- A failure of the second text is one of the whole, behind what the first comes to. An error in
the syntax of the second text itself is moved along. -/
theorem FailsWithin.append_right (hscan : (scan r.reserved first).error? = none)
    (hseam : SeamFree r.reserved first second)
    (hfirst : composer.Expands depth r root (scan r.reserved first).tokens na r₁)
    (h : composer.FailsWithin depth r₁ root second before trail e r') :
    ∃ nodes e', composer.FailsWithin depth r root (first ++ second) nodes trail e' r' ∧
      htmlOf nodes = htmlOf na ++ htmlOf before ∧
      (¬ composer.TagsExpand depth r₁ root second → e' = e) ∧
      (composer.TagsExpand depth r₁ root second → ∃ error, e = .tagSyntax error second ∧
        e' = .tagSyntax (error.shift (byteSize first.toList)) (first ++ second)) := by
  cases h with
  | tagSyntax herror hbefore =>
    obtain ⟨nodes, hnodes, hhtml, -⟩ := hfirst.append_text hscan hseam hbefore
    refine ⟨nodes, _, .tagSyntax ?_ hnodes, hhtml, fun hnot => absurd ⟨_, _, hbefore⟩ hnot,
      fun _ => ⟨_, rfl, rfl⟩⟩
    rw [error?_append hscan hseam, ← hfirst.reserved, herror]
    rfl
  | tag htokens hbefore hfails =>
    obtain ⟨nodes, hnodes, hhtml, -⟩ := hfirst.join (hbefore.shift (n := byteSize first.toList))
    have hwhole := tokens_append hscan hseam
    rw [← hfirst.reserved, htokens, List.map_append, List.map_cons, Token.shift,
      joinTokens_tag_append, hfirst.reserved] at hwhole
    refine ⟨nodes, e, .tag hwhole hnodes hfails.shift, hhtml, fun _ => rfl, ?_⟩
    rintro ⟨_, _, hall⟩
    rw [htokens] at hall
    exact (hall.not_tagFails hbefore hfails).elim

end

end Composer

/-! ## Styles -/

section
variable {seen acc : List (String × String)} {d : Descriptor} {nodes na nb : List Node}

/-- The style texts of components that have none in `seen`. -/
def newStyles (seen styles : List (String × String)) : List (String × String) :=
  styles.filter fun style => (seen.lookup style.1).isNone

theorem lookup_newStyles {name : String} (h : seen.lookup name = none) :
    (newStyles seen acc).lookup name = acc.lookup name := by
  induction acc with
  | nil => rfl
  | cons style acc ih =>
    obtain ⟨key, css⟩ := style
    rw [newStyles, List.filter_cons, List.lookup_cons]
    by_cases hkey : name = key
    · subst hkey
      simp [h]
    · split
      · rw [List.lookup_cons, beq_false_of_ne hkey]
        exact ih
      · rw [beq_false_of_ne hkey]
        exact ih

/-- Styles that are added bring all of their names. -/
theorem mem_names_newStyles {name : String} : name ∈ (seen ++ newStyles seen acc).map Prod.fst ↔
    name ∈ seen.map Prod.fst ∨ name ∈ acc.map Prod.fst := by
  rw [List.map_append, List.mem_append]
  refine ⟨Or.imp_right ?_, fun h => ?_⟩
  · exact fun h => List.map_subset _ List.filter_sublist.subset h
  · cases hseen : seen.lookup name with
    | some css =>
      obtain ⟨before, after, hsplit, -⟩ := List.lookup_eq_some_iff.mp hseen
      exact .inl (List.mem_map_of_mem (hsplit ▸ List.mem_append_cons_self))
    | none =>
      refine h.imp_right fun hacc => ?_
      obtain ⟨style, hstyle, rfl⟩ := List.mem_map.mp hacc
      exact List.mem_map_of_mem (List.mem_filter.mpr ⟨hstyle, by rw [hseen]; rfl⟩)

theorem withStyle_append :
    withStyle (seen ++ newStyles seen acc) d = seen ++ newStyles seen (withStyle acc d) := by
  unfold withStyle
  cases d.css? with
  | none => rfl
  | some css =>
    dsimp only
    cases hseen : seen.lookup d.name with
    | some found =>
      rw [List.lookup_append, hseen]
      simp only [Option.some_or, Option.isSome_some, if_true]
      split
      · rfl
      · simp [newStyles, hseen]
    | none =>
      rw [List.lookup_append, hseen, Option.none_or, lookup_newStyles hseen]
      split
      · rfl
      · simp [newStyles, hseen]

theorem foldl_withStyle_append {occurrences : List Occurrence} :
    occurrences.foldl (fun styles o => withStyle styles o.descriptor)
      (seen ++ newStyles seen acc) =
    seen ++ newStyles seen
      (occurrences.foldl (fun styles o => withStyle styles o.descriptor) acc) := by
  induction occurrences generalizing acc with
  | nil => rfl
  | cons o occurrences ih => rw [List.foldl_cons, withStyle_append, ih, List.foldl_cons]

theorem stylesAfter_eq :
    stylesAfter seen nodes = seen ++ newStyles seen (stylesAfter [] nodes) := by
  have hnone : newStyles seen [] = [] := rfl
  rw [stylesAfter, stylesAfter, ← foldl_withStyle_append, hnone, List.append_nil]

/-- A composition followed by another. -/
def Composition.append (first second : Composition) : Composition where
  id? := first.id?
  html := first.html ++ second.html
  instances := first.instances ++ second.instances
  styles := first.styles ++ newStyles first.styles second.styles

theorem Composition.ofNodes_append {id? : Option String}
    (hhtml : htmlOf nodes = htmlOf na ++ htmlOf nb)
    (hoccurrences : occurrencesOf nodes = occurrencesOf na ++ occurrencesOf nb) :
    ofNodes id? (htmlOf nodes) nodes =
      (ofNodes id? (htmlOf na) na).append (ofNodes id? (htmlOf nb) nb) := by
  have hstyles : stylesAfter [] nodes = stylesAfter (stylesAfter [] na) nb := by
    simp only [stylesAfter, hoccurrences, List.foldl_append]
  simp only [ofNodes, append, hhtml, hstyles, instancesOf, hoccurrences, List.map_append,
    Composition.mk.injEq, true_and]
  exact stylesAfter_eq

end

/-! ## Fragments -/

namespace Composer
variable {settings : ComposeSettings} {r r' : Registry} {root : Data} {text written : String}
  {result : Composition} {e : ComposeError}

/-- A composer that leaves templates as they are. -/
def plain (settings : ComposeSettings) : Composer := ⟨verbatim, settings⟩

theorem plain_ok_iff : (plain settings).composeFragment r text root = (.ok result, r') ↔
    ∃ nodes, (scan r.reserved text).error? = none ∧
      (plain settings).Expands 1 r root (scan r.reserved text).tokens nodes r' ∧
      result = .ofNodes none (htmlOf nodes) nodes := by
  rw [composeFragment_ok_iff]
  constructor
  · rintro ⟨_, nodes, hbody, hrest⟩
    cases hbody
    exact ⟨nodes, hrest⟩
  · rintro ⟨nodes, hrest⟩
    exact ⟨text, nodes, rfl, hrest⟩

theorem plain_error_iff : (plain settings).composeFragment r text root = (.error ⟨e, written⟩, r') ↔
    ∃ before trail, (plain settings).FailsWithin 1 r root text before trail e r' ∧
      written = htmlOf before ++ trail.html := by
  rw [composeFragment_error_iff]
  constructor
  · rintro (⟨_, hbody, _⟩ | ⟨_, before, trail, hbody, hrest⟩)
    · cases hbody
    · cases hbody
      exact ⟨before, trail, hrest⟩
  · rintro ⟨before, trail, hrest⟩
    exact .inr ⟨text, before, trail, rfl, hrest⟩

/-- Two texts without a tag across the seam are composed like one after the other. If the first
fails, the whole fails so. If both succeed, the whole comes to both. If only the second fails, the
whole fails behind what the first came to, with the same error; but an error in the syntax of the
second text itself becomes one of the whole text, further on. -/
theorem composeFragment_append (settings : ComposeSettings) (root : Data) {r : Registry}
    {first second : String} (hscan : (scan r.reserved first).error? = none)
    (hseam : SeamFree r.reserved first second) :
    (∀ f r₁, (plain settings).composeFragment r first root = (.error f, r₁) →
      (plain settings).composeFragment r (first ++ second) root = (.error f, r₁)) ∧
    ∀ c₁ r₁, (plain settings).composeFragment r first root = (.ok c₁, r₁) →
      (∀ c₂ r₂, (plain settings).composeFragment r₁ second root = (.ok c₂, r₂) →
        (plain settings).composeFragment r (first ++ second) root = (.ok (c₁.append c₂), r₂)) ∧
      ∀ f r₂, (plain settings).composeFragment r₁ second root = (.error f, r₂) →
        ∃ e, (plain settings).composeFragment r (first ++ second) root =
            (.error ⟨e, c₁.html ++ f.written⟩, r₂) ∧
          (¬ (plain settings).TagsExpand 1 r₁ root second → e = f.error) ∧
          ((plain settings).TagsExpand 1 r₁ root second → ∃ error,
            f.error = .tagSyntax error second ∧
            e = .tagSyntax (error.shift (byteSize first.toList)) (first ++ second)) := by
  refine ⟨fun ⟨e, written⟩ r₁ hfirst => ?_, fun c₁ r₁ hfirst =>
    ⟨fun c₂ r₂ hsecond => ?_, fun ⟨e, written⟩ r₂ hsecond => ?_⟩⟩
  · obtain ⟨before, trail, hfails, rfl⟩ := plain_error_iff.mp hfirst
    exact plain_error_iff.mpr ⟨before, trail, hfails.append_left hscan hseam, rfl⟩
  · obtain ⟨na, -, hna, rfl⟩ := plain_ok_iff.mp hfirst
    obtain ⟨nb, hscan₂, hnb, rfl⟩ := plain_ok_iff.mp hsecond
    obtain ⟨nodes, hnodes, hhtml, hoccurrences⟩ := hna.append_text hscan hseam hnb
    refine plain_ok_iff.mpr
      ⟨nodes, ?_, hnodes, (Composition.ofNodes_append hhtml hoccurrences).symm⟩
    rw [error?_append hscan hseam, ← hna.reserved, hscan₂]
    rfl
  · obtain ⟨na, -, hna, rfl⟩ := plain_ok_iff.mp hfirst
    obtain ⟨before, trail, hfails, rfl⟩ := plain_error_iff.mp hsecond
    obtain ⟨nodes, e', hwhole, hhtml, hsame, htop⟩ := hfails.append_right hscan hseam hna
    refine ⟨e', plain_error_iff.mpr ⟨nodes, trail, hwhole, ?_⟩, hsame, htop⟩
    rw [hhtml, String.append_assoc]
    rfl

/-- A registry of no types. -/
def vacant : Registry := { Registry.withReserved "" with reserved := "x-" }

/-- The first text ends with a bracket that opens no tag, the second with a tag without a name. -/
theorem composeFragment_append_emptyTagName :
    (scan "x-" "<x-b/>c<").error? = none ∧ SeamFree "x-" "<x-b/>c<" "y<x-/>" ∧
    (plain {}).composeFragment vacant ("<x-b/>c<" ++ "y<x-/>") .null =
      (.error ⟨.tagSyntax (.emptyTagName ⟨9, 13⟩) "<x-b/>c<y<x-/>",
        unregisteredComment (normalName "x-b") ++ "c<" ++ "y"⟩, vacant) := by
  have hread : readTag ['x', '-'] 0 ['b', '/', '>', 'c', '<'] =
    .ok (⟨"x-b", [], ⟨0, 6⟩⟩, ['c', '<']) := by decide +kernel
  have hrun : scanFrom ['x', '-'] 6 ['c', '<'] = ⟨[.literal "c<"], none⟩ := by decide +kernel
  have hfirst : scan "x-" "<x-b/>c<" = ⟨[.tag ⟨"x-b", [], ⟨0, 6⟩⟩, .literal "c<"], none⟩ :=
    (scanFrom_of_tag (by rfl) hread).trans (congrArg (Scan.cons _) hrun)
  have hfail : readTag ['x', '-'] 1 ['/', '>'] = .error (.emptyTagName ⟨1, 5⟩) := by decide +kernel
  have herror : scanFrom ['x', '-'] 1 ['<', 'x', '-', '/', '>'] =
    ⟨[], some (.emptyTagName ⟨1, 5⟩)⟩ := scanFrom_of_error (by rfl) hfail
  have hsecond : scan "x-" "y<x-/>" = ⟨[.literal "y"], some (.emptyTagName ⟨1, 5⟩)⟩ :=
    (scanFrom_of_run (by rfl)).trans (congrArg (Scan.cons _) herror)
  have hscan : (scan "x-" "<x-b/>c<").error? = none := by rw [hfirst]
  have hseam : SeamFree "x-" "<x-b/>c<" "y<x-/>" := by
    intro run hrun
    rw [hfirst] at hrun
    cases hrun
    decide
  have hna : (plain {}).Expands 1 vacant .null (scan "x-" "<x-b/>c<").tokens
      [.unregistered (normalName "x-b"), .literal "c<"] vacant := by
    rw [hfirst]
    exact .unregistered rfl rfl (.literal .nil)
  have hnb : (plain {}).Expands 1 vacant .null (scan "x-" "y<x-/>").tokens
      [.literal "y"] vacant := by
    rw [hsecond]
    exact .literal .nil
  obtain ⟨e, hwhole, -, htop⟩ := ((composeFragment_append {} .null hscan hseam).2 _ _
    (plain_ok_iff.mpr ⟨_, hscan, hna, rfl⟩)).2 _ _
    (plain_error_iff.mpr ⟨_, .silent, .tagSyntax (congrArg Scan.error? hsecond) hnb, rfl⟩)
  obtain ⟨error, heq, rfl⟩ := htop ⟨_, _, hnb⟩
  cases heq
  exact ⟨hscan, hseam, hwhole⟩

end Composer

end TagWeave
