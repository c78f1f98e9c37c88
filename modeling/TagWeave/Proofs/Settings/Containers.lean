import TagWeave.Proofs.Component.Merging
import TagWeave.Proofs.Composition.SingleTag
import TagWeave.Settings

/-!
# Containers of declared components

When settings are made into a registry, the attributes and the classes of each container are read.
That does not yet mean that its opening tag can be built (`Declaration.Unbuildable`): the words of a
class attribute are read as classes only then, and the declared style meets the style attribute only
then. Nothing else can go wrong with the container of a component that has taken effect
(`Settings.container_refused_iff`).
-/

namespace TagWeave

open AttributeSet (hasBothQuotes)

/-! ## The registry of settings -/

theorem ok_of_mapError {ε ε' α : Type} {x : Except ε α} {f : ε → ε'} {a : α}
    (h : x.mapError f = .ok a) : x = .ok a := by
  cases x with
  | error e => cases h
  | ok b =>
    cases h
    rfl

namespace Declaration
variable {decl : Declaration} {r r' : Registry}

/-- The registration that a declaration stands for. -/
def registration (decl : Declaration) : Registration :=
  ⟨decl.name, decl.css, decl.blueprint, false⟩

/-- A declaration is checked and then registered under its name. -/
theorem register_eq_ok (h : decl.register r = .ok r') :
    decl.check = .ok () ∧ decl.registration.attempt r = (.ok (), r') := by
  obtain ⟨_, hcheck, hattempt⟩ := exists_of_bind_eq_ok h
  refine ⟨ok_of_mapError hcheck, ?_⟩
  show r.registerAs decl.name decl.css decl.blueprint = _
  split at hattempt
  · rename_i r₁ hregister
    cases hattempt
    exact hregister
  · cases hattempt

theorem check_eq_ok (h : decl.check = .ok ()) :
    ∃ attributes classes, AttributeSet.parse decl.attributes = .ok attributes ∧
      ClassSet.parse decl.classes = .ok classes := by
  unfold check at h
  obtain ⟨attributes, hattributes, h⟩ := exists_of_bind_eq_ok h
  obtain ⟨classes, hclasses, -⟩ := exists_of_bind_eq_ok h
  exact ⟨attributes, classes, hattributes, hclasses⟩

end Declaration

theorem Registry.standard_eq : Registry.standard = .ofActions Registry.defaultReserved
    [.register (Registry.empty.reserved ++ "text") "" TextComponent.blueprint] := rfl

namespace Settings
variable {s : Settings} {decl : Declaration} {r r₀ : Registry}

/-- What is done with the standard registry. -/
def actions (s : Settings) : List Action := s.components.map fun decl => decl.registration.action

/-- All declarations have been checked and registered, one after the other. -/
theorem registry_eq_ok (h : s.registry = .ok r) : r = Registry.standard.after s.actions ∧
    ∀ decl ∈ s.components, decl.check = .ok () ∧ Registrable r.reserved decl.name := by
  unfold registry at h
  unfold actions
  generalize s.components = components at h
  -- From any registry on, since each declaration meets the one that the earlier ones have left.
  generalize Registry.standard = r₀ at h
  induction components generalizing r₀ with
  | nil =>
    cases h
    exact ⟨rfl, List.forall_mem_nil _⟩
  | cons decl components ih =>
    rw [List.foldlM_cons] at h
    obtain ⟨r₁, hdecl, hrest⟩ := exists_of_bind_eq_ok h
    obtain ⟨hcheck, hattempt⟩ := Declaration.register_eq_ok hdecl
    have hafter : decl.registration.action.after r₀ = r₁ := by
      rw [Action.after_of_registration (Action.registration?_action _), hattempt]
    obtain ⟨heq, hcomponents⟩ := ih r₁ hrest
    have hreserved : r.reserved = r₀.reserved := by
      rw [heq, Registry.extends_after.reserved, ← hafter, Action.extends_after.reserved]
    have hname : Registrable r.reserved decl.name := by
      rw [hreserved]
      have hgoes := Registration.goes_iff.mp hattempt
      cases hgoes with
      | taken hname => exact hname
      | added hname => exact hname
    refine ⟨?_, List.forall_mem_cons.mpr ⟨⟨hcheck, hname⟩, hcomponents⟩⟩
    rw [heq, ← hafter]
    rfl

theorem registry_orderly (h : s.registry = .ok r) : r.Orderly := by
  rw [(registry_eq_ok h).1, Registry.standard_eq]
  exact (Registry.Orderly.ofActions _ _).after

/-- The declaration is the first one for its name, which is not that of a built-in component. -/
def TakesEffect (s : Settings) (decl : Declaration) : Prop :=
  ∃ before behind, s.components = before ++ decl :: behind ∧
    Registry.standard.find? (normalName decl.name) = none ∧
    ∀ other ∈ before, normalName other.name ≠ normalName decl.name

theorem TakesEffect.mem (h : s.TakesEffect decl) : decl ∈ s.components := by
  obtain ⟨before, behind, hcomponents, -⟩ := h
  rw [hcomponents]
  exact List.mem_append_cons_self

theorem firstRegistration?_actions (reserved name : String) :
    Registry.firstRegistration? reserved s.actions name =
      (s.components.map Declaration.registration).find? (·.IsFor reserved name) := by
  unfold Registry.firstRegistration? actions
  rw [List.filterMap_map]
  have hsome : Action.registration? ∘ (fun decl : Declaration => decl.registration.action) =
      some ∘ Declaration.registration := by
    funext decl
    exact Action.registration?_action decl.registration
  rw [hsome, List.filterMap_eq_map]

/-- Its name stands for the declared component. -/
theorem TakesEffect.exists_find? (h : s.TakesEffect decl) (hregistry : s.registry = .ok r) :
    ∃ d, r.find? (normalName decl.name) = some d ∧ d.blueprint = decl.blueprint := by
  have hmem := h.mem
  obtain ⟨before, behind, hcomponents, hfree, hfirst⟩ := h
  obtain ⟨rfl, hdecls⟩ := registry_eq_ok hregistry
  have hname := (hdecls decl hmem).2
  rw [Registry.extends_after.reserved] at hname
  have hbefore : (before.map Declaration.registration).find?
      (·.IsFor Registry.standard.reserved (normalName decl.name)) = none := by
    refine List.find?_eq_none.mpr (List.forall_mem_map.mpr fun other hother => ?_)
    simp only [decide_eq_true_eq]
    exact fun hfor => hfirst other hother hfor.2
  have hfor : decide (decl.registration.IsFor Registry.standard.reserved (normalName decl.name)) =
      true := decide_eq_true ⟨hname, rfl⟩
  have hfind : (Registry.standard.after s.actions).uncounted.find? (normalName decl.name) =
      some decl.registration.descriptor := by
    rw [Registry.find?_after, Registry.find?_uncounted, hfree, firstRegistration?_actions,
      hcomponents, List.map_append, List.find?_append, hbefore, List.map_cons, List.find?_cons,
      hfor]
    rfl
  rw [Registry.find?_uncounted] at hfind
  obtain ⟨d, hd, heq⟩ := Option.map_eq_some_iff.mp hfind
  have hblueprint := congrArg Descriptor.blueprint heq
  exact ⟨d, hd, hblueprint⟩

end Settings

/-! ## Opening tags of declared components -/

namespace Declaration

/-- The text of an attribute, empty if there is none. -/
def textOf (attributes : AttributeSet) (name : String) : String := (attributes.get? name).getD ""

/-- What keeps the opening tag from being built although the attributes and the classes can be read:
a word in the class attribute that is no name, or else both kinds of quotes in the declared style
and the style attribute together. -/
inductive Unbuildable (decl : Declaration) : AttributeError → Prop
  | invalidClass : decl.container.element?.isSome → AttributeSet.parse decl.attributes = .ok own →
    (ClassSet.wordsOf (textOf own "class")).find? (!isName ·) = some word →
    Unbuildable decl (.invalidClass word)
  | ambiguousQuotes : decl.container.element?.isSome →
    AttributeSet.parse decl.attributes = .ok own →
    (∀ word ∈ ClassSet.wordsOf (textOf own "class"), isName word = true) →
    hasBothQuotes (decl.style ++ textOf own "style") = true →
    Unbuildable decl
      (.ambiguousQuotes "style" ((Style.ofText decl.style).push (textOf own "style")).text)

variable {decl : Declaration} {id : String} {attributes : AttributeSet}

theorem mergedStyle_eq : mergedStyle decl.container {} attributes =
    (Style.ofText decl.style).push (textOf attributes "style") := by
  show ((Style.ofText decl.style).push "").push (textOf attributes "style") = _
  rw [Style.push_empty]

theorem quotes_style :
    hasBothQuotes ((Style.ofText decl.style).push (textOf attributes "style")).text =
      hasBothQuotes (decl.style ++ textOf attributes "style") := by
  rw [← mergedStyle_eq, quotes_mergedStyle]
  show hasBothQuotes (decl.style ++ "" ++ textOf attributes "style") = _
  rw [String.append_empty]

section
variable {classes : ClassSet} {word : String}
  (hattributes : AttributeSet.parse decl.attributes = .ok attributes)
  (hclasses : ClassSet.parse decl.classes = .ok classes)
include hattributes hclasses

theorem mergedClasses_eq : mergedClasses decl.container {} .empty =
    (classes.addWords (textOf attributes "class")).map fun classes => classes.union .empty := by
  have hmerged : ((Dictionary.empty : AttributeSet).merge .empty true).merge attributes false =
      attributes := Dictionary.empty_merge
  have hparsed : AttributeSet.parse decl.container.attributes = .ok attributes := hattributes
  have hread : ClassSet.parse decl.container.classes = .ok classes := hclasses
  rw [mergedClasses, ok_bind hparsed]
  dsimp only
  rw [ok_bind hread, hmerged]
  unfold textOf
  cases classes.addWords ((attributes.get? "class").getD "") <;> rfl

/-- A class attribute with a word that is no name. -/
theorem mergeAttributes_of_word
    (hword : (ClassSet.wordsOf (textOf attributes "class")).find? (!isName ·) = some word) :
    mergeAttributes decl.container {} .empty id = .error (.invalidClass word) := by
  refine mergeAttributes_of_error ?_
  rw [mergedClasses_eq hattributes hclasses, ClassSet.addWords_of_find? hword]
  rfl

/-- Otherwise only the quotes of the style are looked at. -/
theorem mergeAttributes_of_words (hid : hasBothQuotes id = false)
    (hwords : ∀ word ∈ ClassSet.wordsOf (textOf attributes "class"), isName word = true) :
    ∃ merged, mergeAttributes decl.container {} .empty id =
      (AttributeSet.checkQuotes "style"
        ((Style.ofText decl.style).push (textOf attributes "style")).text).map fun _ => merged := by
  have hmerged : attributes = ((Dictionary.empty : AttributeSet).merge .empty true).merge attributes
      false := Dictionary.empty_merge.symm
  obtain ⟨found, hfound⟩ : ∃ found, mergedClasses decl.container {} .empty = .ok found := by
    rw [mergedClasses_eq hattributes hclasses, ClassSet.addWords_of_names hwords]
    exact ⟨_, rfl⟩
  have hnone : ClassSet.empty.Named := List.forall_mem_nil _
  have hquotes : ∀ e ∈ attributes.entries, hasBothQuotes e.2 = false := fun e he =>
    ((AttributeSet.Obtained.parse hattributes).readable e he).quotes
  refine ⟨elementAttributes attributes id found (mergedStyle decl.container {} attributes), ?_⟩
  rw [mergeAttributes_of_classes hattributes hfound hmerged rfl, ← mergedStyle_eq,
    validate_elementAttributes hquotes hid (named_mergedClasses hfound hnone)]

end

/-- An opening tag can be built for a declared component, or something keeps it from being built. -/
theorem mergeAttributes_cases (hcheck : decl.check = .ok ())
    (helement : decl.container.element?.isSome) (hid : hasBothQuotes id = false) :
    (∃ e, decl.Unbuildable e ∧ mergeAttributes decl.container {} .empty id = .error e) ∨
      (∀ e, ¬ decl.Unbuildable e) ∧
        ∃ merged, mergeAttributes decl.container {} .empty id = .ok merged := by
  obtain ⟨attributes, classes, hattributes, hclasses⟩ := check_eq_ok hcheck
  cases hword : (ClassSet.wordsOf (textOf attributes "class")).find? (!isName ·) with
  | some word =>
    left
    exact ⟨_, .invalidClass helement hattributes hword,
      mergeAttributes_of_word hattributes hclasses hword⟩
  | none =>
    have hwords : ∀ word ∈ ClassSet.wordsOf (textOf attributes "class"), isName word = true := by
      simpa using hword
    obtain ⟨merged, hmerge⟩ := mergeAttributes_of_words hattributes hclasses hid hwords
    unfold AttributeSet.checkQuotes at hmerge
    rw [quotes_style] at hmerge
    cases hboth : hasBothQuotes (decl.style ++ textOf attributes "style") with
    | true =>
      left
      rw [if_pos hboth] at hmerge
      exact ⟨_, .ambiguousQuotes helement hattributes hwords hboth, hmerge⟩
    | false =>
      right
      rw [if_neg (Bool.eq_false_iff.mp hboth)] at hmerge
      refine ⟨?_, merged, hmerge⟩
      intro e he
      cases he with
      | invalidClass _ hattributes' hword' =>
        cases hattributes.symm.trans hattributes'
        cases hword.symm.trans hword'
      | ambiguousQuotes _ hattributes' _ hboth' =>
        cases hattributes.symm.trans hattributes'
        cases hboth.symm.trans hboth'

end Declaration

/-- A generated id has no quotes in it, since a name has none. -/
theorem quotes_numberedId {name : String} (hname : isName name = true) (count : Nat) :
    hasBothQuotes (numberedId name count) = false := by
  refine AttributeSet.quotes_of_not_mem fun hmem => ?_
  rw [← List.mem_reverse, reverse_numberedId] at hmem
  rcases List.mem_append.mp hmem with hdigit | hmem
  · exact absurd (isDigit_of_mem_repr '"' hdigit) (by decide)
  rcases List.mem_cons.mp hmem with hhyphen | hmem
  · exact absurd hhyphen (by decide)
  · exact not_mem_of_isName hname (by decide) (List.mem_reverse.mp hmem)

/-! ## Tags of declared components -/

namespace Settings
open Composer (plain)
variable {s : Settings} {decl : Declaration} {r₀ : Registry} {settings : ComposeSettings}

/-- A new component of a declaration, made from a tag without attributes. -/
def placed (decl : Declaration) (id : String) (root : Data) : Placement :=
  ⟨decl.blueprint.fresh, id, .empty, root⟩

/-- The component is framed exactly if nothing keeps its opening tag from being built. -/
theorem placed_cases (hcheck : decl.check = .ok ()) {id : String} (root : Data)
    (hid : hasBothQuotes id = false) :
    (∃ e, decl.Unbuildable e ∧ ∀ depth r, depth < settings.maxDepth →
      (plain settings).Fails depth r (placed decl id root) .silent (.container id e) r) ∨
    (∀ e, ¬ decl.Unbuildable e) ∧ ∃ frame, (placed decl id root).Framed frame := by
  cases helement : decl.container.element? with
  | none =>
    right
    refine ⟨?_, .bare, .bare helement⟩
    intro e he
    cases he with
    | invalidClass hsome =>
      rw [helement] at hsome
      cases hsome
    | ambiguousQuotes hsome =>
      rw [helement] at hsome
      cases hsome
  | some tag =>
    have hsome : decl.container.element?.isSome := Option.isSome_of_mem helement
    rcases Declaration.mergeAttributes_cases hcheck hsome hid with
      ⟨e, he, hmerge⟩ | ⟨hnone, merged, hmerge⟩
    · exact .inl ⟨e, he, fun depth r hdepth => .container hdepth helement hmerge⟩
    · right
      refine ⟨hnone, ?_⟩
      cases hvoid : isVoidElement tag with
      | true => exact ⟨_, .void helement hmerge hvoid⟩
      | false => exact ⟨_, .element helement hmerge hvoid⟩

/-- A component that has a frame is written, or something in its content fails. -/
theorem placed_outcome {id : String} {root : Data} {frame : Frame} {r : Registry}
    (hdepth : 2 ≤ settings.maxDepth) (hframe : (placed decl id root).Framed frame) :
    (∃ nodes r', (plain settings).Writes 1 r (placed decl id root) frame nodes r') ∨
    ∃ before trail e r',
      (plain settings).FailsWithin 2 r (placed decl id root).component.data decl.body before trail e
        r' ∧
      (plain settings).Fails 1 r (placed decl id root)
        (trail.within ⟨placed decl id root, frame, before⟩) e r' := by
  rcases Composer.place_total (plain settings) 1 (placed decl id root) r with
    ⟨frame', nodes, r', hwrites⟩ | ⟨trail, e, r', hfails⟩
  · left
    have hsame : frame' = frame := by
      cases hwrites with
      | void _ hframe' => exact hframe'.unique hframe
      | content _ hframe' => exact hframe'.unique hframe
    exact ⟨nodes, r', hsame ▸ hwrites⟩
  · right
    have hfails' := hfails
    cases hfails with
    | recursionLimit hlimit => exact absurd hlimit (Nat.not_le_of_lt hdepth)
    | container _ htag hmerge => exact (hframe.not_error htag hmerge).elim
    | template _ _ _ hbody => cases hbody
    | content _ hframe' _ hbody hwithin =>
      cases hbody
      obtain rfl := hframe'.unique hframe
      exact ⟨_, _, e, r', hwithin, hfails'⟩

/-- The bare tag of a declaration that has taken effect is made into a component of it, whose id has
no quotes in it. -/
theorem TakesEffect.exists_makes (h : s.TakesEffect decl) (hregistry : s.registry = .ok r₀)
    (more : List Action) (root : Data) : ∃ d span id r₁,
    (r₀.after more).lookup? (normalName decl.name) = some d ∧ d.blueprint = decl.blueprint ∧
    (r₀.after more).identify d {} = (id, r₁) ∧ hasBothQuotes id = false ∧
    scan (r₀.after more).reserved (bareTag (normalName decl.name)) =
      ⟨[.tag ⟨normalName decl.name, [], span⟩], none⟩ ∧
    (r₀.after more).Makes root ⟨normalName decl.name, [], span⟩ d (placed decl id root) r₁ := by
  have hnormal : normalName (normalName decl.name) = normalName decl.name :=
    normalName_normalName decl.name
  obtain ⟨d₀, hfind₀, hblueprint⟩ := h.exists_find? hregistry
  have hextends : r₀.Extends (r₀.after more) := Registry.extends_after
  obtain ⟨count, hfind⟩ := hextends.find? _ _ hfind₀
  obtain ⟨d, hd⟩ : ∃ d, d = { d₀ with count := count } := ⟨_, rfl⟩
  rw [← hd] at hfind
  have hblueprint : d.blueprint = decl.blueprint := by rw [hd, hblueprint]
  have hname : d.name = normalName decl.name := Registry.name_of_find? hfind
  obtain ⟨-, hregistrable⟩ := (registry_orderly hregistry).after.of_find? hfind
  have hlookup : (r₀.after more).lookup? (normalName decl.name) = some d := by
    rw [Registry.lookup?, hnormal, hfind]
  obtain ⟨span, hscan⟩ := (Respells.refl hnormal hregistrable).scan_bareTag hnormal hregistrable
  obtain ⟨id, r₁, hid⟩ : ∃ id r₁, (r₀.after more).identify d {} = (id, r₁) := ⟨_, _, rfl⟩
  refine ⟨d, span, id, r₁, hlookup, hblueprint, hid, ?_, hscan, ?_⟩
  · have hnumbered : id = numberedId d.name _ := (congrArg Prod.fst hid).symm
    rw [hnumbered, hname]
    exact quotes_numberedId (hnormal ▸ hregistrable.2.2) _
  · have hfresh : instantiate d ⟨normalName decl.name, [], span⟩ =
        .ok (decl.blueprint.fresh, .empty) := by
      rw [instantiate_bare, hblueprint]
    refine .intro ?_ hfresh hid
    rw [hnormal]
    exact hlookup

/-- **What the check of the containers misses.** Let settings be made into a registry, let anything
happen to the registry afterwards, and take a declaration that has taken effect. Its attributes and
its classes have been read. Still its bare tag is refused for its container exactly if a word of its
class attribute is no name or its style has both kinds of quotes; then nothing is written. Otherwise
the component has its frame, and the bare tag is composed, or something in its content fails. -/
theorem container_refused_iff (s : Settings) {r₀ : Registry} {decl : Declaration}
    {settings : ComposeSettings} (hregistry : s.registry = .ok r₀) (heffect : s.TakesEffect decl)
    (hdepth : 2 ≤ settings.maxDepth) (more : List Action) (root : Data) :
    let r := r₀.after more
    let name := normalName decl.name
    (∀ other ∈ s.components, other.check = .ok ()) ∧
    ∃ d id r₁, r.lookup? name = some d ∧ d.blueprint = decl.blueprint ∧
      r.identify d {} = (id, r₁) ∧
      ((∃ e, decl.Unbuildable e ∧ (plain settings).composeFragment r (bareTag name) root =
        (.error ⟨.container id e, ""⟩, r₁)) ∨
      (∀ e, ¬ decl.Unbuildable e) ∧ ∃ frame, (placed decl id root).Framed frame ∧
        ((∃ nodes r', (plain settings).composeFragment r (bareTag name) root =
          (.ok (.ofNodes none (htmlOf [.component d (placed decl id root) frame nodes])
            [.component d (placed decl id root) frame nodes]), r')) ∨
        ∃ before trail e r', (plain settings).FailsWithin 2 r₁ (placed decl id root).component.data
            decl.body before trail e r' ∧
          (plain settings).composeFragment r (bareTag name) root =
            (.error ⟨e, frame.opening ++ htmlOf before ++ trail.html⟩, r'))) := by
  intro r name
  have hdecls := (registry_eq_ok hregistry).2
  refine ⟨fun other hother => (hdecls other hother).1, ?_⟩
  obtain ⟨d, span, id, r₁, hlookup, hblueprint, hid, hquotes, hscan, hmakes⟩ :=
    heffect.exists_makes hregistry more root
  refine ⟨d, id, r₁, hlookup, hblueprint, hid, ?_⟩
  have hcheck := (hdecls decl heffect.mem).1
  rcases placed_cases hcheck root hquotes with ⟨e, he, hfails⟩ | ⟨hnone, frame, hframe⟩
  · left
    exact ⟨e, he, Composer.composeFragment_of_fails rfl hscan hmakes (hfails 1 r₁ hdepth)⟩
  · refine .inr ⟨hnone, frame, hframe, ?_⟩
    rcases placed_outcome hdepth hframe with
      ⟨nodes, r', hwrites⟩ | ⟨before, trail, e, r', hwithin, hfails⟩
    · left
      exact ⟨nodes, r', Composer.composeFragment_of_writes rfl hscan hmakes hwrites⟩
    · right
      refine ⟨before, trail, e, r', hwithin, ?_⟩
      rw [Composer.composeFragment_of_fails rfl hscan hmakes hfails, Trail.html_within]
      rfl

/-- A card with a class attribute of proper names. -/
def card : Declaration where
  name := "ick-Card"
  attributes := "class='a b'"
  style := "top:0"
  body := "c"

/-- Nothing keeps the opening tag of the card from being built, and it is written. -/
theorem container_refused_iff_card :
    ∃ r₀ result r', registry { components := [card] } = .ok r₀ ∧
      TakesEffect { components := [card] } card ∧
      (plain {}).composeFragment r₀ "<ick-card/>" .null = (.ok result, r') ∧
      result.html = "<div class='a b' id='ick-card-0' style='top:0'>c</div>" ∧
      ∀ e, ¬ card.Unbuildable e := by
  have hseen : (registry { components := [card] }).toOption.map (fun r =>
      Composer.seen ((plain {}).composeFragment r "<ick-card/>" .null)) =
      some (some ("<div class='a b' id='ick-card-0' style='top:0'>c</div>", ["ick-card-0"])) := by
    decide +kernel
  have hfree : Registry.standard.find? (normalName card.name) = none :=
    Option.isNone_iff_eq_none.mp (by decide +kernel)
  have heffect : TakesEffect { components := [card] } card :=
    ⟨[], [], rfl, hfree, List.forall_mem_nil _⟩
  have hdepth : 2 ≤ ({} : ComposeSettings).maxDepth := by decide
  have htag : bareTag (normalName card.name) = "<ick-card/>" := by decide +kernel
  cases hregistry : registry { components := [card] } with
  | error e =>
    rw [hregistry] at hseen
    cases hseen
  | ok r₀ =>
    rw [hregistry] at hseen
    obtain ⟨result, r', hrun, hhtml, -⟩ := Composer.exists_of_seen (Option.some.inj hseen)
    obtain ⟨-, d, id, r₁, -, -, -, hcases⟩ :=
      container_refused_iff { components := [card] } hregistry heffect hdepth [] .null
    refine ⟨r₀, result, r', rfl, heffect, hrun, hhtml, ?_⟩
    rcases hcases with ⟨e, -, hfails⟩ | ⟨hnone, -⟩
    · rw [htag] at hfails
      cases hrun.symm.trans hfails
    · exact hnone

/-- A class attribute with a word that is no name. -/
def misnamed : Declaration where
  name := "ick-x"
  attributes := "class=a#b"

/-- Two kinds of quotes that meet only in the style. -/
def misquoted : Declaration where
  name := "ick-y"
  attributes := "style='b:\"\"'"
  style := "a:''"

/-- Both declarations take effect, and no tag of either is ever written. -/
theorem unbuildable_accepted :
    ∃ r₀, registry { components := [misnamed, misquoted] } = .ok r₀ ∧
      TakesEffect { components := [misnamed, misquoted] } misnamed ∧
      TakesEffect { components := [misnamed, misquoted] } misquoted ∧
      2 ≤ ({} : ComposeSettings).maxDepth ∧
      Composer.failure? ((plain {}).composeFragment r₀ "<ick-x/>" .null) =
        some ⟨.container "ick-x-0" (.invalidClass "a#b"), ""⟩ ∧
      Composer.failure? ((plain {}).composeFragment r₀ "<ick-y/>" .null) =
        some ⟨.container "ick-y-0" (.ambiguousQuotes "style" "a:'';b:\"\""), ""⟩ := by
  have hfailures : (registry { components := [misnamed, misquoted] }).toOption.map (fun r =>
      (Composer.failure? ((plain {}).composeFragment r "<ick-x/>" .null),
        Composer.failure? ((plain {}).composeFragment r "<ick-y/>" .null))) =
      some (some ⟨.container "ick-x-0" (.invalidClass "a#b"), ""⟩,
        some ⟨.container "ick-y-0" (.ambiguousQuotes "style" "a:'';b:\"\""), ""⟩) := by
    decide +kernel
  have hfree : ∀ decl ∈ [misnamed, misquoted],
      (Registry.standard.find? (normalName decl.name)).isNone = true := by
    decide +kernel
  have hother : normalName misnamed.name ≠ normalName misquoted.name := by decide +kernel
  obtain ⟨hfirst, hsecond⟩ := List.forall_mem_cons.mp hfree
  cases hregistry : registry { components := [misnamed, misquoted] } with
  | error e =>
    rw [hregistry] at hfailures
    cases hfailures
  | ok r₀ =>
    rw [hregistry] at hfailures
    obtain ⟨hx, hy⟩ := Prod.mk.inj (Option.some.inj hfailures)
    refine ⟨r₀, rfl, ?_, ?_, by decide, hx, hy⟩
    · exact ⟨[], [misquoted], rfl, Option.isNone_iff_eq_none.mp hfirst, List.forall_mem_nil _⟩
    · exact ⟨[misnamed], [], rfl,
        Option.isNone_iff_eq_none.mp (hsecond _ (List.mem_singleton_self _)),
        List.forall_mem_singleton.mpr hother⟩

end Settings

end TagWeave
