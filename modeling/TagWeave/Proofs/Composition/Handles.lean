import TagWeave.Proofs.Component.Element
import TagWeave.Proofs.Composition.Binding
import TagWeave.Proofs.Composition.Output
import TagWeave.Proofs.Markup.Tiling
import TagWeave.Proofs.Registry.Registration

/-!
# Handles and their elements

A composition hands out each component with the id of its element. What can be read of id and
classes from the opening tag of the element is said by `Placement.Handled`, and it holds of all
components of a composition (`Composer.handles_read`): the names of their attributes are names, since
those of a tag have been read, and those that a component sets are names by its type, however its
fields are filled (`Blueprint.WellFormed`).
-/

namespace TagWeave

open AttributeSet (normalValue)

/-! ## Generated ids -/

theorem Text.mem_lowerFrom {c : Char} {text before : List Char} (hform : lowerForm c = [c])
    (hsigma : c ≠ 'Σ') (h : c ∈ text) : c ∈ lowerFrom before text := by
  induction text generalizing before with
  | nil => cases h
  | cons d text ih =>
    unfold lowerFrom
    refine List.mem_append.mpr ?_
    rcases List.mem_cons.mp h with rfl | h
    · left
      rw [if_neg (by simpa using hsigma), hform]
      exact List.mem_singleton_self c
    · exact .inr (ih h)

/-- No generated id is respelled: its hyphen is neither in `true` nor in `false`. -/
theorem not_respelled_numberedId (name : String) (count : Nat) :
    ¬ Respelled (numberedId name count) := by
  have hmem : '-' ∈ (Text.lowercase (numberedId name count)).toList := by
    rw [Text.lowercase, String.toList_ofList]
    refine Text.mem_lowerFrom (by decide) (by decide) ?_
    simp [numberedId]
  rintro (htrue | ⟨hfalse, -⟩)
  · rw [htrue] at hmem
    exact absurd hmem (by decide)
  · rw [hfalse] at hmem
    exact absurd hmem (by decide)

section
variable {r r' : Registry} {d : Descriptor} {c : Component} {setup : Setup} {id : String}

theorem not_respelled_of_identify (hid : r.identify d setup = (id, r'))
    (h : setup.chosenId? = none) : ¬ Respelled id := by
  unfold Registry.identify at hid
  rw [h] at hid
  cases hid
  exact not_respelled_numberedId _ _

theorem not_respelled_identifyRoot (h : c.setup.chosenId? = none) :
    ¬ Respelled (r.identifyRoot c).1 := by
  unfold Registry.identifyRoot Registry.nextIdFor
  rw [h]
  dsimp only
  split
  · exact not_respelled_numberedId _ _
  · exact not_respelled_numberedId _ _

end

/-! ## Names from texts -/

/-- The names of attributes and the classes that a component sets are names. -/
structure Setup.WellFormed (setup : Setup) : Prop where
  names : ∀ e ∈ setup.attributes.entries, isName e.1 = true
  classes : setup.classes.Named

theorem Setup.wellFormed_mk {id? : Option String} {style : Style} :
    Setup.WellFormed ⟨id?, .empty, .empty, style⟩ :=
  ⟨List.forall_mem_nil _, List.forall_mem_nil _⟩

/-- So it is for every component of a type, whatever attributes fill its fields. -/
def Blueprint.WellFormed (b : Blueprint) : Prop :=
  ∀ attributes, (b.filled attributes).setup.WellFormed

/-- What a fresh component sets, and what the fields set, is enough to look at. -/
theorem Blueprint.wellFormed_of_fields {b : Blueprint} (hfresh : b.fresh.setup.WellFormed)
    (hset : ∀ field ∈ b.fields, ∀ c value,
      c.setup.WellFormed → (field.set c value).setup.WellFormed) :
    b.WellFormed :=
  filled_induction (P := (·.setup.WellFormed)) hfresh hset

theorem TextComponent.wellFormed : blueprint.WellFormed :=
  Blueprint.wellFormed_of_fields Setup.wellFormed_mk <| List.forall_mem_singleton.mpr
    fun _ value hc => by cases value <;> exact hc

namespace Registry
variable {r r' : Registry} {d : Descriptor} {c : Component} {name css : String}
  {blueprint : Blueprint}

/-- So it is for all registered types. -/
def WellFormed (r : Registry) : Prop := ∀ entry ∈ r.entries, entry.2.blueprint.WellFormed

namespace WellFormed

theorem of_uncounted (h : r.WellFormed) (heq : r'.uncounted = r.uncounted) : r'.WellFormed := by
  have huncounted {r : Registry} : r.uncounted.WellFormed ↔ r.WellFormed := List.forall_mem_map
  rw [← huncounted, heq, huncounted]
  exact h

theorem of_lookup? (h : r.WellFormed) (hlookup : r.lookup? name = some d) :
    d.blueprint.WellFormed :=
  h _ (mem_entries_of_find? hlookup)

theorem identifyRoot (h : r.WellFormed) : (r.identifyRoot c).2.WellFormed :=
  h.of_uncounted uncounted_identifyRoot

theorem insert (h : r.WellFormed) (hb : blueprint.WellFormed) :
    (r.insert name css blueprint).WellFormed := by
  unfold Registry.insert
  split
  · exact h
  · exact List.forall_mem_append.mpr ⟨h, List.forall_mem_singleton.mpr hb⟩

theorem register (h : r.WellFormed) (hb : blueprint.WellFormed) :
    (r.register name css blueprint).2.WellFormed :=
  register_induction (P := WellFormed) h fun _ _ => h.insert hb

end WellFormed

theorem wellFormed_standard : standard.WellFormed := by
  have hempty : empty.WellFormed := List.forall_mem_nil _
  exact hempty.register TextComponent.wellFormed

end Registry

/-- The attributes of a tag have names. -/
def Token.Named : Token → Prop
  | .literal _ => True
  | .tag t => ∀ e ∈ t.attributes, isName e.1 = true

theorem TagParts.isName_of_mem {parts : List TagPart} (h : TagParts.WellFormed parts) :
    ∀ e ∈ parts.filterMap TagPart.attribute?, isName e.1 = true := by
  induction parts with
  | nil => exact List.forall_mem_nil _
  | cons part parts ih =>
    obtain ⟨hpart, -, hparts⟩ := h
    cases part with
    | blank c => exact ih hparts
    | bare name => exact List.forall_mem_cons.mpr ⟨hpart, ih hparts⟩
    | valued name gap value => exact List.forall_mem_cons.mpr ⟨hpart.1, ih hparts⟩

theorem Tiles.named {reserved : List Char} {pos : Nat} {tokens : List Token}
    {pieces : List (List Char)} (h : Tiles reserved pos tokens pieces) :
    ∀ token ∈ tokens, token.Named := by
  induction h with
  | nil => exact List.forall_mem_nil _
  | literal _ _ _ _ ih => exact List.forall_mem_cons.mpr ⟨trivial, ih⟩
  | tag form _ ih => exact List.forall_mem_cons.mpr ⟨TagParts.isName_of_mem form.parts_wf, ih⟩

theorem named_of_mem_scan {reserved text : String} :
    ∀ token ∈ (scan reserved text).tokens, token.Named := by
  obtain ⟨pieces, rest, -, htiles, -⟩ := scanFrom_tiles reserved.toList 0 text.toList
  exact htiles.named

theorem instantiate_spec {d : Descriptor} {component : Component} {site : AttributeSet} {tag : Tag}
    (h : instantiate d tag = .ok (component, site)) (hd : d.blueprint.WellFormed)
    (htag : ∀ e ∈ tag.attributes, isName e.1 = true) :
    component.setup.WellFormed ∧ ∀ e ∈ site.entries, isName e.1 = true := by
  obtain ⟨rfl, -, hsite⟩ := instantiate_made h
  constructor
  · have hfilled := hd tag.attributes
    unfold Descriptor.made
    cases d.tagId? tag with
    | none => exact hfilled
    | some id => exact ⟨hfilled.names, hfilled.classes⟩
  · intro e he
    have hkept := hsite e.1
    rw [Dictionary.get?_eq_some_iff_mem.mpr he] at hkept
    split at hkept
    · cases hkept
    · exact htag _ (Dictionary.mem_of_lastWritten hkept.symm)

/-- A component whose attributes have names, and whose id is its own or a generated one. -/
structure Placement.WellFormed (p : Placement) : Prop where
  setup : p.component.setup.WellFormed
  site : ∀ e ∈ p.site.entries, isName e.1 = true
  generated : p.component.setup.chosenId? = none → ¬ Respelled p.id

/-! ## Components of a composition -/

/-- What is read from the opening tag of a component's element: the id and the text of the classes
as the writer spells them. They are those of the component, unless the writer respells one of them;
a generated id it never does. -/
def Placement.Handled (p : Placement) (frame : Frame) : Prop :=
  (p.component.setup.chosenId? = none → ¬ Respelled p.id) ∧
  ∀ tag, (p.component.container p.id).element? = some tag → ∃ classes read,
    mergedClasses (p.component.container p.id) p.component.setup p.site = .ok classes ∧
    readOpening? tag frame.opening = some read ∧
    read.lookup "id" = some (normalValue p.id) ∧
    read.lookup "class" = (if classes.isEmpty then none else some (normalValue classes.write)) ∧
    (Found tag frame.opening p.id classes ↔ ¬ Respelled p.id ∧ ¬ Respelled classes.write)

theorem Placement.Framed.handled {p : Placement} {frame : Frame} (h : p.Framed frame)
    (hp : p.WellFormed) : p.Handled frame := by
  refine ⟨hp.generated, fun tag htag => ?_⟩
  have hopening : ∃ attributes, frame.opening = openingTag tag attributes ∧
      mergeAttributes (p.component.container p.id) p.component.setup p.site p.id =
        .ok attributes := by
    cases h with
    | bare hnone => exact nomatch hnone.symm.trans htag
    | void htag' hmerge _ =>
      cases htag'.symm.trans htag
      exact ⟨_, rfl, hmerge⟩
    | element htag' hmerge _ =>
      cases htag'.symm.trans htag
      exact ⟨_, rfl, hmerge⟩
  obtain ⟨attributes, hopening, hmerge⟩ := hopening
  obtain ⟨classes, hclasses, hmerged⟩ :=
    exists_merged hmerge hp.setup.classes hp.setup.names hp.site
  rw [hopening]
  exact ⟨classes, _, hclasses, hmerged.readOpening?, hmerged.lookup_id, hmerged.lookup_class,
    hmerged.found_iff⟩

namespace Composer
variable {composer : Composer}

theorem Writes.framed {depth : Nat} {r r' : Registry} {p : Placement} {frame : Frame}
    {nodes : List Node} (h : composer.Writes depth r p frame nodes r') : p.Framed frame := by
  cases h with
  | void _ hframe _ => exact hframe
  | content _ hframe _ _ _ _ => exact hframe

mutual
theorem Writes.handled {depth : Nat} {r r' : Registry} {p : Placement} {frame : Frame}
    {nodes : List Node} (h : composer.Writes depth r p frame nodes r') (hr : r.WellFormed) :
    ∀ o ∈ occurrencesOf nodes, o.placement.Handled o.frame := by
  match h with
  | .void .. => exact List.forall_mem_nil _
  | .content _ _ _ _ _ hnodes => exact hnodes.handled hr named_of_mem_scan
termination_by structural h

/-- Every component of an expansion can be handled if the attributes of all tags have names. -/
theorem Expands.handled {depth : Nat} {r r' : Registry} {root : Data} {tokens : List Token}
    {nodes : List Node} (h : composer.Expands depth r root tokens nodes r') (hr : r.WellFormed)
    (htokens : ∀ token ∈ tokens, token.Named) :
    ∀ o ∈ occurrencesOf nodes, o.placement.Handled o.frame := by
  match h with
  | .nil => exact List.forall_mem_nil _
  | .literal hrest => exact hrest.handled hr (List.forall_mem_cons.mp htokens).2
  | .unregistered _ _ hrest => exact hrest.handled hr (List.forall_mem_cons.mp htokens).2
  | .component hlookup hmade hid hwrites hrest =>
    obtain ⟨htag, htokens⟩ := List.forall_mem_cons.mp htokens
    obtain ⟨hsetup, hsite⟩ := instantiate_spec hmade (hr.of_lookup? hlookup) htag
    have hr₁ := hr.of_uncounted
      ((congrArg (·.2.uncounted) hid).symm.trans Registry.uncounted_identify)
    have hr₂ := hr₁.of_uncounted hwrites.uncounted
    have hhead := hwrites.framed.handled ⟨hsetup, hsite, not_respelled_of_identify hid⟩
    rw [occurrencesOf, Node.occurrences, List.cons_append]
    exact List.forall_mem_cons.mpr ⟨hhead, List.forall_mem_append.mpr
      ⟨hwrites.handled hr₁, hrest.handled hr₂ htokens⟩⟩
termination_by structural h
end

theorem outermost_wellFormed {r : Registry} {c : Component} {root : Data}
    (hc : c.setup.WellFormed) : (Placement.outermost r c root).WellFormed :=
  ⟨hc, List.forall_mem_nil _, not_respelled_identifyRoot⟩

/-- **Handles lead to their elements.** Whatever the templates come to, the opening tag of every
component's element can be read, and gives the id and the classes as the writer spells them. By
these the component is found if and only if the writer respells neither; a generated id it never
respells. The names of the attributes that components set for themselves have to be names. -/
theorem handles_read (composer : Composer) (root : Data) {r : Registry} (hr : r.WellFormed) :
    (∀ c result r', c.setup.WellFormed → composer.compose r c root = (.ok result, r') →
      ∃ frame nodes,
        composer.Writes 0 (r.identifyRoot c).2 (.outermost r c root) frame nodes r' ∧
        result = .ofNodes (some (r.identifyRoot c).1)
          (frame.opening ++ htmlOf nodes ++ frame.closing) nodes ∧
        (Placement.outermost r c root).Handled frame ∧
        ∀ o ∈ occurrencesOf nodes, o.placement.Handled o.frame) ∧
    ∀ text result r', composer.composeFragment r text root = (.ok result, r') →
      ∃ body nodes, composer.executor text (.ofFragment root) = .ok body ∧
        composer.Expands 1 r root (scan r.reserved body).tokens nodes r' ∧
        result = .ofNodes none (htmlOf nodes) nodes ∧
        ∀ o ∈ occurrencesOf nodes, o.placement.Handled o.frame := by
  refine ⟨fun c result r' hc hrun => ?_, fun text result r' hrun => ?_⟩
  · obtain ⟨frame, nodes, hwrites, rfl⟩ := compose_ok_iff.mp hrun
    exact ⟨frame, nodes, hwrites, rfl, hwrites.framed.handled (outermost_wellFormed hc),
      hwrites.handled hr.identifyRoot⟩
  · obtain ⟨body, nodes, hbody, -, hnodes, rfl⟩ := composeFragment_ok_iff.mp hrun
    exact ⟨body, nodes, hbody, hnodes, rfl, hnodes.handled hr named_of_mem_scan⟩

theorem handles_read_intro : Registry.standard.WellFormed ∧
    (∃ (result : Composition) (frame : Frame) (nodes : List Node),
      result.html = "<span id='intro'>x</span>" ∧
      result = .ofNodes (some "intro") (frame.opening ++ htmlOf nodes ++ frame.closing) nodes ∧
      (Placement.outermost .standard ((TextComponent.ofContent "x").forceId "intro") .null).Handled
        frame) ∧
    ∃ (result : Composition) (nodes : List Node),
      result.html = "<span class='a b' id='intro'>x</span>" ∧ result.ids = ["intro"] ∧
      result = .ofNodes none (htmlOf nodes) nodes ∧
      ∀ o ∈ occurrencesOf nodes, o.placement.Handled o.frame := by
  have hsetup : ((TextComponent.ofContent "x").forceId "intro").setup.WellFormed :=
    Setup.wellFormed_mk
  have hcompose : seen (compose ⟨verbatim, {}⟩ .standard
      ((TextComponent.ofContent "x").forceId "intro") .null) =
        some ("<span id='intro'>x</span>", []) := by
    decide +kernel
  have hfragment : seen (composeFragment ⟨verbatim, {}⟩ .standard
      "<ick-text id=intro class='a b' Content=x/>" .null) =
        some ("<span class='a b' id='intro'>x</span>", ["intro"]) := by
    decide +kernel
  obtain ⟨root, r₁, hroot, hrootHtml, -⟩ := exists_of_seen hcompose
  obtain ⟨result, r₂, hresult, hhtml, hids⟩ := exists_of_seen hfragment
  obtain ⟨hof, hoffragment⟩ := handles_read ⟨verbatim, {}⟩ .null Registry.wellFormed_standard
  obtain ⟨frame, nodes, -, hrootNodes, hhandled, -⟩ := hof _ _ _ hsetup hroot
  obtain ⟨_, nodes', -, -, hnodes, hall⟩ := hoffragment _ _ _ hresult
  exact ⟨Registry.wellFormed_standard, ⟨root, frame, nodes, hrootHtml, hrootNodes, hhandled⟩,
    result, nodes', hhtml, hids, hnodes, hall⟩

/-- A handle whose id spells truth is not found: the id has no value in the markup. -/
theorem not_found_idTrue :
    seen (composeFragment ⟨verbatim, {}⟩ .standard "<ick-text id=True Content=x/>" .null) =
      some ("<span id>x</span>", ["True"]) ∧
    readOpening? "span" "<span id>" = some [("id", "")] ∧
    ¬ Found "span" "<span id>" "True" .empty := by
  have hread : readOpening? "span" "<span id>" = some [("id", "")] := by decide +kernel
  refine ⟨by decide +kernel, hread, ?_⟩
  rintro ⟨read, hfound, hid, -⟩
  rw [hread] at hfound
  cases hfound
  exact absurd hid (by decide)

end Composer

end TagWeave
