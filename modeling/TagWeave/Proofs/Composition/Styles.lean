import Mathlib.Data.List.Induction
import TagWeave.Proofs.Composition.Cycles
import TagWeave.Proofs.Registry.FirstRegistrations

/-!
# Style texts

A composition that succeeds returns the style text of each name of which a component is reached,
once and in the order in which the names are first used (`Request.styles_of_first_use`). The style
text is looked up in the middle of the recursion, before the content of the component is written, so
the order is that of the document.
-/

namespace TagWeave

/-- The style texts of visits: one for each name that has a style text, in the order of the first
visits. -/
structure StylesOf (visits : List Visit) (styles : List (String × String)) : Prop where
  nodup : (styles.map Prod.fst).Nodup
  mem_iff : ∀ name css, (name, css) ∈ styles ↔
    ∃ v ∈ visits, v.descriptor.name = name ∧ v.descriptor.css? = some css
  ordered : styles.Pairwise fun a b => ∃ v ∈ visits, v.descriptor.name = a.1 ∧
    ∀ w ∈ visits, w.descriptor.name = b.1 → v.Before w

namespace StylesOf
variable {visits : List Visit} {styles : List (String × String)} {v : Visit}

theorem nil : StylesOf [] [] where
  nodup := List.nodup_nil
  mem_iff _ _ := by simp
  ordered := .nil

/-- One more visit does not change the order of the names there are. -/
theorem ordered_snoc (h : StylesOf visits styles) (hlast : ∀ u ∈ visits, u.Before v) :
    styles.Pairwise fun a b => ∃ u ∈ visits ++ [v], u.descriptor.name = a.1 ∧
      ∀ w ∈ visits ++ [v], w.descriptor.name = b.1 → u.Before w := by
  refine h.ordered.imp ?_
  rintro a b ⟨u, hu, hname, hbefore⟩
  refine ⟨u, List.mem_append_left _ hu, hname, ?_⟩
  exact List.forall_mem_append.mpr
    ⟨hbefore, List.forall_mem_singleton.mpr fun _ => hlast u hu⟩

/-- A visit that has no style text, or whose name has been used, adds nothing. -/
theorem snoc_of_mem (h : StylesOf visits styles) (hlast : ∀ u ∈ visits, u.Before v)
    (hmem : ∀ css, v.descriptor.css? = some css → (v.descriptor.name, css) ∈ styles) :
    StylesOf (visits ++ [v]) styles where
  nodup := h.nodup
  mem_iff name css := by
    rw [h.mem_iff]
    constructor
    · rintro ⟨u, hu, hstyle⟩
      exact ⟨u, List.mem_append_left _ hu, hstyle⟩
    · rintro ⟨u, hu, rfl, hcss⟩
      rcases List.mem_append.mp hu with hu | hu
      · exact ⟨u, hu, rfl, hcss⟩
      · obtain rfl := List.mem_singleton.mp hu
        exact (h.mem_iff _ _).mp (hmem css hcss)
  ordered := h.ordered_snoc hlast

/-- The first visit of a name that has a style text adds it behind the others. -/
theorem snoc_of_new {css : String} (h : StylesOf visits styles)
    (hlast : ∀ u ∈ visits, u.Before v) (hcss : v.descriptor.css? = some css)
    (hnew : ∀ u ∈ visits, u.descriptor.name ≠ v.descriptor.name) :
    StylesOf (visits ++ [v]) (styles ++ [(v.descriptor.name, css)]) where
  nodup := by
    rw [List.map_append, List.nodup_append]
    refine ⟨h.nodup, List.nodup_singleton _, ?_⟩
    intro name hname _ hv heq
    subst heq
    obtain ⟨⟨name, css'⟩, hmem, rfl⟩ := List.mem_map.mp hname
    obtain ⟨u, hu, hsame, -⟩ := (h.mem_iff _ _).mp hmem
    exact hnew u hu (hsame.trans (List.mem_singleton.mp hv))
  mem_iff name css' := by
    rw [List.mem_append, h.mem_iff, List.mem_singleton]
    constructor
    · rintro (⟨u, hu, hstyle⟩ | heq)
      · exact ⟨u, List.mem_append_left _ hu, hstyle⟩
      · cases heq
        exact ⟨v, List.mem_append_right _ (List.mem_singleton_self v), rfl, hcss⟩
    · rintro ⟨u, hu, rfl, hcss'⟩
      rcases List.mem_append.mp hu with hu | hu
      · exact .inl ⟨u, hu, rfl, hcss'⟩
      · obtain rfl := List.mem_singleton.mp hu
        cases hcss.symm.trans hcss'
        exact .inr rfl
  ordered := by
    refine List.pairwise_append.mpr ⟨h.ordered_snoc hlast, List.pairwise_singleton _ _, ?_⟩
    rintro ⟨name, css'⟩ hmem b hb
    obtain rfl := List.mem_singleton.mp hb
    obtain ⟨u, hu, hname, -⟩ := (h.mem_iff _ _).mp hmem
    refine ⟨u, List.mem_append_left _ hu, hname, ?_⟩
    exact List.forall_mem_append.mpr
      ⟨fun w hw heq => absurd heq (hnew w hw), List.forall_mem_singleton.mpr fun _ => hlast u hu⟩

theorem isSome_lookup_iff (h : StylesOf visits styles) {name : String} :
    (styles.lookup name).isSome = true ↔
      ∃ v ∈ visits, v.descriptor.name = name ∧ v.descriptor.css?.isSome := by
  rw [List.lookup_isSome_iff]
  constructor
  · rintro ⟨⟨key, css⟩, hmem, hkey⟩
    obtain rfl := eq_of_beq hkey
    obtain ⟨v, hv, hname, hcss⟩ := (h.mem_iff _ _).mp hmem
    exact ⟨v, hv, hname, Option.isSome_of_mem hcss⟩
  · rintro ⟨v, hv, hname, hsome⟩
    obtain ⟨css, hcss⟩ := Option.isSome_iff_exists.mp hsome
    exact ⟨(name, css), (h.mem_iff _ _).mpr ⟨v, hv, hname, hcss⟩, beq_self_eq_true name⟩

/-- What one component does to the style texts. Visits of one name have one style text. -/
theorem snoc (h : StylesOf visits styles) (hlast : ∀ u ∈ visits, u.Before v)
    (hsame : ∀ u ∈ visits, u.descriptor.name = v.descriptor.name →
      u.descriptor.css? = v.descriptor.css?) :
    StylesOf (visits ++ [v]) (withStyle styles v.descriptor) := by
  unfold withStyle
  cases hcss : v.descriptor.css? with
  | none => exact h.snoc_of_mem hlast fun css hcss' => nomatch hcss.symm.trans hcss'
  | some css =>
    dsimp only
    split
    · rename_i hused
      obtain ⟨u, hu, hname, -⟩ := h.isSome_lookup_iff.mp hused
      refine h.snoc_of_mem hlast fun css' hcss' => ?_
      exact (h.mem_iff _ _).mpr ⟨u, hu, hname, (hsame u hu hname).trans hcss'⟩
    · rename_i hunused
      refine h.snoc_of_new hlast hcss fun u hu hname => hunused ?_
      have hcssu : u.descriptor.css?.isSome := by
        rw [hsame u hu hname, hcss]
        rfl
      exact h.isSome_lookup_iff.mpr ⟨u, hu, hname, hcssu⟩

theorem of_visits (hordered : visits.Pairwise Visit.Before)
    (hsame : ∀ u ∈ visits, ∀ v ∈ visits, u.descriptor.name = v.descriptor.name →
      u.descriptor.css? = v.descriptor.css?) :
    StylesOf visits (visits.foldl (fun styles v => withStyle styles v.descriptor) []) := by
  -- From the back: the last visit comes behind all others, so it adds nothing or its own name last.
  induction visits using List.reverseRecOn with
  | nil => exact nil
  | append_singleton visits v ih =>
    obtain ⟨hvisits, -, hlast⟩ := List.pairwise_append.mp hordered
    have hlast : ∀ u ∈ visits, u.Before v := fun u hu => hlast u hu v (List.mem_singleton_self v)
    have hv : v ∈ visits ++ [v] := List.mem_append_right _ (List.mem_singleton_self v)
    rw [List.foldl_append, List.foldl_cons, List.foldl_nil]
    refine (ih hvisits ?_).snoc hlast ?_
    · exact fun u hu w hw => hsame u (List.mem_append_left _ hu) w (List.mem_append_left _ hw)
    · exact fun u hu => hsame u (List.mem_append_left _ hu) v hv

end StylesOf

theorem Descriptor.css?_eq_some_iff {d : Descriptor} {css : String} :
    d.css? = some css ↔ (Text.trimmed css).isEmpty = false ∧ d.css = css := by
  unfold css?
  constructor
  · intro h
    split at h
    · cases h
    · rename_i hblank
      obtain rfl := Option.some.inj h
      exact ⟨Bool.eq_false_iff.mpr hblank, rfl⟩
  · rintro ⟨hblank, rfl⟩
    rw [hblank]
    rfl

/-! ## The types of the components that are reached -/

section
variable {r r' r₁ : Registry} {root : Data} {tag : Tag} {d : Descriptor} {p : Placement}
  {visits : List Visit} {v : Visit}

theorem Registry.Makes.uncounted (h : r.Makes root tag d p r₁) : r₁.uncounted = r.uncounted := by
  obtain ⟨-, -, hid⟩ := h
  exact (congrArg (·.2.uncounted) hid).symm.trans uncounted_identify

/-- Up to its counter, the type of a component is what its name has stood for from the beginning. -/
theorem Identified.find?_uncounted (h : Identified r visits r') (hv : v ∈ visits) :
    r.uncounted.find? (normalName v.tag.name) = some { v.descriptor with count := 0 } := by
  induction h with
  | nil => cases hv
  | cons hmakes _ ih =>
    rcases List.mem_cons.mp hv with rfl | hv
    · rw [Registry.find?_uncounted, hmakes.find?, Option.map_some]
    · rw [← hmakes.uncounted]
      exact ih hv

theorem Identified.name_eq (h : Identified r visits r') (hv : v ∈ visits) :
    v.descriptor.name = normalName v.tag.name := by
  have hname := Registry.name_of_find? (h.find?_uncounted hv)
  exact hname

theorem Identified.css?_eq {u : Visit} (h : Identified r visits r') (hu : u ∈ visits)
    (hv : v ∈ visits) (hname : u.descriptor.name = v.descriptor.name) :
    u.descriptor.css? = v.descriptor.css? := by
  have hfind := h.find?_uncounted hu
  rw [← h.name_eq hu, hname, h.name_eq hv, h.find?_uncounted hv] at hfind
  have hcss := congrArg Descriptor.css? (Option.some.inj hfind)
  exact hcss.symm

end

/-! ## Requests -/

namespace Request
variable {q : Request} {r r' : Registry} {result : Composition}

theorem stylesAfter_eq_foldl {nodes : List Node} {visits : List Visit}
    (h : visits.map Visit.part = (occurrencesOf nodes).map Occurrence.part) :
    stylesAfter [] nodes = visits.foldl (fun styles v => withStyle styles v.descriptor) [] := by
  have hfold := congrArg (List.foldl (fun styles part => withStyle styles part.1) []) h
  rw [List.foldl_map, List.foldl_map] at hfold
  exact hfold.symm

/-- The style texts are those of the components that are reached. -/
theorem exists_styles (h : q.run r = (.ok result, r')) : ∃ visits r₁,
    Listing (q.Reaches r) visits ∧ r₁.uncounted = r.uncounted ∧ Identified r₁ visits r' ∧
      StylesOf visits result.styles := by
  obtain ⟨visits, r₁, hlist, huncounted, hids, hstyles⟩ : ∃ visits r₁,
      Listing (q.Reaches r) visits ∧ r₁.uncounted = r.uncounted ∧ Identified r₁ visits r' ∧
      result.styles = visits.foldl (fun styles v => withStyle styles v.descriptor) [] := by
    cases q with
    | component composer c root =>
      obtain ⟨frame, nodes, hwrites, rfl⟩ := Composer.compose_ok_iff.mp h
      obtain ⟨visits, hlist, hids, hparts⟩ := hwrites.listing
      exact ⟨visits, _, listing_component hlist, Registry.uncounted_identifyRoot, hids,
        stylesAfter_eq_foldl hparts⟩
    | fragment composer text root =>
      obtain ⟨body, nodes, hbody, -, hnodes, rfl⟩ := Composer.composeFragment_ok_iff.mp h
      obtain ⟨visits, hlist, hids, hparts⟩ := hnodes.listing
      exact ⟨visits, r, listing_fragment hbody hlist.listing, rfl, hids,
        stylesAfter_eq_foldl hparts⟩
  refine ⟨visits, r₁, hlist, huncounted, hids, ?_⟩
  rw [hstyles]
  exact .of_visits hlist.ordered fun u hu v hv => hids.css?_eq hu hv

/-- **The style texts are exact.** A composition that succeeds returns one style text for each name
of which a component is reached by its tag, in any spelling and at any depth, if the style text is
not blank: the one that the first registration of the name brought. Each name comes before all those
that are first used further on in the order of the document, where a component stands before those
in its content. -/
theorem styles_of_first_use (reserved : String) (actions : List Action) (q : Request)
    {result : Composition} {r' : Registry}
    (hrun : q.run (Registry.ofActions reserved actions) = (.ok result, r')) :
    let r := Registry.ofActions reserved actions
    (result.styles.map Prod.fst).Nodup ∧
    (∀ name css, (name, css) ∈ result.styles ↔
      (∃ v, q.Reaches r v ∧ normalName v.tag.name = name) ∧
        (Text.trimmed css).isEmpty = false ∧
        ∃ g, Registry.firstRegistration? r.reserved actions name = some g ∧ g.css = css) ∧
    result.styles.Pairwise fun a b => ∃ v, q.Reaches r v ∧ normalName v.tag.name = a.1 ∧
      ∀ w, q.Reaches r w → normalName w.tag.name = b.1 → v.Before w := by
  intro r
  obtain ⟨visits, r₁, hlist, huncounted, hids, hstyles⟩ := exists_styles hrun
  have hfirst : ∀ v ∈ visits, ∃ g, v.descriptor.css = g.css ∧
      Registry.firstRegistration? r.reserved actions (normalName v.tag.name) = some g := by
    intro v hv
    have hfind := hids.find?_uncounted hv
    rw [huncounted, Registry.find?_ofActions] at hfind
    obtain ⟨g, hg, hdescriptor⟩ := Option.map_eq_some_iff.mp hfind
    have hcss := congrArg Descriptor.css hdescriptor
    exact ⟨g, hcss.symm, hg⟩
  refine ⟨hstyles.nodup, fun name css => ?_, hstyles.ordered.imp ?_⟩
  · rw [hstyles.mem_iff]
    constructor
    · rintro ⟨v, hv, rfl, hcss⟩
      obtain ⟨hblank, rfl⟩ := Descriptor.css?_eq_some_iff.mp hcss
      obtain ⟨g, hgcss, hg⟩ := hfirst v hv
      rw [hids.name_eq hv]
      exact ⟨⟨v, (hlist.mem_iff v).mp hv, rfl⟩, hblank, g, hg, hgcss.symm⟩
    · rintro ⟨⟨v, hreaches, rfl⟩, hblank, g, hg, rfl⟩
      have hv := (hlist.mem_iff v).mpr hreaches
      obtain ⟨g', hgcss, hg'⟩ := hfirst v hv
      cases hg.symm.trans hg'
      exact ⟨v, hv, hids.name_eq hv, Descriptor.css?_eq_some_iff.mpr ⟨hblank, hgcss⟩⟩
  · rintro a b ⟨v, hv, hname, hbefore⟩
    refine ⟨v, (hlist.mem_iff v).mp hv, (hids.name_eq hv).symm.trans hname, ?_⟩
    intro w hw hname'
    have hw := (hlist.mem_iff w).mpr hw
    exact hbefore w hw ((hids.name_eq hw).trans hname')

/-- The text is used first within the box and then by itself in another spelling; its second
registration does not count, and the line has no style text. -/
theorem styles_of_first_use_boxes :
    let actions : List Action := [.registerAs "ick-text" "t" TextComponent.blueprint,
      .registerAs "ick-line" " " (Declared.blueprint { tag := "hr" } "" []),
      .registerAs "ick-box" "b" (Declared.blueprint {} "<ick-text/>" []),
      .registerAs "Ick-Text" "u" TextComponent.blueprint]
    let q : Request := .fragment ⟨verbatim, {}⟩ "<ick-line/><ick-box/><ick-TEXT/><ick-box/>" .null
    ∃ result r', q.run (Registry.ofActions "ick-" actions) = (.ok result, r') ∧
      result.styles = [("ick-box", "b"), ("ick-text", "t")] ∧
      ∃ v, q.Reaches (Registry.ofActions "ick-" actions) v ∧ normalName v.tag.name = "ick-box" ∧
        ∀ w, q.Reaches (Registry.ofActions "ick-" actions) w →
          normalName w.tag.name = "ick-text" → v.Before w := by
  intro actions q
  have hstyles : (q.run (Registry.ofActions "ick-" actions)).1.toOption.map Composition.styles =
      some [("ick-box", "b"), ("ick-text", "t")] := by
    decide +kernel
  obtain ⟨outcome, r', hrun⟩ : ∃ outcome r', q.run (Registry.ofActions "ick-" actions) =
      (outcome, r') := ⟨_, _, rfl⟩
  rw [hrun] at hstyles
  cases outcome with
  | error f => cases hstyles
  | ok result =>
    have hstyles := Option.some.inj hstyles
    obtain ⟨-, -, hordered⟩ := styles_of_first_use "ick-" actions q hrun
    rw [hstyles] at hordered
    refine ⟨result, r', hrun, hstyles, ?_⟩
    exact (List.pairwise_cons.mp hordered).1 _ (List.mem_singleton_self _)

end Request

end TagWeave
