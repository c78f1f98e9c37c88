import TagWeave.Component.Declared
import TagWeave.Proofs.Composition.Append
import TagWeave.Proofs.Composition.Depth
import TagWeave.Proofs.Registry.History
import TagWeave.Proofs.Text.Lowercase

/-!
# A component by itself and in a fragment

A component can be composed by itself, or as the only tag of a fragment. In the fragment it is found
by its name and not by its type, it stands one level deeper, and it is handed out with its style
text. Apart from that both come to the same (`Composer.entry_points_agree`): the descriptor and the
id are the same by `Registry.Knows`, and the depth plays no part by `Composer.Writes.deepen` and
`Composer.Fails.deepen`.
-/

namespace TagWeave

/-! ## A text that is one tag -/

/-- The tag of a name, without attributes. -/
def bareTag (name : String) : String := "<" ++ name ++ "/>"

theorem scan_bareTag {reserved name : String} {suffix : List Char} (hname : isName name = true)
    (hsuffix : suffix ≠ []) (htext : name.toList = reserved.toList ++ suffix) :
    ∃ span, scan reserved (bareTag name) = ⟨[.tag ⟨name, [], span⟩], none⟩ := by
  obtain ⟨c, rest, hlist, -, hchars⟩ := isName_iff.mp hname
  rw [← hlist, htext] at hchars
  let form : TagForm :=
    ⟨suffix, [], hsuffix, (List.forall_mem_append.mp hchars).2, trivial, trivial⟩
  have hform : (bareTag name).toList = form.text reserved.toList := by
    show (bareTag name).toList = '<' :: (reserved.toList ++ (suffix ++ ['/', '>']))
    simp [bareTag, htext]
  refine ⟨(form.tag reserved.toList 0).span, ?_⟩
  unfold scan
  rw [hform, scanFrom_form, TagForm.tag, ← htext, String.ofList_toList]
  rfl

theorem instantiate_bare {d : Descriptor} {name : String} {span : Text.Span} :
    instantiate d ⟨name, [], span⟩ = .ok (d.blueprint.fresh, .empty) := rfl

/-! ## A type that is known by its name -/

/-- A type is known by the name of a descriptor, and tags of that name are for it. -/
structure Registry.Knows (r : Registry) (d : Descriptor) : Prop where
  normal : normalName d.name = d.name
  find? : r.find? d.name = some d
  nameOfType : r.nameOfType.lookup d.blueprint.typeName = some d.name

namespace Registry.Knows
variable {r r' : Registry} {d : Descriptor} {raw name css : String} {blueprint : Blueprint}
  {actions : List Action} {ids : List GeneratedId}

theorem lookup? (h : r.Knows d) : r.lookup? (normalName d.name) = some d := by
  unfold Registry.lookup?
  rw [h.normal, h.normal, h.find?]

theorem descriptorFor? (h : r.Knows d) : r.descriptorFor? d.blueprint.fresh = some d := by
  show (r.nameOfType.lookup d.blueprint.typeName).bind r.find? = some d
  rw [h.nameOfType, Option.bind_some, h.find?]

/-- A component of the type has the id that it would have by its tag. -/
theorem identifyRoot (h : r.Knows d) :
    r.identifyRoot d.blueprint.fresh = r.identify d d.blueprint.fresh.setup := by
  unfold Registry.identifyRoot Registry.identify Registry.nextIdFor
  rw [h.descriptorFor?]

theorem of_history (h : History r (.register raw css blueprint :: actions) ids r')
    (hname : r.validate raw = .ok name) (hfree : r.find? name = none)
    (hfirst : r.nameOfType.lookup blueprint.typeName = none) :
    ∃ count, r'.Knows ⟨name, css, blueprint, count⟩ := by
  obtain ⟨-, hknown, count, hfind⟩ := h.known hname hfree hfirst
  obtain ⟨rfl, -⟩ := validate_eq_ok hname
  exact ⟨count, normalName_normalName raw, hfind, hknown⟩

end Registry.Knows

/-! ## The two ways to compose -/

/-- A fragment of one component: its style text comes first, and so does the component itself. -/
theorem Composition.ofNodes_component {d : Descriptor} {p : Placement} {frame : Frame}
    {nodes : List Node} :
    ofNodes none (htmlOf [.component d p frame nodes]) [.component d p frame nodes] =
      ⟨none, frame.opening ++ htmlOf nodes ++ frame.closing,
        ⟨p.id, p.component⟩ :: instancesOf nodes,
        withStyle [] d ++ newStyles (withStyle [] d) (stylesAfter [] nodes)⟩ := by
  have hoccurrences : occurrencesOf [.component d p frame nodes] =
      ⟨d, p, frame⟩ :: occurrencesOf nodes := by
    rw [occurrencesOf, Node.occurrences, occurrencesOf, List.append_nil]
  have hstyles :
      stylesAfter [] [.component d p frame nodes] = stylesAfter (withStyle [] d) nodes := by
    rw [stylesAfter, hoccurrences, List.foldl_cons, stylesAfter]
  rw [ofNodes, hstyles, stylesAfter_eq, instancesOf, hoccurrences, htmlOf, htmlOf, Node.html,
    String.append_empty]
  rfl

theorem mem_names_withStyle {d : Descriptor} {name : String} :
    name ∈ (withStyle [] d).map Prod.fst ↔ name = d.name ∧ d.css?.isSome := by
  unfold withStyle
  cases d.css? <;> simp

namespace Composer
variable {composer : Composer} {r r' : Registry} {root : Data} {d : Descriptor} {frame : Frame}
  {nodes : List Node} {trail : Trail} {e : ComposeError} {span : Text.Span}

theorem Writes.bareTag (hknows : r.Knows d)
    (h : composer.Writes 0 (r.identifyRoot d.blueprint.fresh).2
      (.outermost r d.blueprint.fresh root) frame nodes r') :
    (composer.deepen 1).Expands 1 r root [.tag ⟨d.name, [], span⟩]
      [.component d (.outermost r d.blueprint.fresh root) frame nodes] r' :=
  .component hknows.lookup? instantiate_bare hknows.identifyRoot.symm h.deepen .nil

theorem Fails.bareTag (hknows : r.Knows d)
    (h : composer.Fails 0 (r.identifyRoot d.blueprint.fresh).2
      (.outermost r d.blueprint.fresh root) trail e r') :
    (composer.deepen 1).TagFails 1 r root ⟨d.name, [], span⟩ trail (e.deepen 1) r' :=
  .component hknows.lookup? instantiate_bare hknows.identifyRoot.symm h.deepen

/-- **The two ways to compose a component agree.** Let a type be registered for the first time,
under a name that is free, and let anything happen to the registry afterwards. A fresh component of
the type, composed by itself, and the tag of its name, composed as a fragment with a limit that is
higher by one, leave the same counters. Either both succeed with the same markup, and the fragment
has the component as an instance and its style text, in front of all others; or both fail, having
written the same, with errors that differ at most in the depths which they name. -/
theorem entry_points_agree (composer : Composer) (root : Data) {r₀ r : Registry}
    {raw name css : String} {blueprint : Blueprint} {actions : List Action} {ids : List GeneratedId}
    (hname : r₀.validate raw = .ok name) (hfree : r₀.find? name = none)
    (hfirst : r₀.nameOfType.lookup blueprint.typeName = none)
    (hhistory : History r₀ (.register raw css blueprint :: actions) ids r)
    (hbody : composer.executor (bareTag name) (.ofFragment root) = .ok (bareTag name)) :
    ∃ d, r.find? name = some d ∧ d.css = css ∧ d.blueprint = blueprint ∧
      ((∃ id c f r', composer.compose r blueprint.fresh root = (.ok c, r') ∧
        (composer.deepen 1).composeFragment r (bareTag name) root = (.ok f, r') ∧
        f.html = c.html ∧ c.id? = some id ∧ f.instances = ⟨id, blueprint.fresh⟩ :: c.instances ∧
        f.styles = withStyle [] d ++ newStyles (withStyle [] d) c.styles ∧
        ∀ key, key ∈ f.styles.map Prod.fst ↔
          (key = name ∧ d.css?.isSome) ∨ key ∈ c.styles.map Prod.fst) ∨
      ∃ e written r', composer.compose r blueprint.fresh root = (.error ⟨e, written⟩, r') ∧
        (composer.deepen 1).composeFragment r (bareTag name) root =
          (.error ⟨e.deepen 1, written⟩, r')) := by
  obtain ⟨-, hisName, suffix, hsuffix, htext⟩ := Registry.validate_eq_ok hname
  rw [← (hhistory.known hname hfree hfirst).1] at htext
  obtain ⟨span, hscan⟩ := scan_bareTag hisName hsuffix htext
  obtain ⟨count, hknows⟩ := Registry.Knows.of_history hhistory hname hfree hfirst
  refine ⟨_, hknows.find?, rfl, rfl, ?_⟩
  -- The derivation for the component by itself decides both runs.
  rcases place_total composer 0 (.outermost r blueprint.fresh root)
    (r.identifyRoot blueprint.fresh).2 with ⟨frame, nodes, r', hwrites⟩ | ⟨trail, e, r', hfails⟩
  · have hexpands : (composer.deepen 1).Expands 1 r root (scan r.reserved (bareTag name)).tokens
        [.component ⟨name, css, blueprint, count⟩ (.outermost r blueprint.fresh root) frame nodes]
        r' := by
      rw [hscan]
      exact hwrites.bareTag hknows
    refine .inl ⟨_, _, _, r', compose_ok_iff.mpr ⟨frame, nodes, hwrites, rfl⟩,
      composeFragment_ok_iff.mpr ⟨_, _, hbody, congrArg Scan.error? hscan, hexpands,
        Composition.ofNodes_component.symm⟩, rfl, rfl, rfl, rfl, fun key => ?_⟩
    rw [mem_names_newStyles, mem_names_withStyle]
    rfl
  · have htokens : (scan r.reserved (bareTag name)).tokens = [] ++ .tag ⟨name, [], span⟩ :: [] := by
      rw [hscan]
      rfl
    have hwithin := FailsWithin.tag htokens .nil (hfails.bareTag hknows)
    refine .inr ⟨e, trail.html, r', compose_error_iff.mpr ⟨trail, hfails, rfl⟩,
      composeFragment_error_iff.mpr (.inr ⟨_, [], trail, hbody, hwithin, ?_⟩)⟩
    rw [htmlOf, String.empty_append]

/-- A box around a text. -/
def box : Blueprint := Declared.blueprint {} "a<ick-text Content=b/>" []

/-- A box by itself and in a fragment, and once more with a limit that stops its text. -/
theorem entry_points_agree_box : ∃ r, History .standard [.register " ICK-Box" "p {}" box] [] r ∧
    (∃ c f r', compose ⟨verbatim, {}⟩ r box.fresh .null = (.ok c, r') ∧
      composeFragment ⟨verbatim, { maxDepth := 11 }⟩ r "<ick-box/>" .null = (.ok f, r') ∧
      f.html = "<div id='ick-box-0'>a<span id='ick-text-0'>b</span></div>" ∧ c.html = f.html ∧
      c.id? = some "ick-box-0" ∧ c.ids = ["ick-text-0"] ∧ f.ids = ["ick-box-0", "ick-text-0"] ∧
      "ick-box" ∈ f.styles.map Prod.fst) ∧
    ∃ r', compose ⟨verbatim, { maxDepth := 1 }⟩ r box.fresh .null =
        (.error ⟨.recursionLimit 1 1, "<div id='ick-box-0'>a"⟩, r') ∧
      composeFragment ⟨verbatim, { maxDepth := 2 }⟩ r "<ick-box/>" .null =
        (.error ⟨.recursionLimit 2 2, "<div id='ick-box-0'>a"⟩, r') := by
  have hname : Registry.standard.validate " ICK-Box" = .ok "ick-box" := by decide +kernel
  have hfree : Registry.standard.find? "ick-box" = none := by decide +kernel
  have hfirst : Registry.standard.nameOfType.lookup box.typeName = none := by decide +kernel
  let r := (Action.register " ICK-Box" "p {}" box).after .standard
  have hhistory : History .standard [.register " ICK-Box" "p {}" box] [] r := .cons .register .nil
  refine ⟨r, hhistory, ?_, ?_⟩
  · have hseen : seen (compose ⟨verbatim, {}⟩ r box.fresh .null) =
        some ("<div id='ick-box-0'>a<span id='ick-text-0'>b</span></div>", ["ick-text-0"]) := by
      decide +kernel
    have hroot : (compose ⟨verbatim, {}⟩ r box.fresh .null).1.toOption.bind Composition.id? =
        some "ick-box-0" := by
      decide +kernel
    obtain ⟨c, r', hcompose, hhtml, hids⟩ := exists_of_seen hseen
    rw [hcompose] at hroot
    obtain ⟨d, -, hcss, -, hagree⟩ :=
      entry_points_agree ⟨verbatim, {}⟩ .null hname hfree hfirst hhistory rfl
    rcases hagree with
      ⟨id, _, f, _, hcompose', hfragment, hsame, hid, hinstances, -, hnames⟩ | ⟨_, _, _, hfails, -⟩
    · cases hcompose.symm.trans hcompose'
      cases hid.symm.trans hroot
      have hstyle : d.css?.isSome := by
        rw [Descriptor.css?, hcss]
        decide +kernel
      refine ⟨c, f, r', hcompose, hfragment, hsame.trans hhtml, hsame.symm, hroot, hids, ?_,
        (hnames _).mpr (.inl ⟨rfl, hstyle⟩)⟩
      rw [Composition.ids, hinstances]
      exact congrArg ("ick-box-0" :: ·) hids
    · exact nomatch hcompose.symm.trans hfails
  · have hfailure : failure? (compose ⟨verbatim, { maxDepth := 1 }⟩ r box.fresh .null) =
        some ⟨.recursionLimit 1 1, "<div id='ick-box-0'>a"⟩ := by
      decide +kernel
    obtain ⟨d, -, -, -, hagree⟩ :=
      entry_points_agree ⟨verbatim, { maxDepth := 1 }⟩ .null hname hfree hfirst hhistory rfl
    rcases hagree with ⟨_, _, _, _, hcompose, -⟩ | ⟨e, written, r', hcompose, hfragment⟩
    · rw [hcompose] at hfailure
      cases hfailure
    · rw [hcompose] at hfailure
      cases hfailure
      exact ⟨r', hcompose, hfragment⟩

end Composer

end TagWeave
