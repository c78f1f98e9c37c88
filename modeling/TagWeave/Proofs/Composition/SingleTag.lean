import TagWeave.Proofs.Composition.EntryPoints
import TagWeave.Proofs.Registry.FirstRegistrations
import TagWeave.Proofs.Text.AsciiCase

/-!
# Fragments of one tag

A fragment that is one tag of a registered type is composed as the component of the tag is placed
(`Composer.composeFragment_tag_ok_iff`, `Composer.composeFragment_tag_error_iff`). Every registered
type has such tags: its name in any spelling that the case of ASCII letters allows behind the
reserved characters (`Composer.reached_in_any_case`).
-/

namespace TagWeave

namespace Composer
variable {composer : Composer} {r r' r₁ : Registry} {root : Data} {text body written : String}
  {tag : Tag} {d : Descriptor} {p : Placement} {frame : Frame} {nodes : List Node} {trail : Trail}
  {e : ComposeError} {result : Composition}

/-! ## What becomes of the tag -/

section
variable (hbody : composer.executor text (.ofFragment root) = .ok body)
  (hscan : scan r.reserved body = ⟨[.tag tag], none⟩) (hmakes : r.Makes root tag d p r₁)
include hbody hscan hmakes

theorem composeFragment_of_writes (h : composer.Writes 1 r₁ p frame nodes r') :
    composer.composeFragment r text root = (.ok (.ofNodes none
      (htmlOf [.component d p frame nodes]) [.component d p frame nodes]), r') := by
  obtain ⟨hlookup, hmade, hid⟩ := hmakes
  refine composeFragment_ok_iff.mpr ⟨body, _, hbody, congrArg Scan.error? hscan, ?_, rfl⟩
  rw [hscan]
  exact .component hlookup hmade hid h .nil

theorem composeFragment_of_fails (h : composer.Fails 1 r₁ p trail e r') :
    composer.composeFragment r text root = (.error ⟨e, trail.html⟩, r') := by
  obtain ⟨hlookup, hmade, hid⟩ := hmakes
  have htokens : (scan r.reserved body).tokens = [] ++ .tag tag :: [] := congrArg Scan.tokens hscan
  refine composeFragment_error_iff.mpr (.inr ⟨body, [], trail, hbody, ?_, ?_⟩)
  · exact .tag htokens .nil (.component hlookup hmade hid h)
  · rw [htmlOf, String.empty_append]

/-- The fragment succeeds exactly if its component is written. -/
theorem composeFragment_tag_ok_iff : composer.composeFragment r text root = (.ok result, r') ↔
    ∃ frame nodes, composer.Writes 1 r₁ p frame nodes r' ∧
      result = .ofNodes none (htmlOf [.component d p frame nodes])
        [.component d p frame nodes] := by
  constructor
  · intro hrun
    rcases place_total composer 1 p r₁ with ⟨frame, nodes, _, hwrites⟩ | ⟨_, _, _, hfails⟩
    · rw [composeFragment_of_writes hbody hscan hmakes hwrites] at hrun
      cases hrun
      exact ⟨frame, nodes, hwrites, rfl⟩
    · rw [composeFragment_of_fails hbody hscan hmakes hfails] at hrun
      cases hrun
  · rintro ⟨frame, nodes, hwrites, rfl⟩
    exact composeFragment_of_writes hbody hscan hmakes hwrites

/-- The fragment fails exactly if its component does. -/
theorem composeFragment_tag_error_iff :
    composer.composeFragment r text root = (.error ⟨e, written⟩, r') ↔
    ∃ trail, composer.Fails 1 r₁ p trail e r' ∧ written = trail.html := by
  constructor
  · intro hrun
    rcases place_total composer 1 p r₁ with ⟨_, _, _, hwrites⟩ | ⟨trail, _, _, hfails⟩
    · rw [composeFragment_of_writes hbody hscan hmakes hwrites] at hrun
      cases hrun
    · rw [composeFragment_of_fails hbody hscan hmakes hfails] at hrun
      cases hrun
      exact ⟨trail, hfails, rfl⟩
  · rintro ⟨trail, hfails, rfl⟩
    exact composeFragment_of_fails hbody hscan hmakes hfails

end

end Composer

/-! ## Tags of a registered type -/

/-- A name in another spelling: what stands behind the reserved characters may differ in the case of
ASCII letters. -/
def Respells (reserved spelled name : String) : Prop :=
  ∃ suffix suffix', name.toList = reserved.toList ++ suffix ∧
    spelled.toList = reserved.toList ++ suffix' ∧
    suffix'.map Char.toLower = suffix.map Char.toLower

namespace Respells
variable {reserved spelled name : String}

theorem map_toLower (h : Respells reserved spelled name) (hnormal : normalName name = name) :
    spelled.toList.map Char.toLower = name.toList := by
  obtain ⟨suffix, suffix', hname, hspelled, hcase⟩ := h
  rw [← map_toLower_of_normal hnormal, hname, hspelled, List.map_append, List.map_append, hcase]

theorem refl (hnormal : normalName name = name) (hname : Registrable reserved name) :
    Respells reserved name name := by
  obtain ⟨⟨suffix, htext⟩, -, -⟩ := hname
  rw [hnormal] at htext
  exact ⟨suffix, suffix, htext.symm, htext.symm, rfl⟩

/-- The text of such a tag is scanned as that tag, although the scanner knows nothing of the case of
letters. -/
theorem scan_bareTag (h : Respells reserved spelled name) (hnormal : normalName name = name)
    (hname : Registrable reserved name) :
    ∃ span, scan reserved (bareTag spelled) = ⟨[.tag ⟨spelled, [], span⟩], none⟩ := by
  obtain ⟨-, hmore, hisName⟩ := hname
  rw [hnormal] at hmore hisName
  have hspelledName : isName spelled = true := isName_of_map_toLower hisName (h.map_toLower hnormal)
  -- The scanner looks for the reserved characters as they are; only what follows is respelled.
  obtain ⟨suffix, suffix', htext, hspelled, hcase⟩ := h
  have hsuffix : suffix' ≠ [] := by
    rintro rfl
    have hempty : suffix = [] := List.map_eq_nil_iff.mp hcase.symm
    rw [hempty, List.append_nil] at htext
    exact hmore (String.toList_inj.mp htext)
  exact TagWeave.scan_bareTag hspelledName hsuffix hspelled

end Respells

namespace Composer
open Registry (ofActions firstRegistration?)

/-- **Every registered type is reached by its tags.** Whatever a registry has been through, take a
name in it, and any spelling of that name that differs in the case of ASCII letters behind the
reserved characters. The tag of this spelling is scanned as one tag without attributes, and a
fragment of it is composed as a new component of the first registration of the name is placed: it
succeeds with what is written for this component, and fails as it fails. -/
theorem reached_in_any_case (reserved : String) (actions : List Action) (composer : Composer)
    (root : Data) {d : Descriptor} {spelled : String}
    (hd : d ∈ (ofActions reserved actions).descriptors)
    (hspelled : Respells (ofActions reserved actions).reserved spelled d.name)
    (hbody : composer.executor (bareTag spelled) (.ofFragment root) = .ok (bareTag spelled)) :
    let r := ofActions reserved actions
    ∃ span g id r₁, scan r.reserved (bareTag spelled) = ⟨[.tag ⟨spelled, [], span⟩], none⟩ ∧
      firstRegistration? r.reserved actions d.name = some g ∧
      r.lookup? (normalName spelled) = some d ∧ d.blueprint = g.blueprint ∧
      r.identify d g.blueprint.fresh.setup = (id, r₁) ∧
      (∀ result r', composer.composeFragment r (bareTag spelled) root = (.ok result, r') ↔
        ∃ frame nodes,
          composer.Writes 1 r₁ ⟨g.blueprint.fresh, id, .empty, root⟩ frame nodes r' ∧
          result = .ofNodes none
            (htmlOf [.component d ⟨g.blueprint.fresh, id, .empty, root⟩ frame nodes])
            [.component d ⟨g.blueprint.fresh, id, .empty, root⟩ frame nodes]) ∧
      ∀ e written r', composer.composeFragment r (bareTag spelled) root =
          (.error ⟨e, written⟩, r') ↔
        ∃ trail, composer.Fails 1 r₁ ⟨g.blueprint.fresh, id, .empty, root⟩ trail e r' ∧
          written = trail.html := by
  intro r
  have horderly : r.Orderly := .ofActions reserved actions
  have hfind := horderly.find?_of_mem (Registry.mem_entries_of_mem_descriptors hd)
  obtain ⟨hnormal, hregistrable⟩ := horderly.of_find? hfind
  obtain ⟨span, hscan⟩ := hspelled.scan_bareTag hnormal hregistrable
  obtain ⟨g, hg, -, -, hblueprint⟩ := Registry.exists_firstRegistration reserved actions hfind
  have hlookup : r.lookup? (normalName spelled) = some d := by
    rw [normalName_of_map_toLower hnormal (hspelled.map_toLower hnormal), Registry.lookup?, hnormal]
    exact hfind
  obtain ⟨id, r₁, hid⟩ : ∃ id r₁, r.identify d g.blueprint.fresh.setup = (id, r₁) := ⟨_, _, rfl⟩
  have hmakes : r.Makes root ⟨spelled, [], span⟩ d ⟨g.blueprint.fresh, id, .empty, root⟩ r₁ := by
    rw [← hblueprint] at hid ⊢
    exact .intro hlookup instantiate_bare hid
  exact ⟨span, g, id, r₁, hscan, hg, hlookup, hblueprint, hid,
    fun _ _ => composeFragment_tag_ok_iff hbody hscan hmakes,
    fun _ _ _ => composeFragment_tag_error_iff hbody hscan hmakes⟩

/-- The box of the first registration is written, although it is registered with a blank in front
and asked for in another spelling. -/
theorem reached_in_any_case_box : ∃ result r',
    (plain {}).composeFragment
      (ofActions "ick-" [.registerAs " ick-Box" "" (Declared.blueprint {} "a" []),
        .registerAs "ick-box" "" (Declared.blueprint {} "b" [])]) "<ick-bOX/>" .null =
      (.ok result, r') ∧
    result.html = "<div id='ick-box-0'>a</div>" ∧
    ∃ d p frame nodes, p.component.body = "a" ∧
      result = .ofNodes none (htmlOf [.component d p frame nodes])
        [.component d p frame nodes] := by
  let actions : List Action := [.registerAs " ick-Box" "" (Declared.blueprint {} "a" []),
    .registerAs "ick-box" "" (Declared.blueprint {} "b" [])]
  have hfound : ((ofActions "ick-" actions).find? "ick-box").isSome = true := by decide +kernel
  have hfirst : ((firstRegistration? (ofActions "ick-" actions).reserved actions "ick-box").map
      fun g => g.blueprint.fresh.body) = some "a" := by
    decide +kernel
  have hseen : seen ((plain {}).composeFragment (ofActions "ick-" actions) "<ick-bOX/>" .null) =
      some ("<div id='ick-box-0'>a</div>", ["ick-box-0"]) := by
    decide +kernel
  obtain ⟨d, hd⟩ := Option.isSome_iff_exists.mp hfound
  have hname : d.name = "ick-box" := Registry.name_of_find? hd
  have hspelled : Respells (ofActions "ick-" actions).reserved "ick-bOX" d.name := by
    rw [hname]
    exact ⟨"box".toList, "bOX".toList, by decide +kernel, by decide +kernel, by decide +kernel⟩
  obtain ⟨result, r', hrun, hhtml, -⟩ := exists_of_seen hseen
  obtain ⟨span, g, id, r₁, -, hg, -, -, -, hok, -⟩ :=
    reached_in_any_case "ick-" actions (plain {}) .null (Registry.mem_descriptors_of_find? hd)
      hspelled rfl
  obtain ⟨frame, nodes, -, hnodes⟩ := (hok result r').mp hrun
  rw [← hname, hg] at hfirst
  have hbody : g.blueprint.fresh.body = "a" := Option.some.inj hfirst
  exact ⟨result, r', hrun, hhtml, d, ⟨g.blueprint.fresh, id, .empty, .null⟩, frame, nodes, hbody,
    hnodes⟩

end Composer

end TagWeave
