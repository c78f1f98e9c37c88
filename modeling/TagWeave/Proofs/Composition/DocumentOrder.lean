import TagWeave.Component.Declared
import TagWeave.Proofs.Composition.Reached

/-!
# Components in the order of the document

The components that a successful composition hands out are those that it reaches, each once, with
the id and the data with which its element is written; an enclosing component comes first
(`Composer.instances_in_document_order`). A component is put into the list only when all of its
content is written, so the list is correct because everything added in between stays behind it.
-/

namespace TagWeave.Composer
variable {composer : Composer} {r : Registry}

mutual
theorem Writes.forall_framed {depth : Nat} {r r' : Registry} {p : Placement} {frame : Frame}
    {nodes : List Node} (h : composer.Writes depth r p frame nodes r') :
    p.Framed frame ∧ ∀ o ∈ occurrencesOf nodes, o.placement.Framed o.frame := by
  match h with
  | .void _ hframe _ => exact ⟨hframe, List.forall_mem_nil _⟩
  | .content _ hframe _ _ _ hnodes => exact ⟨hframe, Expands.forall_framed hnodes⟩
termination_by structural h

/-- Every component of a tree is written with the frame that its own id and setup give. -/
theorem Expands.forall_framed {depth : Nat} {r r' : Registry} {root : Data} {tokens : List Token}
    {nodes : List Node} (h : composer.Expands depth r root tokens nodes r') :
    ∀ o ∈ occurrencesOf nodes, o.placement.Framed o.frame := by
  match h with
  | .nil => exact List.forall_mem_nil _
  | .literal hrest => exact hrest.forall_framed
  | .unregistered _ _ hrest => exact hrest.forall_framed
  | .component _ _ _ hwrites hrest =>
    obtain ⟨hframe, hinner⟩ := hwrites.forall_framed
    rw [occurrencesOf, Node.occurrences, List.cons_append]
    exact List.forall_mem_cons.mpr
      ⟨hframe, List.forall_mem_append.mpr ⟨hinner, hrest.forall_framed⟩⟩
termination_by structural h
end

theorem instancesOf_eq {nodes : List Node} {visits : List Visit}
    (h : visits.map Visit.part = (occurrencesOf nodes).map Occurrence.part) :
    instancesOf nodes = visits.map Visit.made := by
  have hmap := congrArg (List.map fun part => Instance.mk part.2.id part.2.component) h
  rw [List.map_map, List.map_map] at hmap
  exact hmap.symm

/-- **Handles come in the order of the document.** A composition that succeeds hands out exactly the
components that it reaches in the content of the component, or in the fragment: each once, every
component before those in its content, and all of these before what stands further on. They are the
components of the expansion that is written, with the ids of their elements. -/
theorem instances_in_document_order (composer : Composer) (r : Registry) (root : Data) :
    (∀ c result r', composer.compose r c root = (.ok result, r') →
      ∃ frame nodes visits,
        composer.Writes 0 (r.identifyRoot c).2 (.outermost r c root) frame nodes r' ∧
        result.html = frame.opening ++ htmlOf nodes ++ frame.closing ∧
        Listing (composer.ReachesWithin 0 (r.identifyRoot c).2 (.outermost r c root)) visits ∧
        visits.map Visit.part = (occurrencesOf nodes).map Occurrence.part ∧
        (∀ o ∈ occurrencesOf nodes, o.placement.Framed o.frame) ∧
        result.instances = visits.map Visit.made) ∧
    ∀ text result r', composer.composeFragment r text root = (.ok result, r') →
      ∃ body nodes visits, composer.executor text (.ofFragment root) = .ok body ∧
        composer.Expands 1 r root (scan r.reserved body).tokens nodes r' ∧
        result.html = htmlOf nodes ∧
        Listing (composer.Reaches 1 r root (scan r.reserved body).tokens) visits ∧
        visits.map Visit.part = (occurrencesOf nodes).map Occurrence.part ∧
        (∀ o ∈ occurrencesOf nodes, o.placement.Framed o.frame) ∧
        result.instances = visits.map Visit.made := by
  refine ⟨fun c result r' hrun => ?_, fun text result r' hrun => ?_⟩
  · obtain ⟨frame, nodes, hwrites, rfl⟩ := compose_ok_iff.mp hrun
    obtain ⟨visits, hlist, -, hparts⟩ := hwrites.listing
    exact ⟨frame, nodes, visits, hwrites, rfl, hlist, hparts, hwrites.forall_framed.2,
      instancesOf_eq hparts⟩
  · obtain ⟨body, nodes, hbody, -, hnodes, rfl⟩ := composeFragment_ok_iff.mp hrun
    obtain ⟨visits, hlist, -, hparts⟩ := hnodes.listing
    exact ⟨body, nodes, visits, hbody, hnodes, rfl, hlist.listing, hparts, hnodes.forall_framed,
      instancesOf_eq hparts⟩

/-- A registry with a box around a text, and with a line, a void element that has a text in its
template. -/
def boxes : Registry where
  reserved := "ick-"
  entries :=
    [("ick-box", ⟨"ick-box", "", Declared.blueprint {} "a<ick-text Content=b/>" [], 0⟩),
      ("ick-line", ⟨"ick-line", "", Declared.blueprint { tag := "hr" } "<ick-text/>" [], 0⟩),
      ("ick-text", ⟨"ick-text", "", TextComponent.blueprint, 0⟩)]

/-- The box comes before its text, the line brings no text along, and a component that is composed
by itself is not handed out. -/
theorem instances_in_document_order_boxes :
    (∃ (result : Composition) (visits : List Visit),
      result.html = "<div id='declaredcomponent-0'><hr id='ick-line-0'><ick/></div>" ∧
      result.ids = ["ick-line-0"] ∧ result.instances = visits.map Visit.made) ∧
    ∃ (result : Composition) (visits : List Visit),
      result.html = "<div id='ick-box-0'>a<span id='ick-text-0'>b</span></div>" ++
        "<hr id='ick-line-0'><span id='ick-text-1'>c</span>" ∧
      result.ids = ["ick-box-0", "ick-text-0", "ick-line-0", "ick-text-1"] ∧
      Listing (Reaches ⟨verbatim, {}⟩ 1 boxes .null
        (scan "ick-" "<ick-box/><ick-line/><ick-text Content=c/>").tokens) visits ∧
      result.instances = visits.map Visit.made := by
  have hcompose : seen (compose ⟨verbatim, {}⟩ boxes
      (Declared.component {} "<ick-line/><ick/>" []) .null) =
        some ("<div id='declaredcomponent-0'><hr id='ick-line-0'><ick/></div>",
          ["ick-line-0"]) := by
    decide +kernel
  have hfragment : seen (composeFragment ⟨verbatim, {}⟩ boxes
      "<ick-box/><ick-line/><ick-text Content=c/>" .null) =
        some ("<div id='ick-box-0'>a<span id='ick-text-0'>b</span></div>" ++
          "<hr id='ick-line-0'><span id='ick-text-1'>c</span>",
          ["ick-box-0", "ick-text-0", "ick-line-0", "ick-text-1"]) := by
    decide +kernel
  obtain ⟨root, r₁, hroot, hrootHtml, hrootIds⟩ := exists_of_seen hcompose
  obtain ⟨result, r₂, hresult, hhtml, hids⟩ := exists_of_seen hfragment
  obtain ⟨hof, hoffragment⟩ := instances_in_document_order ⟨verbatim, {}⟩ boxes .null
  obtain ⟨_, _, rootVisits, -, -, -, -, -, hrootInstances⟩ := hof _ _ _ hroot
  obtain ⟨_, _, visits, hbody, -, -, hlist, -, -, hinstances⟩ := hoffragment _ _ _ hresult
  cases hbody
  exact ⟨⟨root, rootVisits, hrootHtml, hrootIds, hrootInstances⟩,
    result, visits, hhtml, hids, hlist, hinstances⟩

end TagWeave.Composer
