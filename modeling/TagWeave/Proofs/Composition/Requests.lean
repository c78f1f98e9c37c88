import TagWeave.Proofs.Composition.Binding
import TagWeave.Proofs.Composition.Reached
import TagWeave.Proofs.Registry.Counters

/-!
# Requests

A request is one call of a composer. It reaches a list of components, and an id is generated for
each of them that has none of its own, in the order of the list (`Request.exists_listing`). Whether
the call succeeds makes no difference: what has been counted stays counted.
-/

namespace TagWeave

/-! ## Ids that are generated on the way -/

/-- The id that is generated for a component that is reached, if it has none of its own. -/
def Visit.generated? (v : Visit) : Option GeneratedId :=
  if v.descriptor.givesId v.tag then none
  else some ⟨.registered v.descriptor.name, v.placement.id⟩

section
variable {r r' r₁ : Registry} {root : Data} {tag : Tag} {d : Descriptor} {p : Placement}
  {c : Component} {path : List Nat} {visits : List Visit}

theorem Registry.Makes.numbered (h : r.Makes root tag d p r₁) :
    Numbered r.counters (Visit.generated? ⟨path, tag, d, p⟩).toList r₁.counters := by
  obtain ⟨hlookup, hmade, hid⟩ := h
  have hgives := isSome_chosenId?_instantiate hmade
  unfold Visit.generated?
  unfold Registry.identify at hid
  split at hid
  · rename_i chosen hchosen
    cases hid
    rw [hchosen] at hgives
    rw [← hgives]
    exact .nil
  · rename_i hchosen
    rw [hchosen] at hgives
    have hnumbered := Registry.numbered_nextId hlookup
    rw [hid] at hnumbered
    rw [← hgives]
    exact hnumbered

theorem filterMap_generated?_cons {v : Visit} : (v :: visits).filterMap Visit.generated? =
    v.generated?.toList ++ visits.filterMap Visit.generated? := by
  rw [List.filterMap_cons]
  cases v.generated? <;> rfl

theorem Identified.numbered (h : Identified r visits r') :
    Numbered r.counters (visits.filterMap Visit.generated?) r'.counters := by
  induction h with
  | nil => exact .nil
  | cons hmakes _ ih =>
    rw [filterMap_generated?_cons]
    exact hmakes.numbered.append ih

end

/-! ## Calls of a composer -/

inductive Request
  | component (composer : Composer) (c : Component) (root : Data)
  | fragment (composer : Composer) (text : String) (root : Data)

namespace Request

def run : Request → Registry → Except ComposeFailure Composition × Registry
  | component composer c root, r => composer.compose r c root
  | fragment composer text root, r => composer.composeFragment r text root

/-- The component that is composed by itself. -/
def outermost? : Request → Registry → Option Placement
  | component _ c root, r => some (.outermost r c root)
  | fragment .., _ => none

/-- A component is reached by its tag. -/
inductive Reaches : Request → Registry → Visit → Prop
  | component :
    composer.ReachesWithin 0 (r.identifyRoot c).2 (.outermost r c root) v →
    Reaches (.component composer c root) r v
  | fragment : composer.executor text (.ofFragment root) = .ok body →
    composer.Reaches 1 r root (scan r.reserved body).tokens v →
    Reaches (.fragment composer text root) r v

def composer : Request → Composer
  | component composer .. | fragment composer .. => composer

/-- The id that is generated for the component that is composed by itself. -/
def outermostId? : Request → Registry → Option GeneratedId
  | component _ c _, r =>
    if c.setup.givesId then none else some ⟨r.origin c, (r.identifyRoot c).1⟩
  | fragment .., _ => none

/-- All ids that are generated, given the components that are reached by their tags. -/
def generated (q : Request) (r : Registry) (visits : List Visit) : List GeneratedId :=
  (q.outermostId? r).toList ++ visits.filterMap Visit.generated?

variable {q : Request} {r : Registry} {composer : Composer} {c : Component} {root : Data}
  {text body : String} {visits : List Visit}

theorem numbered_outermostId? : Numbered r.counters
    ((Request.component composer c root).outermostId? r).toList (r.identifyRoot c).2.counters := by
  have hgives := c.setup.isSome_chosenId?
  show Numbered _ (if c.setup.givesId = true then none else some _).toList _
  unfold Registry.identifyRoot
  cases hchosen : c.setup.chosenId? with
  | some chosen =>
    rw [hchosen] at hgives
    rw [← hgives]
    exact .nil
  | none =>
    rw [hchosen] at hgives
    rw [← hgives]
    exact Registry.numbered_nextIdFor

theorem listing_component
    (h : Listing (composer.ReachesWithin 0 (r.identifyRoot c).2 (.outermost r c root)) visits) :
    Listing ((Request.component composer c root).Reaches r) visits := by
  refine h.congr fun v => ⟨?_, .component⟩
  rintro ⟨hv⟩
  exact hv

theorem listing_fragment (hbody : composer.executor text (.ofFragment root) = .ok body)
    (h : Listing (composer.Reaches 1 r root (scan r.reserved body).tokens) visits) :
    Listing ((Request.fragment composer text root).Reaches r) visits := by
  refine h.congr fun v => ⟨?_, .fragment hbody⟩
  rintro (_ | ⟨hbody', hv⟩)
  cases hbody.symm.trans hbody'
  exact hv

/-- A request has one list of the components that it reaches, and the counters go on by the ids that
are generated for these; nothing else changes in the registry. If a component is refused, then it is
the last one. -/
theorem exists_listing (q : Request) (r : Registry) : ∃ visits, Listing (q.Reaches r) visits ∧
    Numbered r.counters (q.generated r visits) (q.run r).2.counters ∧
    (q.run r).2.uncounted = r.uncounted ∧
    ∀ f, (q.run r).1 = .error f → q.composer.RefusesLast
      ((q.outermost? r).toList ++ visits.map Visit.placement) f.error := by
  obtain ⟨⟨outcome, r'⟩, hrun⟩ : ∃ result, q.run r = result := ⟨_, rfl⟩
  rw [hrun]
  cases q with
  | component composer c root =>
    have hrun : composer.compose r c root = (outcome, r') := hrun
    rcases outcome with ⟨e, written⟩ | result
    · obtain ⟨trail, hfails, -⟩ := Composer.compose_error_iff.mp hrun
      obtain ⟨visits, hlist, hids, hlast⟩ := hfails.listing
      refine ⟨visits, listing_component hlist, numbered_outermostId?.append hids.numbered,
        hfails.uncounted.trans Registry.uncounted_identifyRoot, ?_⟩
      rintro _ ⟨rfl⟩
      exact hlast
    · obtain ⟨frame, nodes, hwrites, -⟩ := Composer.compose_ok_iff.mp hrun
      obtain ⟨visits, hlist, hids, -⟩ := hwrites.listing
      refine ⟨visits, listing_component hlist, numbered_outermostId?.append hids.numbered,
        hwrites.uncounted.trans Registry.uncounted_identifyRoot, ?_⟩
      rintro _ ⟨⟩
  | fragment composer text root =>
    have hrun : composer.composeFragment r text root = (outcome, r') := hrun
    rcases outcome with ⟨e, written⟩ | result
    · rcases Composer.composeFragment_error_iff.mp hrun with ⟨error, hbody, rfl, -, rfl⟩ |
        ⟨body, before, trail, hbody, hfails, -⟩
      · refine ⟨[], .nil ?_, .nil, rfl, ?_⟩
        · rintro v (_ | ⟨hbody', -⟩)
          cases hbody.symm.trans hbody'
        · rintro _ ⟨rfl⟩ hrefusal
          cases hrefusal
      · obtain ⟨visits, hlist, hids, hlast⟩ := hfails.listing
        refine ⟨visits, listing_fragment hbody hlist, hids.numbered, hfails.uncounted, ?_⟩
        rintro _ ⟨rfl⟩
        exact hlast
    · obtain ⟨body, nodes, hbody, -, hnodes, -⟩ := Composer.composeFragment_ok_iff.mp hrun
      obtain ⟨visits, hlist, hids, -⟩ := hnodes.listing
      refine ⟨visits, listing_fragment hbody hlist.listing, hids.numbered, hnodes.uncounted, ?_⟩
      rintro _ ⟨⟩

theorem numbered_of_listing (h : Listing (q.Reaches r) visits) :
    Numbered r.counters (q.generated r visits) (q.run r).2.counters := by
  obtain ⟨visits', hlist, hnumbered, -⟩ := q.exists_listing r
  rw [h.unique hlist]
  exact hnumbered

end Request

end TagWeave
