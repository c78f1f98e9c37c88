import Mathlib.Logic.Relation
import TagWeave.Component.Declared
import TagWeave.Proofs.Composition.Nesting
import TagWeave.Proofs.Registry.Registration
import TagWeave.Proofs.Text.Lowercase

/-!
# Cycles of components

The template of a component may hold the tag of another one, and so on back to the first. If the
templates are what is unfolded, then a tree that has a component of such a cycle would have no end.
So no composition that reaches one succeeds, whatever the limit for the depth is
(`Request.depth_guard`).
-/

namespace TagWeave

/-! ## Declared components -/

/-- The element of the container takes no content. -/
def Container.isVoid (container : Container) : Bool := container.element?.any isVoidElement

namespace Declared
variable {container : Container} {body : String} {fields : List String}

theorem kind_of_mem_schema : ∀ field ∈ schema fields, field.kind = .text :=
  List.forall_mem_map.mpr fun _ _ => rfl

theorem kind_filled (attributes : List (String × String)) :
    ((blueprint container body fields).filled attributes).kind = kind container body := by
  refine Blueprint.filled_induction (P := (·.kind = kind container body)) rfl ?_ attributes
  exact List.forall_mem_map.mpr fun name _ c value hkind => by cases value <;> exact hkind

end Declared

/-- Any attributes fit a type that holds nothing but text. -/
theorem exists_instantiate_of_text {d : Descriptor}
    (htext : ∀ field ∈ d.blueprint.fields, field.kind = .text) (tag : Tag) :
    ∃ c site, instantiate d tag = .ok (c, site) := by
  cases hmade : instantiate d tag with
  | ok made => exact ⟨made.1, made.2, rfl⟩
  | error e =>
    obtain ⟨_, _, _, -, ⟨hfield, hvalue⟩, -⟩ :=
      (bindAttributes_eq_error_iff rfl).mp (instantiate_eq_error_iff.mp hmade)
    rw [htext _ (List.mem_of_find?_eq_some hfield)] at hvalue
    cases hvalue

namespace Registry

/-- A component with a container and a template is declared under a name. -/
def Declares (r : Registry) (name : String) (container : Container) (body : String) : Prop :=
  ∃ d fields, r.find? name = some d ∧ d.blueprint = Declared.blueprint container body fields

/-- A declared component takes content, and in its template there is a tag of the second name. -/
inductive LeadsTo (r : Registry) (name : String) : String → Prop
  | intro : r.Declares name container body → container.isVoid = false →
    .tag tag ∈ (scan r.reserved body).tokens → normalName tag.name = other → LeadsTo r name other

/-- A component leads back to itself. -/
def OnCycle (r : Registry) (name : String) : Prop := Relation.TransGen r.LeadsTo name name

section
variable {r r' r₁ : Registry} {a name body : String} {container : Container} {root : Data}
  {tag : Tag} {d : Descriptor} {p : Placement}

theorem OnCycle.step (h : r.OnCycle a) : ∃ b, r.LeadsTo a b ∧ r.OnCycle b := by
  obtain ⟨b, hab, hba⟩ := Relation.TransGen.head'_iff.mp h
  exact ⟨b, hab, .tail' hba hab⟩

theorem Extends.declares (h : r.Extends r') (hdeclares : r.Declares name container body) :
    r'.Declares name container body := by
  obtain ⟨d, fields, hfind, hblueprint⟩ := hdeclares
  obtain ⟨count, hfind'⟩ := h.find? name d hfind
  exact ⟨_, fields, hfind', hblueprint⟩

theorem OnCycle.exists_find? (h : r.OnCycle name) : ∃ d, r.find? name = some d := by
  obtain ⟨_, ⟨⟨d, _, hfind, _⟩, _, _, _⟩, _⟩ := h.step
  exact ⟨d, hfind⟩

namespace Makes

theorem find? (h : r.Makes root tag d p r₁) : r.find? (normalName tag.name) = some d := by
  obtain ⟨hlookup, -, -⟩ := h
  exact lookup?_normalName.symm.trans hlookup

theorem name_eq (h : r.Makes root tag d p r₁) : d.name = normalName tag.name :=
  name_of_find? h.find?

/-- The component of a tag is of the kind that is declared under the name. -/
theorem kind_eq (h : r.Makes root tag d p r₁) (hdeclares : r.Declares d.name container body) :
    p.component.kind = Declared.kind container body := by
  obtain ⟨d', fields, hfind, hblueprint⟩ := hdeclares
  rw [h.name_eq, h.find?] at hfind
  cases hfind
  obtain ⟨-, hmade, -⟩ := h
  rw [(instantiate_made hmade).1, kind_made, hblueprint, Declared.kind_filled]

theorem registry_extends (h : r.Makes root tag d p r₁) : r.Extends r₁ := by
  obtain ⟨-, -, hid⟩ := h
  exact .of_uncounted ((congrArg (·.2.uncounted) hid).symm.trans uncounted_identify)

end Makes

/-- A declared component is reached as soon as its tag is: text fits all of its fields. -/
theorem Declares.exists_makes (h : r.Declares name container body)
    (htag : normalName tag.name = name) (root : Data) :
    ∃ d p r₁, r.Makes root tag d p r₁ ∧ d.name = name := by
  subst htag
  obtain ⟨d, fields, hfind, hblueprint⟩ := h
  have htext : ∀ field ∈ d.blueprint.fields, field.kind = .text := by
    rw [hblueprint]
    exact Declared.kind_of_mem_schema
  obtain ⟨c, site, hmade⟩ := exists_instantiate_of_text htext tag
  have hmakes : r.Makes root tag d _ _ := .intro (lookup?_normalName.trans hfind) hmade rfl
  exact ⟨d, _, _, hmakes, hmakes.name_eq⟩

end

end Registry

/-! ## Trees have no cycles -/

theorem Placement.Framed.hasContent {p : Placement} {frame : Frame} {container : Container}
    {body : String} (h : p.Framed frame) (hkind : p.component.kind = Declared.kind container body)
    (hcontent : container.isVoid = false) : frame.hasContent = true := by
  have hcontainer : p.component.container p.id = container := by
    rw [Component.container, hkind]
    rfl
  cases h with
  | bare => rfl
  | element => rfl
  | void htag _ hvoid =>
    rw [Container.isVoid, ← hcontainer, htag, Option.any_some] at hcontent
    exact nomatch hvoid.symm.trans hcontent

namespace Composer
variable {composer : Composer} {r₀ : Registry}

/-- Every tag that names a registered type comes to a component. -/
theorem Expands.exists_occurrence {depth : Nat} {r r' : Registry} {root : Data}
    {tokens : List Token} {nodes : List Node} {tag : Tag}
    (h : composer.Expands depth r root tokens nodes r') (hmem : .tag tag ∈ tokens)
    (hfind : ∃ d, r.find? (normalName tag.name) = some d) :
    ∃ o ∈ occurrencesOf nodes, o.descriptor.name = normalName tag.name := by
  induction tokens generalizing r nodes with
  | nil => cases hmem
  | cons token tokens ih =>
    obtain ⟨d, hfind⟩ := hfind
    cases h with
    | literal hrest =>
      rw [occurrencesOf, Node.occurrences, List.nil_append]
      exact ih hrest ((List.mem_cons.mp hmem).resolve_left nofun) ⟨d, hfind⟩
    | unregistered hlookup _ hrest =>
      rw [Registry.lookup?_normalName] at hlookup
      have hmem : .tag tag ∈ tokens := (List.mem_cons.mp hmem).resolve_left fun heq => by
        cases heq
        cases hlookup.symm.trans hfind
      rw [occurrencesOf, Node.occurrences, List.nil_append]
      exact ih hrest hmem ⟨d, hfind⟩
    | component hlookup hmade hid hwrites hrest =>
      have hmakes : Registry.Makes _ root _ _ _ _ := .intro hlookup hmade hid
      rw [occurrencesOf, Node.occurrences, List.cons_append]
      rcases List.mem_cons.mp hmem with heq | hmem
      · cases heq
        exact ⟨_, List.mem_cons_self .., hmakes.name_eq⟩
      · obtain ⟨count, hfind⟩ :=
          (hmakes.registry_extends.trans (.of_uncounted hwrites.uncounted)).find? _ _ hfind
        obtain ⟨o, ho, hname⟩ := ih hrest hmem ⟨_, hfind⟩
        exact ⟨o, List.mem_cons_of_mem _ (List.mem_append_right _ ho), hname⟩

mutual
theorem Writes.not_onCycle {depth : Nat} {r r' : Registry} {p : Placement} {frame : Frame}
    {nodes : List Node} (h : composer.Writes depth r p frame nodes r')
    (hverbatim : composer.executor = verbatim) (hext : r₀.Extends r) :
    (∀ o ∈ occurrencesOf nodes, ¬ r₀.OnCycle o.descriptor.name) ∧
    ∀ name, (∀ container body, r₀.Declares name container body →
      p.component.kind = Declared.kind container body) → ¬ r₀.OnCycle name := by
  match h with
  | .void _ hframe hvoid =>
    refine ⟨List.forall_mem_nil _, fun name hkind hcycle => ?_⟩
    obtain ⟨_, ⟨hdeclares, hcontent, _, _⟩, -⟩ := hcycle.step
    exact nomatch hvoid.symm.trans (hframe.hasContent (hkind _ _ hdeclares) hcontent)
  | .content _ _ _ hbody _ hnodes =>
    have hinner := Expands.not_onCycle hnodes hverbatim hext
    refine ⟨hinner, fun name hkind hcycle => ?_⟩
    obtain ⟨_, ⟨hdeclares, _, hmem, rfl⟩, hnext⟩ := hcycle.step
    -- What is unfolded is the template, so that the next tag of the cycle stands in it.
    have hkind := hkind _ _ hdeclares
    rw [hverbatim, Component.body, hkind] at hbody
    obtain rfl := Except.ok.inj hbody
    rw [← hext.reserved] at hmem
    obtain ⟨d, hfind⟩ := hnext.exists_find?
    obtain ⟨count, hfind⟩ := hext.find? _ _ hfind
    obtain ⟨o, ho, hname⟩ := hnodes.exists_occurrence hmem ⟨_, hfind⟩
    exact hinner o ho (hname ▸ hnext)
termination_by structural h

/-- What templates come to as they are holds no component of a cycle. -/
theorem Expands.not_onCycle {depth : Nat} {r r' : Registry} {root : Data} {tokens : List Token}
    {nodes : List Node} (h : composer.Expands depth r root tokens nodes r')
    (hverbatim : composer.executor = verbatim) (hext : r₀.Extends r) :
    ∀ o ∈ occurrencesOf nodes, ¬ r₀.OnCycle o.descriptor.name := by
  match h with
  | .nil => exact List.forall_mem_nil _
  | .literal hrest => exact hrest.not_onCycle hverbatim hext
  | .unregistered _ _ hrest => exact hrest.not_onCycle hverbatim hext
  | .component hlookup hmade hid hwrites hrest =>
    have hmakes : Registry.Makes _ root _ _ _ _ := .intro hlookup hmade hid
    have hext₁ := hext.trans hmakes.registry_extends
    obtain ⟨hinner, hown⟩ := hwrites.not_onCycle hverbatim hext₁
    have hext₂ := hext₁.trans (.of_uncounted hwrites.uncounted)
    rw [occurrencesOf, Node.occurrences, List.cons_append]
    refine List.forall_mem_cons.mpr ⟨hown _ fun container body hdeclares => ?_,
      List.forall_mem_append.mpr ⟨hinner, hrest.not_onCycle hverbatim hext₂⟩⟩
    exact hmakes.kind_eq (hext.declares hdeclares)
termination_by structural h
end

end Composer

/-! ## The guard -/

theorem exists_occurrence_of_parts {nodes : List Node} {visits : List Visit} {v : Visit}
    (h : visits.map Visit.part = (occurrencesOf nodes).map Occurrence.part) (hv : v ∈ visits) :
    ∃ o ∈ occurrencesOf nodes, o.descriptor = v.descriptor := by
  have hpart := List.mem_map_of_mem (f := Visit.part) hv
  rw [h] at hpart
  obtain ⟨o, ho, heq⟩ := List.mem_map.mp hpart
  exact ⟨o, ho, (Prod.mk.inj heq).1⟩

namespace Request
variable {q : Request} {r r' : Registry} {course : Course} {v : Visit}

/-- A request that reaches a component of a cycle fails. -/
theorem Takes.error_of_onCycle (h : q.Takes r course r')
    (hverbatim : q.composer.executor = verbatim) (hreach : q.Reaches r v)
    (hcycle : r.OnCycle v.descriptor.name) :
    ∃ e, course.outcome = .error ⟨e, course.output⟩ := by
  cases q with
  | component composer c root =>
    cases h with
    | fails => exact ⟨_, rfl⟩
    | written hwrites =>
      obtain ⟨hv⟩ := hreach
      obtain ⟨visits, hlist, -, hparts⟩ := hwrites.listing
      obtain ⟨o, ho, hname⟩ := exists_occurrence_of_parts hparts ((hlist.mem_iff v).mpr hv)
      have hext : r.Extends (r.identifyRoot c).2 := .of_uncounted Registry.uncounted_identifyRoot
      exact ((hwrites.not_onCycle hverbatim hext).1 o ho (hname ▸ hcycle)).elim
  | fragment composer text root =>
    cases h with
    | failsWithin => exact ⟨_, rfl⟩
    | refused => exact ⟨_, rfl⟩
    | unfolded hbody _ hnodes =>
      obtain _ | ⟨hbody', hv⟩ := hreach
      cases hbody.symm.trans hbody'
      obtain ⟨visits, hlist, -, hparts⟩ := hnodes.listing
      obtain ⟨o, ho, hname⟩ := exists_occurrence_of_parts hparts ((hlist.listing.mem_iff v).mpr hv)
      exact (hnodes.not_onCycle hverbatim .refl o ho (hname ▸ hcycle)).elim

/-- **The guard for the depth is exact and defuses every cycle.** Every request comes to an end, and
what it writes, also if it fails, opens no component inside as many others as the limit allows. An
error about the limit names the limit, and as the depth the limit, too, unless the request begins
above it. Where templates are unfolded as they are, a request that reaches the tag of a component
which leads back to itself fails, whatever the limit. -/
theorem depth_guard (q : Request) (r : Registry) :
    (∃ course r', q.Takes r course r' ∧ q.run r = (course.outcome, r') ∧
      outputOf (q.run r).1 = markedText course.marks ∧
      ∀ level ∈ levels 0 course.marks, level + q.depth < q.composer.settings.maxDepth) ∧
    (∀ depth limit written, (q.run r).1 = .error ⟨.recursionLimit depth limit, written⟩ →
      limit = q.composer.settings.maxDepth ∧ depth = max q.depth q.composer.settings.maxDepth) ∧
    (q.composer.executor = verbatim →
      ∀ v, q.Reaches r v → r.OnCycle v.descriptor.name → ∃ f, (q.run r).1 = .error f) := by
  obtain ⟨course, r', h⟩ := q.exists_course r
  have hrun := h.run_eq
  have houtput : outputOf (q.run r).1 = markedText course.marks := by
    rw [hrun, outputOf_outcome, Course.markedText_marks]
  refine ⟨⟨course, r', h, hrun, houtput, h.staysBelow⟩, fun depth limit written herror => ?_,
    fun hverbatim v hreach hcycle => ?_⟩
  · rw [hrun] at herror
    exact h.recursionLimit_eq herror
  · obtain ⟨e, herror⟩ := h.error_of_onCycle hverbatim hreach hcycle
    rw [hrun]
    exact ⟨_, herror⟩

/-- Two components that lead to each other: one with a line and a tag in it, and one that has no
element of its own. -/
def loop : Registry where
  reserved := "ick-"
  entries :=
    [("ick-frame", ⟨"ick-frame", "", Declared.blueprint {} "<hr/><ick-bare/>" [], 0⟩),
      ("ick-bare", ⟨"ick-bare", "", Declared.blueprint { tag := "" } "<ick-frame/>" [], 0⟩)]

def intoLoop : Request := .fragment ⟨verbatim, { maxDepth := 3 }⟩ "a<ick-frame/>" .null

theorem find?_frame : loop.find? "ick-frame" =
    some ⟨"ick-frame", "", Declared.blueprint {} "<hr/><ick-bare/>" [], 0⟩ := rfl

theorem onCycle_loop : loop.OnCycle "ick-frame" := by
  have hbare : loop.find? "ick-bare" =
      some ⟨"ick-bare", "", Declared.blueprint { tag := "" } "<ick-frame/>" [], 0⟩ := rfl
  have hbareTag : .tag ⟨"ick-bare", [], ⟨5, 16⟩⟩ ∈ (scan "ick-" "<hr/><ick-bare/>").tokens := by
    decide +kernel
  have hframeTag : .tag ⟨"ick-frame", [], ⟨0, 12⟩⟩ ∈ (scan "ick-" "<ick-frame/>").tokens := by
    decide +kernel
  have hforth : loop.LeadsTo "ick-frame" "ick-bare" :=
    .intro ⟨_, _, find?_frame, rfl⟩ (by decide) hbareTag (by decide)
  have hback : loop.LeadsTo "ick-bare" "ick-frame" :=
    .intro ⟨_, _, hbare, rfl⟩ (by decide) hframeTag (by decide)
  exact .tail (.single hforth) hback

/-- The frame is reached, and so the request fails; the error says at which depth. -/
theorem depth_guard_loop :
    (∃ v, intoLoop.Reaches loop v ∧ loop.OnCycle v.descriptor.name ∧
      ∃ f, (intoLoop.run loop).1 = .error f) ∧
    (intoLoop.run loop).1 = .error ⟨.recursionLimit 3 3, "a<div id='ick-frame-0'><hr/>"⟩ ∧
    3 = intoLoop.composer.settings.maxDepth ∧
    3 = max intoLoop.depth intoLoop.composer.settings.maxDepth := by
  obtain ⟨-, hlimit, hcycles⟩ := depth_guard intoLoop loop
  have hfailure : Composer.failure? (intoLoop.run loop) =
      some ⟨.recursionLimit 3 3, "a<div id='ick-frame-0'><hr/>"⟩ := by
    decide +kernel
  have herror := Composer.failure?_eq_some_iff.mp hfailure
  have htokens : (scan "ick-" "a<ick-frame/>").tokens =
      [.literal "a", .tag ⟨"ick-frame", [], ⟨1, 13⟩⟩] := by
    decide +kernel
  have hdeclares : loop.Declares "ick-frame" {} "<hr/><ick-bare/>" := ⟨_, _, find?_frame, rfl⟩
  let tag : Tag := ⟨"ick-frame", [], ⟨1, 13⟩⟩
  have htag : normalName tag.name = "ick-frame" := by decide
  obtain ⟨d, p, r₁, hmakes, hname⟩ := hdeclares.exists_makes htag .null
  have hreach : intoLoop.Reaches loop ⟨[1], tag, d, p⟩ := by
    refine .fragment rfl ?_
    show Composer.Reaches _ 1 loop _ (scan "ick-" "a<ick-frame/>").tokens _
    rw [htokens]
    have hfirst : Composer.Reaches ⟨verbatim, { maxDepth := 3 }⟩ 1 loop .null [.tag tag]
        ⟨[0], tag, d, p⟩ := .tag hmakes
    exact .behind (.literal .nil) hfirst
  have hcycle : loop.OnCycle d.name := hname ▸ onCycle_loop
  exact ⟨⟨_, hreach, hcycle, hcycles rfl _ hreach hcycle⟩, herror, hlimit _ _ _ herror⟩

end Request

end TagWeave
