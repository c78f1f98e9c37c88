import TagWeave.Proofs.Composition.Output
import Mathlib.Data.List.Sort

/-!
# Components that a composition reaches

A component is reached if all tokens in front of its tag have been expanded, in its text and in the
texts around it, and if its tag names a registered type and fills the fields. Whether the component
can be written then plays no part: one at the depth limit is reached, too. `Composer.Reaches` says
this for the tokens of a text and `Composer.ReachesWithin` for the content of a component.

A composition has one list of all components that it reaches, in the order of the document
(`Listing`), whether it succeeds (`Composer.Expands.listing`) or fails
(`Composer.FailsWithin.listing`). Along this list the ids are resolved (`Identified`) and the
templates are executed (`Composer.calls`).
-/

namespace TagWeave

/-! ## Visits -/

/-- A component that is reached. -/
structure Visit where
  /-- The place of the tag among the tokens of the outermost text, or of an enclosing component's
  place there, followed by the place in the content of that component. -/
  path : List Nat
  tag : Tag
  descriptor : Descriptor
  placement : Placement

namespace Visit
variable {a b v : Visit} {i n : Nat}

/-- The visit as seen from outside a component that stands at a place. -/
def under (i : Nat) (v : Visit) : Visit := { v with path := i :: v.path }

/-- The visit with more tokens in front. -/
def behind (n : Nat) (v : Visit) : Visit := { v with path := v.path.modifyHead (· + n) }

def made (v : Visit) : Instance := ⟨v.placement.id, v.placement.component⟩

/-- What is reached, apart from where. -/
def part (v : Visit) : Descriptor × Placement := (v.descriptor, v.placement)

theorem behind_zero : behind 0 = id := by
  funext ⟨path, tag, d, p⟩
  cases path <;> rfl

theorem behind_behind {m : Nat} : behind m (behind n v) = behind (n + m) v := by
  obtain ⟨path, tag, d, p⟩ := v
  cases path with
  | nil => rfl
  | cons j path => simp [behind, Nat.add_assoc]

/-- The second component stands in the content of the first. -/
def Encloses (a b : Visit) : Prop := ∃ rest, rest ≠ [] ∧ b.path = a.path ++ rest

/-- The components stand at, or within, two places of one text, the first in front. -/
def Precedes (a b : Visit) : Prop :=
  ∃ common i j x y, i < j ∧ a.path = common ++ i :: x ∧ b.path = common ++ j :: y

/-- The order of the document. -/
def Before (a b : Visit) : Prop := a.Encloses b ∨ a.Precedes b

/-- The order of the document is the lexicographic one of the places. -/
theorem before_iff : a.Before b ↔ a.path < b.path := by
  unfold Before Encloses Precedes
  generalize a.path = pa
  generalize b.path = pb
  constructor
  · rintro (⟨rest, hne, rfl⟩ | ⟨common, i, j, x, y, hlt, rfl, rfl⟩)
    · obtain ⟨k, rest, rfl⟩ := List.exists_cons_of_ne_nil hne
      have h : pa ++ [] < pa ++ k :: rest := List.append_left_lt (List.nil_lt_cons k rest)
      rwa [List.append_nil] at h
    · exact List.append_left_lt (List.cons_lt_cons_iff.mpr (.inl hlt))
  · intro h
    induction pa generalizing pb with
    | nil =>
      cases pb with
      | nil => exact absurd h (List.lt_irrefl _)
      | cons j pb => exact .inl ⟨j :: pb, List.cons_ne_nil j pb, rfl⟩
    | cons i pa ih =>
      cases pb with
      | nil => exact absurd h (List.not_lt_nil _)
      | cons j pb =>
        rcases List.cons_lt_cons_iff.mp h with hlt | ⟨rfl, hrest⟩
        · exact .inr ⟨[], i, j, pa, pb, hlt, rfl, rfl⟩
        · rcases ih pb hrest with ⟨rest, hne, rfl⟩ | ⟨common, i', j, x, y, hlt, rfl, rfl⟩
          · exact .inl ⟨rest, hne, rfl⟩
          · exact .inr ⟨i :: common, i', j, x, y, hlt, rfl, rfl⟩

theorem Before.under (h : a.Before b) : (a.under i).Before (b.under i) :=
  before_iff.mpr (List.cons_lt_cons_iff.mpr (.inr ⟨rfl, before_iff.mp h⟩))

theorem Before.behind (h : a.Before b) : (a.behind n).Before (b.behind n) := by
  rw [before_iff] at h ⊢
  obtain ⟨pa, _, _, _⟩ := a
  obtain ⟨pb, _, _, _⟩ := b
  have h : pa < pb := h
  show pa.modifyHead (· + n) < pb.modifyHead (· + n)
  cases pa with
  | nil =>
    cases pb with
    | nil => exact absurd h (List.lt_irrefl _)
    | cons j pb => exact List.nil_lt_cons _ _
  | cons i pa =>
    cases pb with
    | nil => exact absurd h (List.not_lt_nil _)
    | cons j pb =>
      rw [List.modifyHead_cons, List.modifyHead_cons, List.cons_lt_cons_iff]
      rcases List.cons_lt_cons_iff.mp h with hlt | ⟨rfl, hrest⟩
      · exact .inl (Nat.add_lt_add_right hlt n)
      · exact .inr ⟨rfl, hrest⟩

instance : Std.Irrefl Before := ⟨fun v h => List.lt_irrefl v.path (before_iff.mp h)⟩

instance : Std.Antisymm Before :=
  ⟨fun _ _ h h' => absurd (before_iff.mp h') (List.lt_asymm (before_iff.mp h))⟩

end Visit

/-- The component of a node, apart from its frame. -/
def Occurrence.part (o : Occurrence) : Descriptor × Placement := (o.descriptor, o.placement)

/-! ## What is reached -/

/-- The error stops a component before anything is written for it. -/
def ComposeError.isRefusal : ComposeError → Bool
  | recursionLimit .. | container .. => true
  | tagSyntax .. | templateExecution .. | unregistered _ | fieldBinding _ => false

/-- A tag becomes the component of a placement. The second registry is left once the id of the
component is resolved. -/
inductive Registry.Makes (r : Registry) (root : Data) (tag : Tag) :
    Descriptor → Placement → Registry → Prop
  | intro {id : String} : r.lookup? (normalName tag.name) = some d →
    instantiate d tag = .ok (component, site) → r.identify d component.setup = (id, r₁) →
    Makes r root tag d ⟨component, id, site, root⟩ r₁

theorem Registry.Makes.unique {r r₁ r₂ : Registry} {root : Data} {tag : Tag} {d d' : Descriptor}
    {p p' : Placement} (h : r.Makes root tag d p r₁) (h' : r.Makes root tag d' p' r₂) :
    d = d' ∧ p = p' ∧ r₁ = r₂ := by
  obtain ⟨hlookup, hmade, hid⟩ := h
  obtain ⟨hlookup', hmade', hid'⟩ := h'
  cases hlookup.symm.trans hlookup'
  cases hmade.symm.trans hmade'
  cases hid.symm.trans hid'
  exact ⟨rfl, rfl, rfl⟩

namespace Composer

mutual
/-- A component is reached in the content of the component of a placement at a depth. -/
inductive ReachesWithin (composer : Composer) : Nat → Registry → Placement → Visit → Prop
  | content : depth < composer.settings.maxDepth → p.Framed frame → frame.hasContent = true →
    composer.executor p.component.body p.context = .ok text →
    Reaches composer (depth + 1) r p.component.data (scan r.reserved text).tokens v →
    ReachesWithin composer depth r p v

/-- A component is reached among tokens, or in the content of a component among them. -/
inductive Reaches (composer : Composer) :
    Nat → Registry → (root : Data) → List Token → Visit → Prop
  | tag : r.Makes root tag d p r₁ →
    Reaches composer depth r root (.tag tag :: tokens) ⟨[0], tag, d, p⟩
  | within : r.Makes root tag d p r₁ → ReachesWithin composer depth r₁ p v →
    Reaches composer depth r root (.tag tag :: tokens) (v.under 0)
  | behind : composer.Expands depth r root [token] nodes r₁ →
    Reaches composer depth r₁ root tokens v →
    Reaches composer depth r root (token :: tokens) (v.behind 1)
end

/-- A component is stopped by an error: it stands too deep, or its opening tag cannot be built. -/
inductive Refuses (composer : Composer) (p : Placement) : ComposeError → Prop
  | recursionLimit : composer.settings.maxDepth ≤ depth →
    Refuses composer p (.recursionLimit depth composer.settings.maxDepth)
  | container : (p.component.container p.id).element? = some tag →
    mergeAttributes (p.component.container p.id) p.component.setup p.site p.id = .error e →
    Refuses composer p (.container p.id e)

/-- If an error stops a component, then it stops the last of those given. -/
def RefusesLast (composer : Composer) (placements : List Placement) (e : ComposeError) : Prop :=
  e.isRefusal = true → ∃ last, placements.getLast? = some last ∧ composer.Refuses last e

end Composer

namespace Placement.Framed
variable {p : Placement} {frame frame' : Frame}

/-- A component has one frame. -/
theorem unique (h : p.Framed frame) (h' : p.Framed frame') : frame = frame' := by
  cases h with
  | bare htag =>
    cases h' with
    | bare => rfl
    | void htag' => exact nomatch htag.symm.trans htag'
    | element htag' => exact nomatch htag.symm.trans htag'
  | void htag hmerge hname =>
    cases h' with
    | bare htag' => exact nomatch htag.symm.trans htag'
    | void htag' hmerge' =>
      cases htag.symm.trans htag'
      cases hmerge.symm.trans hmerge'
      rfl
    | element htag' _ hname' =>
      cases htag.symm.trans htag'
      exact nomatch hname.symm.trans hname'
  | element htag hmerge hname =>
    cases h' with
    | bare htag' => exact nomatch htag.symm.trans htag'
    | void htag' _ hname' =>
      cases htag.symm.trans htag'
      exact nomatch hname.symm.trans hname'
    | element htag' hmerge' =>
      cases htag.symm.trans htag'
      cases hmerge.symm.trans hmerge'
      rfl

theorem not_error {tag : String} {e : AttributeError} (h : p.Framed frame)
    (htag : (p.component.container p.id).element? = some tag)
    (hmerge : mergeAttributes (p.component.container p.id) p.component.setup p.site p.id =
      .error e) : False := by
  cases h with
  | bare htag' => exact nomatch htag.symm.trans htag'
  | void _ hmerge' => exact nomatch hmerge.symm.trans hmerge'
  | element _ hmerge' => exact nomatch hmerge.symm.trans hmerge'

end Placement.Framed

/-! ## Executions -/

/-- The frame of a component, if its opening tag can be built. -/
def Placement.frame? (p : Placement) : Option Frame :=
  match (p.component.container p.id).element? with
  | none => some .bare
  | some tag =>
    match mergeAttributes (p.component.container p.id) p.component.setup p.site p.id with
    | .error _ => none
    | .ok attributes =>
      some (if isVoidElement tag then .void tag attributes else .element tag attributes)

namespace Composer

/-- What is executed for a component at a depth: its template, unless the component stands too deep,
its opening tag cannot be built or its element takes no content. -/
def execution? (composer : Composer) (depth : Nat) (p : Placement) : Option (String × Context) :=
  if depth < composer.settings.maxDepth then p.frame?.bind p.execution? else none

/-- What is executed for a component that is reached among tokens at a depth. -/
def call? (composer : Composer) (depth : Nat) (v : Visit) : Option (String × Context) :=
  composer.execution? (depth + v.path.length - 1) v.placement

/-- What is executed for components that are reached, one after the other. -/
def calls (composer : Composer) (depth : Nat) (visits : List Visit) : List (String × Context) :=
  visits.filterMap (composer.call? depth)

variable {composer : Composer} {depth : Nat} {p : Placement} {frame : Frame} {v : Visit}
  {visits more : List Visit}

theorem frame?_of_framed (h : p.Framed frame) : p.frame? = some frame := by
  unfold Placement.frame?
  cases h with
  | bare htag => rw [htag]
  | void htag hmerge hname => simp only [htag, hmerge, hname, if_true]
  | element htag hmerge hname => simp only [htag, hmerge, hname, Bool.false_eq_true, if_false]

theorem frame?_of_error {tag : String} {e : AttributeError}
    (htag : (p.component.container p.id).element? = some tag)
    (hmerge : mergeAttributes (p.component.container p.id) p.component.setup p.site p.id =
      .error e) : p.frame? = none := by
  unfold Placement.frame?
  simp only [htag, hmerge]

theorem frame?_eq_some_iff : p.frame? = some frame ↔ p.Framed frame := by
  refine ⟨fun h => ?_, frame?_of_framed⟩
  rcases framed_total p with ⟨frame', hframe⟩ | ⟨tag, e, htag, hmerge⟩
  · rw [frame?_of_framed hframe] at h
    exact Option.some.inj h ▸ hframe
  · exact nomatch (frame?_of_error htag hmerge).symm.trans h

theorem execution?_of_framed (hdepth : depth < composer.settings.maxDepth) (h : p.Framed frame) :
    composer.execution? depth p = p.execution? frame := by
  rw [execution?, if_pos hdepth, frame?_eq_some_iff.mpr h, Option.bind_some]

theorem execution?_of_deep (h : composer.settings.maxDepth ≤ depth) :
    composer.execution? depth p = none := if_neg (Nat.not_lt_of_le h)

theorem execution?_of_container {tag : String} {e : AttributeError}
    (htag : (p.component.container p.id).element? = some tag)
    (hmerge : mergeAttributes (p.component.container p.id) p.component.setup p.site p.id =
      .error e) : composer.execution? depth p = none := by
  rw [execution?, frame?_of_error htag hmerge, Option.bind_none, ite_self]

theorem calls_append :
    composer.calls depth (visits ++ more) =
      composer.calls depth visits ++ composer.calls depth more :=
  List.filterMap_append

theorem calls_cons {tag : Tag} {d : Descriptor} :
    composer.calls depth (⟨[0], tag, d, p⟩ :: visits) =
      (composer.execution? depth p).toList ++ composer.calls depth visits := by
  have hcall : composer.call? depth ⟨[0], tag, d, p⟩ = composer.execution? depth p := rfl
  rw [calls, List.filterMap_cons, hcall]
  cases composer.execution? depth p <;> rfl

/-- At the first level the depth of a component is the length of its path. -/
theorem calls_one : composer.calls 1 visits =
    visits.filterMap fun v => composer.execution? v.path.length v.placement := by
  refine congrFun (congrArg _ (funext fun v => ?_)) _
  rw [call?, Nat.add_sub_cancel_left]

/-- From outside, a component is one level deeper than it seems in the content. -/
theorem calls_under {i : Nat} :
    composer.calls depth (visits.map (Visit.under i)) = composer.calls (depth + 1) visits := by
  rw [calls, List.filterMap_map]
  refine congrFun (congrArg _ (funext fun v => ?_)) _
  show composer.execution? (depth + (v.path.length + 1) - 1) v.placement = _
  rw [call?, Nat.add_right_comm]
  rfl

theorem calls_behind {n : Nat} :
    composer.calls depth (visits.map (Visit.behind n)) = composer.calls depth visits := by
  rw [calls, List.filterMap_map]
  refine congrFun (congrArg _ (funext fun v => ?_)) _
  show composer.execution? (depth + (v.path.modifyHead (· + n)).length - 1) v.placement = _
  rw [List.length_modifyHead]
  rfl

end Composer

theorem executionsOf_component {d : Descriptor} {p : Placement} {frame : Frame}
    {children nodes : List Node} : executionsOf (.component d p frame children :: nodes) =
      ((p.execution? frame).toList ++ executionsOf children) ++ executionsOf nodes := by
  have hown : (Occurrence.mk d p frame).execution? = p.execution? frame := rfl
  rw [executionsOf, occurrencesOf, Node.occurrences, List.cons_append, List.filterMap_cons, hown,
    List.filterMap_append]
  cases p.execution? frame <;> rfl

/-! ## Lists of visits -/

/-- The visits with a property, each once, in the order of the document. -/
structure Listing (P : Visit → Prop) (visits : List Visit) : Prop where
  ordered : visits.Pairwise Visit.Before
  mem_iff : ∀ v, v ∈ visits ↔ P v

/-- Visits at which the ids are resolved one after the other: the second registry is what is left of
the first. -/
inductive Identified : Registry → List Visit → Registry → Prop
  | nil : Identified r [] r
  | cons : r.Makes v.placement.root v.tag v.descriptor v.placement r₁ →
    Identified r₁ visits r' → Identified r (v :: visits) r'

namespace Listing
variable {P Q : Visit → Prop} {visits inner rest : List Visit}

theorem unique {visits' : List Visit} (h : Listing P visits) (h' : Listing P visits') :
    visits = visits' :=
  h.ordered.eq_of_mem_iff h'.ordered fun v => (h.mem_iff v).trans (h'.mem_iff v).symm

theorem congr (h : Listing P visits) (hiff : ∀ v, Q v ↔ P v) : Listing Q visits :=
  ⟨h.ordered, fun v => (h.mem_iff v).trans (hiff v).symm⟩

theorem nil (h : ∀ v, ¬ P v) : Listing P [] :=
  ⟨.nil, fun v => ⟨nofun, fun hv => absurd hv (h v)⟩⟩

end Listing

namespace Identified
variable {r r' r'' : Registry} {visits more : List Visit} {i n : Nat}

theorem append (h : Identified r visits r') (hmore : Identified r' more r'') :
    Identified r (visits ++ more) r'' := by
  induction h with
  | nil => exact hmore
  | cons hmakes _ ih => exact .cons hmakes (ih hmore)

theorem under (h : Identified r visits r') : Identified r (visits.map (Visit.under i)) r' := by
  induction h with
  | nil => exact .nil
  | cons hmakes _ ih => exact .cons hmakes ih

theorem behind (h : Identified r visits r') : Identified r (visits.map (Visit.behind n)) r' := by
  induction h with
  | nil => exact .nil
  | cons hmakes _ ih => exact .cons hmakes ih

end Identified

namespace Composer
variable {composer : Composer} {depth : Nat} {r r' r₁ : Registry} {root : Data} {p : Placement}
  {frame : Frame} {token : Token} {tokens : List Token} {nodes : List Node} {tag : Tag}
  {d : Descriptor} {v : Visit}

/-! ## Tokens one by one -/

theorem Reaches.path_eq (h : composer.Reaches depth r root tokens v) :
    ∃ i path, v.path = i :: path := by
  induction tokens generalizing r v with
  | nil => cases h
  | cons token tokens ih =>
    cases h with
    | tag => exact ⟨_, _, rfl⟩
    | within => exact ⟨_, _, rfl⟩
    | behind _ hrest =>
      obtain ⟨i, path, hpath⟩ := ih hrest
      exact ⟨i + 1, path, by rw [Visit.behind, hpath, List.modifyHead_cons]⟩

theorem not_reaches_nil : ¬ composer.Reaches depth r root [] v := nofun

/-- What is reached at the first token alone. -/
theorem reaches_single_tag (hmakes : r.Makes root tag d p r₁) :
    composer.Reaches depth r root [.tag tag] v ↔
      v = ⟨[0], tag, d, p⟩ ∨ ∃ w, composer.ReachesWithin depth r₁ p w ∧ v = w.under 0 := by
  constructor
  · intro h
    cases h with
    | tag h =>
      obtain ⟨rfl, rfl, -⟩ := hmakes.unique h
      exact .inl rfl
    | within h hwithin =>
      obtain ⟨rfl, rfl, rfl⟩ := hmakes.unique h
      exact .inr ⟨_, hwithin, rfl⟩
    | behind _ hrest => exact absurd hrest not_reaches_nil
  · rintro (rfl | ⟨w, hwithin, rfl⟩)
    · exact .tag hmakes
    · exact .within hmakes hwithin

theorem not_reaches_single (h : ∀ tag d p r₁, token = .tag tag → ¬ r.Makes root tag d p r₁) :
    ¬ composer.Reaches depth r root [token] v := by
  intro hreaches
  cases hreaches with
  | tag hmakes => exact h _ _ _ _ rfl hmakes
  | within hmakes => exact h _ _ _ _ rfl hmakes
  | behind _ hrest => exact absurd hrest not_reaches_nil

theorem reaches_cons_iff (hhead : composer.Expands depth r root [token] nodes r₁) :
    composer.Reaches depth r root (token :: tokens) v ↔
      composer.Reaches depth r root [token] v ∨
      ∃ w, composer.Reaches depth r₁ root tokens w ∧ v = w.behind 1 := by
  constructor
  · intro h
    cases h with
    | tag hmakes => exact .inl (.tag hmakes)
    | within hmakes hwithin => exact .inl (.within hmakes hwithin)
    | behind h hrest =>
      cases hhead.registry_unique h
      exact .inr ⟨_, hrest, rfl⟩
  · rintro (h | ⟨w, hrest, rfl⟩)
    · cases h with
      | tag hmakes => exact .tag hmakes
      | within hmakes hwithin => exact .within hmakes hwithin
      | behind _ hrest => exact absurd hrest not_reaches_nil
    · exact .behind hhead hrest

/-- Behind a tag that fails nothing is reached. -/
theorem reaches_failed_iff {trail : Trail} {e : ComposeError}
    (hfails : composer.TagFails depth r root tag trail e r') :
    composer.Reaches depth r root (.tag tag :: tokens) v ↔
      composer.Reaches depth r root [.tag tag] v := by
  constructor
  · intro h
    cases h with
    | tag hmakes => exact .tag hmakes
    | within hmakes hwithin => exact .within hmakes hwithin
    | behind h _ => exact (Expands.not_tagFails h .nil hfails).elim
  · intro h
    cases h with
    | tag hmakes => exact .tag hmakes
    | within hmakes hwithin => exact .within hmakes hwithin
    | behind _ hrest => exact absurd hrest not_reaches_nil

/-! ## Lists for tokens and components -/

variable {visits inner first rest : List Visit}

theorem listing_single (hmakes : r.Makes root tag d p r₁)
    (h : Listing (composer.ReachesWithin depth r₁ p) inner) :
    Listing (composer.Reaches depth r root [.tag tag])
      (⟨[0], tag, d, p⟩ :: inner.map (Visit.under 0)) where
  ordered := by
    refine List.pairwise_cons.mpr ⟨?_, ?_⟩
    · intro w hw
      obtain ⟨w, hmem, rfl⟩ := List.mem_map.mp hw
      have hwithin := (h.mem_iff w).mp hmem
      cases hwithin with
      | content _ _ _ _ hreaches =>
        obtain ⟨i, path, hpath⟩ := hreaches.path_eq
        refine .inl ⟨i :: path, List.cons_ne_nil i path, ?_⟩
        rw [Visit.under, hpath]
        rfl
    · exact List.pairwise_map.mpr (h.ordered.imp Visit.Before.under)
  mem_iff v := by
    rw [reaches_single_tag hmakes, List.mem_cons, List.mem_map]
    refine or_congr_right ⟨?_, ?_⟩
    · rintro ⟨w, hw, rfl⟩
      exact ⟨w, (h.mem_iff w).mp hw, rfl⟩
    · rintro ⟨w, hw, rfl⟩
      exact ⟨w, (h.mem_iff w).mpr hw, rfl⟩

theorem listing_cons (hhead : composer.Expands depth r root [token] nodes r₁)
    (hfirst : Listing (composer.Reaches depth r root [token]) first)
    (hrest : Listing (composer.Reaches depth r₁ root tokens) rest) :
    Listing (composer.Reaches depth r root (token :: tokens))
      (first ++ rest.map (Visit.behind 1)) where
  ordered := by
    refine List.pairwise_append.mpr ⟨hfirst.ordered,
      List.pairwise_map.mpr (hrest.ordered.imp Visit.Before.behind), ?_⟩
    intro a ha b hb
    obtain ⟨w, hw, rfl⟩ := List.mem_map.mp hb
    obtain ⟨j, path, hpath⟩ := ((hrest.mem_iff w).mp hw).path_eq
    have hlater : (w.behind 1).path = (j + 1) :: path := by
      rw [Visit.behind, hpath, List.modifyHead_cons]
    have hzero : ∃ path, a.path = 0 :: path := by
      cases (hfirst.mem_iff a).mp ha with
      | tag => exact ⟨_, rfl⟩
      | within => exact ⟨_, rfl⟩
      | behind _ h => exact absurd h not_reaches_nil
    obtain ⟨path', hpath'⟩ := hzero
    exact .inr ⟨[], 0, j + 1, path', path, Nat.succ_pos j, hpath', hlater⟩
  mem_iff v := by
    rw [reaches_cons_iff hhead, List.mem_append, hfirst.mem_iff, List.mem_map]
    refine or_congr_right ⟨?_, ?_⟩
    · rintro ⟨w, hw, rfl⟩
      exact ⟨w, (hrest.mem_iff w).mp hw, rfl⟩
    · rintro ⟨w, hw, rfl⟩
      exact ⟨w, (hrest.mem_iff w).mpr hw, rfl⟩

theorem listing_within {text : String} (hdepth : depth < composer.settings.maxDepth)
    (hframe : p.Framed frame) (hcontent : frame.hasContent = true)
    (hbody : composer.executor p.component.body p.context = .ok text)
    (h : Listing (composer.Reaches (depth + 1) r p.component.data (scan r.reserved text).tokens)
      visits) : Listing (composer.ReachesWithin depth r p) visits := by
  refine h.congr fun v => ⟨?_, ?_⟩
  · intro hv
    cases hv with
    | content _ _ _ hbody' hreaches =>
      cases hbody.symm.trans hbody'
      exact hreaches
  · intro hv
    exact .content hdepth hframe hcontent hbody hv

theorem not_reachesWithin_void (hframe : p.Framed frame) (hvoid : frame.hasContent = false) :
    ¬ composer.ReachesWithin depth r p v := by
  intro h
  cases h with
  | content _ hframe' hcontent _ _ =>
    rw [hframe.unique hframe', hcontent] at hvoid
    cases hvoid

/-! ## Success -/

/-- Tokens come to visits: whatever is reached behind them is reached after these. -/
def Precede (composer : Composer) (depth : Nat) (r : Registry) (root : Data) (tokens : List Token)
    (visits : List Visit) (r' : Registry) : Prop :=
  ∀ more rest, Listing (composer.Reaches depth r' root more) rest →
    Listing (composer.Reaches depth r root (tokens ++ more))
      (visits ++ rest.map (Visit.behind tokens.length))

theorem precede_nil : composer.Precede depth r root [] [] r := by
  intro more rest h
  rw [List.length_nil, Visit.behind_zero, List.map_id]
  exact h

theorem Precede.cons (hhead : composer.Expands depth r root [token] nodes r₁)
    (hfirst : Listing (composer.Reaches depth r root [token]) first)
    (htail : composer.Precede depth r₁ root tokens visits r') :
    composer.Precede depth r root (token :: tokens) (first ++ visits.map (Visit.behind 1)) r' := by
  intro more rest h
  have hlist := listing_cons hhead hfirst (htail more rest h)
  have hcomp :
      Visit.behind 1 ∘ Visit.behind tokens.length = Visit.behind (token :: tokens).length :=
    funext fun _ => Visit.behind_behind
  rw [List.map_append, List.map_map, hcomp, ← List.append_assoc] at hlist
  exact hlist

/-- A token that is not made into a component only moves what is behind it. -/
theorem Precede.cons_other (hhead : composer.Expands depth r root [token] nodes r)
    (h : ∀ tag d p r₁, token = .tag tag → ¬ r.Makes root tag d p r₁)
    (htail : composer.Precede depth r root tokens visits r') :
    composer.Precede depth r root (token :: tokens) (visits.map (Visit.behind 1)) r' :=
  .cons hhead (.nil fun _ => not_reaches_single h) htail

theorem Precede.listing (h : composer.Precede depth r root tokens visits r') :
    Listing (composer.Reaches depth r root tokens) visits := by
  have hlist := h [] [] (.nil fun _ => not_reaches_nil)
  rw [List.map_nil, List.append_nil, List.append_nil] at hlist
  exact hlist

mutual
theorem Writes.tour {depth : Nat} {r r' : Registry} {p : Placement} {frame : Frame}
    {nodes : List Node} (h : composer.Writes depth r p frame nodes r') :
    ∃ visits, Listing (composer.ReachesWithin depth r p) visits ∧ Identified r visits r' ∧
      visits.map Visit.part = (occurrencesOf nodes).map Occurrence.part ∧
      (composer.execution? depth p).toList ++ composer.calls (depth + 1) visits =
        (p.execution? frame).toList ++ executionsOf nodes := by
  match h with
  | .void hdepth hframe hvoid =>
    refine ⟨[], .nil fun _ => not_reachesWithin_void hframe hvoid, .nil, rfl, ?_⟩
    rw [execution?_of_framed hdepth hframe]
    rfl
  | .content hdepth hframe hcontent hbody _ hnodes =>
    obtain ⟨visits, hlist, hids, hparts, hcalls⟩ := Expands.tour hnodes
    refine ⟨visits, listing_within hdepth hframe hcontent hbody hlist.listing, hids, hparts, ?_⟩
    rw [execution?_of_framed hdepth hframe, hcalls]
termination_by structural h

/-- The components of an expansion are those that are reached, in the order of the document, and so
are the executions of their templates. -/
theorem Expands.tour {depth : Nat} {r r' : Registry} {root : Data} {tokens : List Token}
    {nodes : List Node} (h : composer.Expands depth r root tokens nodes r') :
    ∃ visits, composer.Precede depth r root tokens visits r' ∧ Identified r visits r' ∧
      visits.map Visit.part = (occurrencesOf nodes).map Occurrence.part ∧
      composer.calls depth visits = executionsOf nodes := by
  match h with
  | .nil => exact ⟨[], precede_nil, .nil, rfl, rfl⟩
  | .literal hrest =>
    obtain ⟨visits, hlist, hids, hparts, hcalls⟩ := hrest.tour
    refine ⟨visits.map (Visit.behind 1), .cons_other (.literal .nil) nofun hlist, hids.behind, ?_,
      calls_behind.trans hcalls⟩
    rw [List.map_map]
    exact hparts
  | .unregistered hlookup hstrict hrest =>
    obtain ⟨visits, hlist, hids, hparts, hcalls⟩ := hrest.tour
    refine ⟨visits.map (Visit.behind 1), .cons_other (.unregistered hlookup hstrict .nil) ?_ hlist,
      hids.behind, ?_, calls_behind.trans hcalls⟩
    · rintro tag d p r₁ ⟨rfl⟩ ⟨hlookup', _, _⟩
      exact nomatch hlookup.symm.trans hlookup'
    · rw [List.map_map]
      exact hparts
  | .component hlookup hmade hid hwrites hrest =>
    have hmakes : r.Makes root _ _ _ _ := .intro hlookup hmade hid
    obtain ⟨inner, hinner, hinnerIds, hinnerParts, hinnerCalls⟩ := hwrites.tour
    obtain ⟨visits, hlist, hids, hparts, hcalls⟩ := hrest.tour
    refine ⟨_,
      .cons (.component hlookup hmade hid hwrites .nil) (listing_single hmakes hinner) hlist,
      (Identified.cons hmakes hinnerIds.under).append hids.behind, ?_, ?_⟩
    · simp only [List.cons_append, List.map_cons, List.map_append, List.map_map, occurrencesOf,
        Node.occurrences, ← hinnerParts, ← hparts]
      rfl
    · rw [calls_append, calls_cons, calls_under, calls_behind, hinnerCalls, hcalls,
        executionsOf_component]
termination_by structural h
end

theorem Writes.listing (h : composer.Writes depth r p frame nodes r') :
    ∃ visits, Listing (composer.ReachesWithin depth r p) visits ∧ Identified r visits r' ∧
      visits.map Visit.part = (occurrencesOf nodes).map Occurrence.part := by
  obtain ⟨visits, hlist, hids, hparts, -⟩ := h.tour
  exact ⟨visits, hlist, hids, hparts⟩

theorem Expands.listing (h : composer.Expands depth r root tokens nodes r') :
    ∃ visits, composer.Precede depth r root tokens visits r' ∧ Identified r visits r' ∧
      visits.map Visit.part = (occurrencesOf nodes).map Occurrence.part := by
  obtain ⟨visits, hlist, hids, hparts, -⟩ := h.tour
  exact ⟨visits, hlist, hids, hparts⟩

/-! ## Failure -/

theorem RefusesLast.cons {placements : List Placement} {e : ComposeError}
    (h : composer.RefusesLast placements e) : composer.RefusesLast (p :: placements) e := by
  intro he
  obtain ⟨last, hlast, hrefuses⟩ := h he
  exact ⟨last, by rw [List.getLast?_cons, hlast, Option.getD_some], hrefuses⟩

theorem RefusesLast.append {placements more : List Placement} {e : ComposeError}
    (h : composer.RefusesLast more e) : composer.RefusesLast (placements ++ more) e := by
  intro he
  obtain ⟨last, hlast, hrefuses⟩ := h he
  exact ⟨last, by rw [List.getLast?_append, hlast, Option.some_or], hrefuses⟩

mutual
theorem Fails.tour {depth : Nat} {r r' : Registry} {p : Placement} {trail : Trail}
    {e : ComposeError} (h : composer.Fails depth r p trail e r') :
    ∃ visits, Listing (composer.ReachesWithin depth r p) visits ∧ Identified r visits r' ∧
      composer.RefusesLast (p :: visits.map Visit.placement) e ∧
      (composer.execution? depth p).toList ++ composer.calls (depth + 1) visits =
        trail.executions := by
  match h with
  | .recursionLimit hlimit =>
    refine ⟨[], .nil fun v hv => ?_, .nil, fun _ => ⟨p, rfl, .recursionLimit hlimit⟩, ?_⟩
    · cases hv with
      | content hdepth => exact absurd hdepth (Nat.not_lt_of_le hlimit)
    · rw [execution?_of_deep hlimit]
      rfl
  | .container _ htag hmerge =>
    refine ⟨[], .nil fun v hv => ?_, .nil, fun _ => ⟨p, rfl, .container htag hmerge⟩, ?_⟩
    · cases hv with
      | content _ hframe => exact hframe.not_error htag hmerge
    · rw [execution?_of_container htag hmerge]
      rfl
  | .template hdepth hframe _ hbody =>
    refine ⟨[], .nil fun v hv => ?_, .nil, nofun, ?_⟩
    · cases hv with
      | content _ _ _ hbody' => exact nomatch hbody.symm.trans hbody'
    · rw [execution?_of_framed hdepth hframe]
      exact List.append_nil _
  | .content hdepth hframe hcontent hbody hfails =>
    obtain ⟨visits, hlist, hids, hlast, hcalls⟩ := FailsWithin.tour hfails
    refine ⟨visits, listing_within hdepth hframe hcontent hbody hlist, hids, hlast.cons, ?_⟩
    rw [execution?_of_framed hdepth hframe, hcalls, Trail.executions_within, Trail.Step.executions,
      List.append_assoc]
termination_by structural h

/-- A text that fails has a list of what is reached, too, and what stops a component is about the
last one in it. -/
theorem FailsWithin.tour {depth : Nat} {r r' : Registry} {root : Data} {text : String}
    {before : List Node} {trail : Trail} {e : ComposeError}
    (h : composer.FailsWithin depth r root text before trail e r') :
    ∃ visits, Listing (composer.Reaches depth r root (scan r.reserved text).tokens) visits ∧
      Identified r visits r' ∧ composer.RefusesLast (visits.map Visit.placement) e ∧
      composer.calls depth visits = executionsOf before ++ trail.executions := by
  match h with
  | .tagSyntax _ hbefore =>
    obtain ⟨visits, hlist, hids, -, hcalls⟩ := hbefore.tour
    exact ⟨visits, hlist.listing, hids, nofun, hcalls.trans (List.append_nil _).symm⟩
  | .tag htokens hbefore hfails =>
    obtain ⟨visits, hlist, hids, -, hcalls⟩ := hbefore.tour
    obtain ⟨inner, hinner, hinnerIds, hlast, hinnerCalls⟩ := TagFails.tour hfails
    rw [htokens]
    refine ⟨_, hlist _ inner (hinner.congr fun _ => reaches_failed_iff hfails),
      hids.append hinnerIds.behind, ?_, ?_⟩
    · rw [List.map_append, List.map_map]
      exact hlast.append
    · rw [calls_append, calls_behind, hcalls, hinnerCalls]
termination_by structural h

theorem TagFails.tour {depth : Nat} {r r' : Registry} {root : Data} {tag : Tag} {trail : Trail}
    {e : ComposeError} (h : composer.TagFails depth r root tag trail e r') :
    ∃ visits, Listing (composer.Reaches depth r root [.tag tag]) visits ∧
      Identified r visits r' ∧ composer.RefusesLast (visits.map Visit.placement) e ∧
      composer.calls depth visits = trail.executions := by
  match h with
  | .unregistered hlookup _ =>
    refine ⟨[], .nil fun _ => not_reaches_single ?_, .nil, nofun, rfl⟩
    rintro tag d p r₁ ⟨rfl⟩ ⟨hlookup', _, _⟩
    exact nomatch hlookup.symm.trans hlookup'
  | .fieldBinding hlookup hmade =>
    refine ⟨[], .nil fun _ => not_reaches_single ?_, .nil, nofun, rfl⟩
    rintro tag d p r₁ ⟨rfl⟩ ⟨hlookup', hmade', _⟩
    cases hlookup.symm.trans hlookup'
    exact nomatch hmade.symm.trans hmade'
  | .component hlookup hmade hid hfails =>
    have hmakes : r.Makes root _ _ _ _ := .intro hlookup hmade hid
    obtain ⟨inner, hinner, hinnerIds, hlast, hcalls⟩ := Fails.tour hfails
    refine ⟨_, listing_single hmakes hinner, .cons hmakes hinnerIds.under, ?_, ?_⟩
    · rw [List.map_cons, List.map_map]
      exact hlast
    · rw [calls_cons, calls_under, hcalls]
termination_by structural h
end

theorem Fails.listing {trail : Trail} {e : ComposeError} (h : composer.Fails depth r p trail e r') :
    ∃ visits, Listing (composer.ReachesWithin depth r p) visits ∧ Identified r visits r' ∧
      composer.RefusesLast (p :: visits.map Visit.placement) e := by
  obtain ⟨visits, hlist, hids, hlast, -⟩ := h.tour
  exact ⟨visits, hlist, hids, hlast⟩

theorem FailsWithin.listing {text : String} {before : List Node} {trail : Trail} {e : ComposeError}
    (h : composer.FailsWithin depth r root text before trail e r') :
    ∃ visits, Listing (composer.Reaches depth r root (scan r.reserved text).tokens) visits ∧
      Identified r visits r' ∧ composer.RefusesLast (visits.map Visit.placement) e := by
  obtain ⟨visits, hlist, hids, hlast, -⟩ := h.tour
  exact ⟨visits, hlist, hids, hlast⟩

theorem TagFails.listing {trail : Trail} {e : ComposeError}
    (h : composer.TagFails depth r root tag trail e r') :
    ∃ visits, Listing (composer.Reaches depth r root [.tag tag]) visits ∧
      Identified r visits r' ∧ composer.RefusesLast (visits.map Visit.placement) e := by
  obtain ⟨visits, hlist, hids, hlast, -⟩ := h.tour
  exact ⟨visits, hlist, hids, hlast⟩

end Composer

end TagWeave
