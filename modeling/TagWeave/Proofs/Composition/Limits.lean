import TagWeave.Proofs.Composition.Courses
import TagWeave.Proofs.Composition.DocumentOrder

/-!
# Looser settings

Settings stop a composition in two ways: by the depth that components may have, and by strictness
about names that are not registered. Looser settings (`ComposeSettings.Within`) change nothing about
a composition that is not stopped in this way (`Request.Takes.transfer`). One that is stopped goes
on from where it was stopped (`Request.Takes.goesOn`): what has been written stays, and so does what
has been counted. A higher limit for the depth is the first case (`Request.maxDepth_raised`).
-/

namespace TagWeave

/-! ## Settings -/

/-- What the first settings allow, the second ones allow, too. -/
structure ComposeSettings.Within (s t : ComposeSettings) : Prop where
  maxDepth : s.maxDepth ≤ t.maxDepth
  strict : s.strict = false → t.strict = false

/-- An error that is due to the first settings and need not arise under the second ones. -/
inductive ComposeError.Lifted (s t : ComposeSettings) : ComposeError → Prop
  | unregistered : s.strict = true → t.strict = false → Lifted s t (.unregistered name)
  | recursionLimit : s.maxDepth < t.maxDepth → Lifted s t (.recursionLimit depth limit)

theorem ComposeError.Lifted.strict_eq_false {s t : ComposeSettings} {name : String}
    (h : (ComposeError.unregistered name).Lifted s t) : t.strict = false := by
  cases h with
  | unregistered _ hloose => exact hloose

theorem ComposeError.Lifted.irrefl {s : ComposeSettings} {e : ComposeError} (h : e.Lifted s s) :
    False := by
  cases h with
  | unregistered hstrict hloose => exact nomatch hstrict.symm.trans hloose
  | recursionLimit hlt => exact Nat.lt_irrefl _ hlt

/-- What is written in the place where an error has been lifted. -/
def ComposeError.inPlace : ComposeError → String
  | unregistered name => unregisteredComment name
  | tagSyntax .. | templateExecution .. | recursionLimit .. | fieldBinding _ | container .. => ""

/-- The second composer executes templates like the first one, as far as these are concerned. -/
def Composer.AgreesOn (a b : Composer) (executions : List (String × Context)) : Prop :=
  ∀ x ∈ executions, b.executor x.1 x.2 = a.executor x.1 x.2

section
variable {a b : Composer} {p : Placement} {frame : Frame} {first second : List (String × Context)}

theorem Composer.AgreesOn.append (h : a.AgreesOn b (first ++ second)) :
    a.AgreesOn b first ∧ a.AgreesOn b second := List.forall_mem_append.mp h

theorem Composer.AgreesOn.body (h : a.AgreesOn b (p.execution? frame).toList)
    (hcontent : frame.hasContent = true) :
    b.executor p.component.body p.context = a.executor p.component.body p.context := by
  refine h (p.component.body, p.context) ?_
  rw [Placement.execution?, if_pos hcontent]
  exact List.mem_singleton_self _

end

/-! ## Compositions that are not stopped -/

namespace Composer
variable {a b : Composer}

mutual
theorem Writes.transfer {depth : Nat} {r r' : Registry} {p : Placement} {frame : Frame}
    {nodes : List Node} (h : a.Writes depth r p frame nodes r')
    (hsettings : a.settings.Within b.settings)
    (hagree : a.AgreesOn b ((p.execution? frame).toList ++ executionsOf nodes)) :
    b.Writes depth r p frame nodes r' := by
  match h with
  | .void hdepth hframe hvoid =>
    exact .void (Nat.lt_of_lt_of_le hdepth hsettings.maxDepth) hframe hvoid
  | .content hdepth hframe hcontent hbody hscan hnodes =>
    obtain ⟨hown, hinner⟩ := hagree.append
    exact .content (Nat.lt_of_lt_of_le hdepth hsettings.maxDepth) hframe hcontent
      ((hown.body hcontent).trans hbody) hscan (Expands.transfer hnodes hsettings hinner)
termination_by structural h

theorem Expands.transfer {depth : Nat} {r r' : Registry} {root : Data} {tokens : List Token}
    {nodes : List Node} (h : a.Expands depth r root tokens nodes r')
    (hsettings : a.settings.Within b.settings) (hagree : a.AgreesOn b (executionsOf nodes)) :
    b.Expands depth r root tokens nodes r' := by
  match h with
  | .nil => exact .nil
  | .literal hrest => exact .literal (hrest.transfer hsettings hagree)
  | .unregistered hlookup hstrict hrest =>
    exact .unregistered hlookup (hsettings.strict hstrict) (hrest.transfer hsettings hagree)
  | .component hlookup hmade hid hwrites hrest =>
    rw [executionsOf_component] at hagree
    obtain ⟨hfirst, hmore⟩ := hagree.append
    exact .component hlookup hmade hid (hwrites.transfer hsettings hfirst)
      (hrest.transfer hsettings hmore)
termination_by structural h
end

mutual
theorem Fails.transfer {depth : Nat} {r r' : Registry} {p : Placement} {trail : Trail}
    {e : ComposeError} (h : a.Fails depth r p trail e r')
    (hsettings : a.settings.Within b.settings) (hagree : a.AgreesOn b trail.executions)
    (he : ¬ e.Lifted a.settings b.settings) : b.Fails depth r p trail e r' := by
  match h with
  | .recursionLimit hlimit =>
    have heq : a.settings.maxDepth = b.settings.maxDepth :=
      Nat.le_antisymm hsettings.maxDepth (Nat.le_of_not_lt fun hlt => he (.recursionLimit hlt))
    rw [heq] at hlimit ⊢
    exact .recursionLimit hlimit
  | .container hdepth htag hmerge =>
    exact .container (Nat.lt_of_lt_of_le hdepth hsettings.maxDepth) htag hmerge
  | .template hdepth hframe hcontent hbody =>
    exact .template (Nat.lt_of_lt_of_le hdepth hsettings.maxDepth) hframe hcontent
      ((AgreesOn.body hagree hcontent).trans hbody)
  | .content hdepth hframe hcontent hbody hfails =>
    rw [Trail.executions_within, Trail.Step.executions, List.append_assoc] at hagree
    obtain ⟨hown, hinner⟩ := hagree.append
    exact .content (Nat.lt_of_lt_of_le hdepth hsettings.maxDepth) hframe hcontent
      ((hown.body hcontent).trans hbody) (FailsWithin.transfer hfails hsettings hinner he)
termination_by structural h

theorem FailsWithin.transfer {depth : Nat} {r r' : Registry} {root : Data} {text : String}
    {before : List Node} {trail : Trail} {e : ComposeError}
    (h : a.FailsWithin depth r root text before trail e r')
    (hsettings : a.settings.Within b.settings)
    (hagree : a.AgreesOn b (executionsOf before ++ trail.executions))
    (he : ¬ e.Lifted a.settings b.settings) :
    b.FailsWithin depth r root text before trail e r' := by
  obtain ⟨hbefore, htrail⟩ := hagree.append
  match h with
  | .tagSyntax hscan hall => exact .tagSyntax hscan (hall.transfer hsettings hbefore)
  | .tag htokens hdone hfails =>
    exact .tag htokens (hdone.transfer hsettings hbefore)
      (TagFails.transfer hfails hsettings htrail he)
termination_by structural h

theorem TagFails.transfer {depth : Nat} {r r' : Registry} {root : Data} {tag : Tag} {trail : Trail}
    {e : ComposeError} (h : a.TagFails depth r root tag trail e r')
    (hsettings : a.settings.Within b.settings) (hagree : a.AgreesOn b trail.executions)
    (he : ¬ e.Lifted a.settings b.settings) : b.TagFails depth r root tag trail e r' := by
  match h with
  | .unregistered hlookup hstrict =>
    refine .unregistered hlookup ?_
    by_contra hloose
    exact he (.unregistered hstrict (Bool.eq_false_of_not_eq_true hloose))
  | .fieldBinding hlookup hmade => exact .fieldBinding hlookup hmade
  | .component hlookup hmade hid hfails =>
    exact .component hlookup hmade hid (Fails.transfer hfails hsettings hagree he)
termination_by structural h
end

end Composer

/-! ## Compositions that are stopped -/

/-- An output, with the registry that is left, goes on from what had been written and counted. -/
structure GoesOn (written : String) (r : Registry) (output : String) (r' : Registry) : Prop where
  output : ∃ rest, output = written ++ rest
  counters : ∀ k, r.counters k ≤ r'.counters k

namespace GoesOn
variable {written output rest : String} {r r' r'' : Registry}

theorem refl : GoesOn written r written r :=
  ⟨⟨"", String.append_empty.symm⟩, fun _ => Nat.le_refl _⟩

/-- Everything goes on from nothing. -/
theorem from_empty (h : ∀ k, r.counters k ≤ r'.counters k) : GoesOn "" r output r' :=
  ⟨⟨output, String.empty_append.symm⟩, h⟩

theorem more (h : GoesOn written r output r') (rest : String)
    (hcounters : ∀ k, r'.counters k ≤ r''.counters k) : GoesOn written r (output ++ rest) r'' := by
  obtain ⟨⟨first, rfl⟩, hfirst⟩ := h
  exact ⟨⟨first ++ rest, String.append_assoc ..⟩, fun k => Nat.le_trans (hfirst k) (hcounters k)⟩

theorem behind (h : GoesOn written r output r') (before : String) :
    GoesOn (before ++ written) r (before ++ output) r' := by
  obtain ⟨⟨rest, rfl⟩, hcounters⟩ := h
  exact ⟨⟨rest, (String.append_assoc ..).symm⟩, hcounters⟩

end GoesOn

theorem Trail.html_silent : silent.html = "" := rfl

theorem htmlOf_append {first second : List Node} :
    htmlOf (first ++ second) = htmlOf first ++ htmlOf second := by
  induction first with
  | nil => rw [List.nil_append, htmlOf, String.empty_append]
  | cons node first ih => rw [List.cons_append, htmlOf, htmlOf, ih, String.append_assoc]

namespace Composer

/-- What is written for a component, however that ends, and the registry that is left. -/
inductive Leaves (composer : Composer) (depth : Nat) (r : Registry) (p : Placement) :
    String → Registry → Prop
  | writes : composer.Writes depth r p frame nodes r' →
    Leaves composer depth r p (frame.opening ++ htmlOf nodes ++ frame.closing) r'
  | fails : composer.Fails depth r p trail e r' → Leaves composer depth r p trail.html r'

inductive LeavesWithin (composer : Composer) (depth : Nat) (r : Registry) (root : Data)
    (text : String) : String → Registry → Prop
  | expands : (scan r.reserved text).error? = none →
    composer.Expands depth r root (scan r.reserved text).tokens nodes r' →
    LeavesWithin composer depth r root text (htmlOf nodes) r'
  | fails : composer.FailsWithin depth r root text before trail e r' →
    LeavesWithin composer depth r root text (htmlOf before ++ trail.html) r'

inductive TagLeaves (composer : Composer) (depth : Nat) (r : Registry) (root : Data) (tag : Tag) :
    String → Registry → Prop
  | expands : composer.HeadExpands depth r root (.tag tag) node r' →
    TagLeaves composer depth r root tag node.html r'
  | fails : composer.TagFails depth r root tag trail e r' →
    TagLeaves composer depth r root tag trail.html r'

variable {a b composer : Composer} {depth : Nat} {r r' r₁ r₂ : Registry} {root : Data}
  {p : Placement} {frame : Frame} {nodes before more : List Node} {trail : Trail}
  {e : ComposeError} {text output : String} {tag : Tag} {tokens done rest : List Token}

/-! ### Counters -/

theorem Writes.counters_le (h : composer.Writes depth r p frame nodes r') (k : Option String) :
    r.counters k ≤ r'.counters k := by
  obtain ⟨_, -, hids, -⟩ := h.listing
  exact hids.numbered.le k

theorem Expands.counters_le (h : composer.Expands depth r root tokens nodes r')
    (k : Option String) : r.counters k ≤ r'.counters k := by
  obtain ⟨_, -, hids, -⟩ := h.listing
  exact hids.numbered.le k

theorem Fails.counters_le (h : composer.Fails depth r p trail e r') (k : Option String) :
    r.counters k ≤ r'.counters k := by
  obtain ⟨_, -, hids, -⟩ := h.listing
  exact hids.numbered.le k

theorem TagFails.counters_le (h : composer.TagFails depth r root tag trail e r')
    (k : Option String) : r.counters k ≤ r'.counters k := by
  obtain ⟨_, -, hids, -⟩ := h.listing
  exact hids.numbered.le k

/-! ### Outputs -/

theorem exists_leaves (composer : Composer) (depth : Nat) (r : Registry) (p : Placement) :
    ∃ output r', composer.Leaves depth r p output r' ∧ ∀ k, r.counters k ≤ r'.counters k := by
  rcases composer.place_total depth p r with ⟨_, _, r', hwrites⟩ | ⟨_, _, r', hfails⟩
  · exact ⟨_, r', .writes hwrites, hwrites.counters_le⟩
  · exact ⟨_, r', .fails hfails, hfails.counters_le⟩

/-- The content of a component comes behind its opening tag. -/
theorem LeavesWithin.content (hdepth : depth < composer.settings.maxDepth) (hframe : p.Framed frame)
    (hcontent : frame.hasContent = true)
    (hbody : composer.executor p.component.body p.context = .ok text)
    (h : composer.LeavesWithin (depth + 1) r p.component.data text output r') :
    ∃ close, composer.Leaves depth r p (frame.opening ++ output ++ close) r' := by
  cases h with
  | expands hscan hnodes =>
    exact ⟨frame.closing, .writes (.content hdepth hframe hcontent hbody hscan hnodes)⟩
  | fails hfails =>
    refine ⟨"", ?_⟩
    have hleaves : composer.Leaves depth r p _ r' :=
      .fails (.content hdepth hframe hcontent hbody hfails)
    rw [Trail.html_within, Trail.Step.html, String.append_assoc] at hleaves
    rw [String.append_empty]
    exact hleaves

theorem TagLeaves.component {d : Descriptor} (h : composer.Leaves depth r₁ p output r')
    (hmakes : r.Makes root tag d p r₁) : composer.TagLeaves depth r root tag output r' := by
  obtain ⟨hlookup, hmade, hid⟩ := hmakes
  cases h with
  | writes hwrites => exact .expands fun _ _ _ hrest => .component hlookup hmade hid hwrites hrest
  | fails hfails => exact .fails (.component hlookup hmade hid hfails)

theorem Expands.append (h : composer.Expands depth r root tokens nodes r₁)
    (hrest : composer.Expands depth r₁ root rest more r₂) :
    composer.Expands depth r root (tokens ++ rest) (nodes ++ more) r₂ := by
  induction tokens generalizing r nodes with
  | nil =>
    cases h
    exact hrest
  | cons token tokens ih =>
    obtain ⟨node, nodes, r', rfl, hhead, htail⟩ := h.uncons
    exact hhead _ _ _ (ih htail)

/-- A text is unfolded up to a tag, then at the tag, and then it goes on somehow. -/
theorem TagLeaves.within (h : composer.TagLeaves depth r₁ root tag output r₂)
    (htokens : (scan r.reserved text).tokens = done ++ .tag tag :: rest)
    (hdone : composer.Expands depth r root done before r₁) :
    ∃ last r', composer.LeavesWithin depth r root text (htmlOf before ++ output ++ last) r' ∧
      ∀ k, r₂.counters k ≤ r'.counters k := by
  cases h with
  | fails hfails =>
    refine ⟨"", r₂, ?_, fun _ => Nat.le_refl _⟩
    rw [String.append_empty]
    exact .fails (.tag htokens hdone hfails)
  | @expands node _ hhead =>
    have hhtml (nodes : List Node) :
        htmlOf (before ++ node :: nodes) = htmlOf before ++ node.html ++ htmlOf nodes := by
      rw [htmlOf_append, htmlOf, String.append_assoc]
    rcases tokens_total (composer.place_total depth) r₂ root rest with ⟨nodes, r', hrest⟩ |
      ⟨done', tag', more, nodes, r₃, trail, e, r', rfl, hrest, hfails⟩
    · have hall := hdone.append (hhead _ _ _ hrest)
      rw [← htokens] at hall
      refine ⟨htmlOf nodes, r', ?_, hrest.counters_le⟩
      rw [← hhtml]
      cases hscan : (scan r.reserved text).error? with
      | none => exact .expands hscan hall
      | some error =>
        have hleaves : composer.LeavesWithin depth r root text _ r' :=
          .fails (.tagSyntax hscan hall)
        rwa [Trail.html_silent, String.append_empty] at hleaves
    · have hall := hdone.append (hhead _ _ _ hrest)
      have hsplit : (scan r.reserved text).tokens =
          (done ++ .tag tag :: done') ++ .tag tag' :: more := by
        rw [htokens, List.append_assoc, List.cons_append]
      refine ⟨htmlOf nodes ++ trail.html, r', ?_, fun k =>
        Nat.le_trans (hrest.counters_le k) (hfails.counters_le k)⟩
      rw [← String.append_assoc, ← hhtml]
      exact .fails (.tag hsplit hall hfails)

/-! ### From the error on -/

mutual
theorem Fails.goesOn {depth : Nat} {r r' : Registry} {p : Placement} {trail : Trail}
    {e : ComposeError} (h : a.Fails depth r p trail e r')
    (hsettings : a.settings.Within b.settings) (hexecutor : b.executor = a.executor)
    (he : e.Lifted a.settings b.settings) :
    ∃ output r'', b.Leaves depth r p output r'' ∧
      GoesOn (trail.html ++ e.inPlace) r' output r'' := by
  match h with
  | .recursionLimit _ =>
    obtain ⟨output, r'', hleaves, hcounters⟩ := b.exists_leaves depth r p
    refine ⟨output, r'', hleaves, ?_⟩
    rw [Trail.html_silent, ComposeError.inPlace, String.empty_append]
    exact .from_empty hcounters
  | .container .. => cases he
  | .template .. => cases he
  | .content hdepth hframe hcontent hbody hfails =>
    obtain ⟨output, r'', hleaves, hgoes⟩ := FailsWithin.goesOn hfails hsettings hexecutor he
    obtain ⟨close, hall⟩ := hleaves.content (Nat.lt_of_lt_of_le hdepth hsettings.maxDepth) hframe
      hcontent (hexecutor ▸ hbody)
    refine ⟨_, r'', hall, ?_⟩
    simp only [Trail.html_within, Trail.Step.html, String.append_assoc]
    refine .behind ?_ _
    rw [← String.append_assoc]
    exact hgoes.more close fun _ => Nat.le_refl _
termination_by structural h

theorem FailsWithin.goesOn {depth : Nat} {r r' : Registry} {root : Data} {text : String}
    {before : List Node} {trail : Trail} {e : ComposeError}
    (h : a.FailsWithin depth r root text before trail e r')
    (hsettings : a.settings.Within b.settings) (hexecutor : b.executor = a.executor)
    (he : e.Lifted a.settings b.settings) :
    ∃ output r'', b.LeavesWithin depth r root text output r'' ∧
      GoesOn (htmlOf before ++ trail.html ++ e.inPlace) r' output r'' := by
  match h with
  | .tagSyntax .. => cases he
  | .tag htokens hdone hfails =>
    obtain ⟨output, r₂, hleaves, hgoes⟩ := TagFails.goesOn hfails hsettings hexecutor he
    have hagree : a.AgreesOn b (executionsOf before) := fun _ _ => by rw [hexecutor]
    obtain ⟨last, r'', hall, hcounters⟩ :=
      hleaves.within htokens (hdone.transfer hsettings hagree)
    refine ⟨_, r'', hall, ?_⟩
    simp only [String.append_assoc]
    exact (hgoes.more last hcounters).behind (htmlOf before)
termination_by structural h

theorem TagFails.goesOn {depth : Nat} {r r' : Registry} {root : Data} {tag : Tag} {trail : Trail}
    {e : ComposeError} (h : a.TagFails depth r root tag trail e r')
    (hsettings : a.settings.Within b.settings) (hexecutor : b.executor = a.executor)
    (he : e.Lifted a.settings b.settings) :
    ∃ output r'', b.TagLeaves depth r root tag output r'' ∧
      GoesOn (trail.html ++ e.inPlace) r' output r'' := by
  match h with
  | .unregistered hlookup _ =>
    have hhead : b.HeadExpands depth r root (.tag tag) (.unregistered (normalName tag.name)) r :=
      fun _ _ _ hrest => .unregistered hlookup he.strict_eq_false hrest
    refine ⟨_, r, .expands hhead, ?_⟩
    rw [Trail.html_silent, ComposeError.inPlace, String.empty_append, Node.html]
    exact .refl
  | .fieldBinding .. => cases he
  | .component hlookup hmade hid hfails =>
    obtain ⟨output, r'', hleaves, hgoes⟩ := Fails.goesOn hfails hsettings hexecutor he
    exact ⟨output, r'', .component hleaves (.intro hlookup hmade hid), hgoes⟩
termination_by structural h
end

end Composer

/-! ## Requests -/

namespace Request

def withComposer (b : Composer) : Request → Request
  | component _ c root => component b c root
  | fragment _ text root => fragment b text root

/-- The request with another limit for the depth. -/
def withMaxDepth (maxDepth : Nat) (q : Request) : Request :=
  q.withComposer ⟨q.composer.executor, { q.composer.settings with maxDepth }⟩

theorem withComposer_self (q : Request) : q.withComposer q.composer = q := by
  cases q <;> rfl

end Request

/-- The error of a course that fails. -/
def Course.error? : Course → Option ComposeError
  | written .. | unfolded _ => none
  | stopped _ _ e => some e
  | refused error => some (.templateExecution "" error)

namespace Request
open Composer (boxes)
variable {a b : Composer} {q : Request} {r r' : Registry} {course : Course} {e : ComposeError}

theorem Takes.transfer (h : (q.withComposer a).Takes r course r')
    (hsettings : a.settings.Within b.settings) (hagree : a.AgreesOn b (q.executed course))
    (he : ∀ e ∈ course.error?, ¬ e.Lifted a.settings b.settings) :
    (q.withComposer b).Takes r course r' := by
  obtain ⟨hfragment, hcomponents⟩ := hagree.append
  cases q with
  | component _ c root =>
    cases h with
    | written hwrites => exact .written (hwrites.transfer hsettings hcomponents)
    | fails hfails => exact .fails (hfails.transfer hsettings hcomponents (he _ rfl))
  | fragment _ text root =>
    have hbody := hfragment _ (List.mem_singleton_self _)
    cases h with
    | unfolded hok hscan hnodes =>
      exact .unfolded (hbody.trans hok) hscan (hnodes.transfer hsettings hcomponents)
    | failsWithin hok hfails =>
      exact .failsWithin (hbody.trans hok) (hfails.transfer hsettings hcomponents (he _ rfl))
    | refused herror => exact .refused (hbody.trans herror)

theorem Takes.goesOn (h : (q.withComposer a).Takes r course r')
    (hsettings : a.settings.Within b.settings) (hexecutor : b.executor = a.executor)
    (herror : course.error? = some e) (he : e.Lifted a.settings b.settings) :
    ∃ course' r'', (q.withComposer b).Takes r course' r'' ∧
      GoesOn (course.output ++ e.inPlace) r' course'.output r'' := by
  cases q with
  | component _ c root =>
    cases h with
    | written => cases herror
    | fails hfails =>
      cases herror
      obtain ⟨output, r'', hleaves, hgoes⟩ := hfails.goesOn hsettings hexecutor he
      rw [Course.output, htmlOf, String.empty_append]
      cases hleaves with
      | writes hwrites => exact ⟨_, r'', .written hwrites, hgoes⟩
      | fails hfails =>
        refine ⟨_, r'', .fails hfails, ?_⟩
        rw [Course.output, htmlOf, String.empty_append]
        exact hgoes
  | fragment _ text root =>
    cases h with
    | unfolded => cases herror
    | failsWithin hok hfails =>
      cases herror
      obtain ⟨output, r'', hleaves, hgoes⟩ := hfails.goesOn hsettings hexecutor he
      rw [← hexecutor] at hok
      cases hleaves with
      | expands hscan hnodes => exact ⟨_, r'', .unfolded hok hscan hnodes, hgoes⟩
      | fails hfails => exact ⟨_, r'', .failsWithin hok hfails, hgoes⟩
    | refused =>
      cases herror
      cases he

/-- Under looser settings a request takes the same course, or goes on from an error. -/
theorem loosened (q : Request) (r : Registry) (hsettings : a.settings.Within b.settings)
    (hexecutor : b.executor = a.executor) :
    (∃ course r', (q.withComposer a).Takes r course r' ∧ (q.withComposer b).Takes r course r') ∨
    ∃ e written r', (q.withComposer a).run r = (.error ⟨e, written⟩, r') ∧
      e.Lifted a.settings b.settings ∧
      GoesOn (written ++ e.inPlace) r' (outputOf ((q.withComposer b).run r).1)
        ((q.withComposer b).run r).2 := by
  obtain ⟨course, r', h⟩ := (q.withComposer a).exists_course r
  by_cases he : ∃ e ∈ course.error?, e.Lifted a.settings b.settings
  · obtain ⟨e, herror, he⟩ := he
    obtain ⟨course', r'', h', hgoes⟩ := h.goesOn hsettings hexecutor herror he
    have houtcome : course.outcome = .error ⟨e, course.output⟩ := by
      cases course <;> cases herror <;> rfl
    refine .inr ⟨e, course.output, r', h.run_eq.trans (by rw [houtcome]), he, ?_⟩
    rw [h'.run_eq, outputOf_outcome]
    exact hgoes
  · refine .inl ⟨course, r', h, h.transfer hsettings (fun _ _ => by rw [hexecutor]) ?_⟩
    exact fun e herror hlifted => he ⟨e, herror, hlifted⟩

/-! ### The limit for the depth -/

/-- **Raising the limit for the depth changes no composition that is not stopped by it.** What has
been written when one is stopped is what the other one begins with, and no counter goes back. -/
theorem maxDepth_raised (q : Request) (r : Registry) {m m' : Nat} (hle : m ≤ m') :
    ((∀ depth limit written,
        ((q.withMaxDepth m).run r).1 ≠ .error ⟨.recursionLimit depth limit, written⟩) →
      (q.withMaxDepth m').run r = (q.withMaxDepth m).run r) ∧
    ∀ depth limit written,
      ((q.withMaxDepth m).run r).1 = .error ⟨.recursionLimit depth limit, written⟩ →
      (∃ rest, outputOf ((q.withMaxDepth m').run r).1 = written ++ rest) ∧
      ∀ k, ((q.withMaxDepth m).run r).2.counters k ≤ ((q.withMaxDepth m').run r).2.counters k := by
  have hsettings : ComposeSettings.Within { q.composer.settings with maxDepth := m }
      { q.composer.settings with maxDepth := m' } := ⟨hle, id⟩
  rcases q.loosened (a := ⟨q.composer.executor, _⟩) (b := ⟨q.composer.executor, _⟩) r hsettings rfl
    with ⟨course, r', hlow, hhigh⟩ | ⟨e, written, r', hrun, hlifted, hgoes⟩
  · have hsame : (q.withMaxDepth m').run r = (q.withMaxDepth m).run r :=
      hhigh.run_eq.trans hlow.run_eq.symm
    refine ⟨fun _ => hsame, fun depth limit written herror => ?_⟩
    rw [hsame, herror]
    exact ⟨⟨"", String.append_empty.symm⟩, fun _ => Nat.le_refl _⟩
  · have hrun : (q.withMaxDepth m).run r = _ := hrun
    cases hlifted with
    | unregistered hstrict hloose => exact nomatch hstrict.symm.trans hloose
    | recursionLimit =>
      rw [hrun]
      refine ⟨fun hother => absurd rfl (hother _ _ _), ?_⟩
      rintro _ _ _ ⟨rfl⟩
      rw [ComposeError.inPlace, String.append_empty] at hgoes
      exact ⟨hgoes.output, hgoes.counters⟩

/-- Two levels are one too few for a box with a text in it; three will do, and more are no
different. -/
theorem maxDepth_raised_boxes :
    (run (.fragment ⟨verbatim, { maxDepth := 2 }⟩ "<ick-box/>" .null) boxes).1 =
      .error ⟨.recursionLimit 2 2, "<div id='ick-box-0'>a"⟩ ∧
    (∃ rest, outputOf (run (.fragment ⟨verbatim, { maxDepth := 3 }⟩ "<ick-box/>" .null) boxes).1 =
      "<div id='ick-box-0'>a" ++ rest) ∧
    run (.fragment ⟨verbatim, { maxDepth := 10 }⟩ "<ick-box/>" .null) boxes =
      run (.fragment ⟨verbatim, { maxDepth := 3 }⟩ "<ick-box/>" .null) boxes := by
  have hstopped : Composer.failure?
      (run (.fragment ⟨verbatim, { maxDepth := 2 }⟩ "<ick-box/>" .null) boxes) =
        some ⟨.recursionLimit 2 2, "<div id='ick-box-0'>a"⟩ := by
    decide +kernel
  have hseen : Composer.seen
      (run (.fragment ⟨verbatim, { maxDepth := 3 }⟩ "<ick-box/>" .null) boxes) =
        some ("<div id='ick-box-0'>a<span id='ick-text-0'>b</span></div>",
          ["ick-box-0", "ick-text-0"]) := by
    decide +kernel
  have hstopped := Composer.failure?_eq_some_iff.mp hstopped
  obtain ⟨result, r', hrun, -⟩ := Composer.exists_of_seen hseen
  have hraised (m m' : Nat) (hle : m ≤ m') :=
    maxDepth_raised (.fragment ⟨verbatim, {}⟩ "<ick-box/>" .null) boxes hle
  refine ⟨hstopped, ((hraised 2 3 (by decide)).2 _ _ _ hstopped).1, (hraised 3 10 (by decide)).1 ?_⟩
  intro depth limit written herror
  exact nomatch (congrArg Prod.fst hrun).symm.trans herror

end Request

end TagWeave
