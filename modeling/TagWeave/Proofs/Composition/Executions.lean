import TagWeave.Proofs.Composition.Limits

/-!
# Templates that a request executes

A request executes the template of the fragment, if it is about one, and then that of each component
that it reaches, in the order of the document, with the data of the component around it as the root
(`Request.executions_in_document_order`). Nothing is executed for a component that cannot be written
or has no content, and nothing after a template has failed. Only what is executed has a part in what
a request comes to (`Request.run_congr`).
-/

namespace TagWeave

namespace Composer
variable {composer : Composer}

/-! ## Roots -/

theorem dropLast_modifyHead (path : List Nat) (n : Nat) :
    (path.modifyHead (· + n)).dropLast = path.dropLast.modifyHead (· + n) := by
  match path with
  | [] => rfl
  | [_] => rfl
  | _ :: _ :: _ => rfl

theorem ReachesWithin.path_ne_nil {depth : Nat} {r : Registry} {p : Placement} {v : Visit}
    (h : composer.ReachesWithin depth r p v) : v.path ≠ [] := by
  obtain ⟨_, _, _, _, hreaches⟩ := h
  obtain ⟨i, path, hpath⟩ := hreaches.path_eq
  rw [hpath]
  exact List.cons_ne_nil i path

mutual
theorem ReachesWithin.root_eq {depth : Nat} {r : Registry} {p : Placement} {v : Visit}
    (h : composer.ReachesWithin depth r p v) :
    v.path.length = 1 ∧ v.placement.root = p.component.data ∨
    ∃ w, composer.ReachesWithin depth r p w ∧ w.path = v.path.dropLast ∧
      v.placement.root = w.placement.component.data := by
  match h with
  | .content hdepth hframe hcontent hbody hreaches =>
    rcases Reaches.root_eq hreaches with hdirect | ⟨w, hw, hpath, hroot⟩
    · exact .inl hdirect
    · exact .inr ⟨w, .content hdepth hframe hcontent hbody hw, hpath, hroot⟩
termination_by structural h

/-- A component has as its root the data of the component around it, or else that of the text. -/
theorem Reaches.root_eq {depth : Nat} {r : Registry} {root : Data} {tokens : List Token} {v : Visit}
    (h : composer.Reaches depth r root tokens v) :
    v.path.length = 1 ∧ v.placement.root = root ∨
    ∃ w, composer.Reaches depth r root tokens w ∧ w.path = v.path.dropLast ∧
      v.placement.root = w.placement.component.data := by
  match h with
  | .tag hmakes =>
    obtain ⟨_, _, _⟩ := hmakes
    exact .inl ⟨rfl, rfl⟩
  | .within (v := v) hmakes hwithin =>
    refine .inr ?_
    rcases ReachesWithin.root_eq hwithin with ⟨hlength, hroot⟩ | ⟨w, hw, hpath, hroot⟩
    · refine ⟨_, .tag hmakes, ?_, hroot⟩
      obtain ⟨i, hpath⟩ := List.length_eq_one_iff.mp hlength
      rw [Visit.under, hpath]
      rfl
    · refine ⟨w.under 0, .within hmakes hw, ?_, hroot⟩
      show 0 :: w.path = (0 :: v.path).dropLast
      rw [List.dropLast_cons_of_ne_nil hwithin.path_ne_nil, hpath]
  | .behind hhead hrest =>
    rcases hrest.root_eq with ⟨hlength, hroot⟩ | ⟨w, hw, hpath, hroot⟩
    · exact .inl ⟨(List.length_modifyHead ..).trans hlength, hroot⟩
    · refine .inr ⟨w.behind 1, .behind hhead hw, ?_, hroot⟩
      show w.path.modifyHead (· + 1) = (List.modifyHead (· + 1) _).dropLast
      rw [dropLast_modifyHead, hpath]
termination_by structural h
end

/-! ## Executions that fail -/

/-- No execution fails. -/
def Succeeds (composer : Composer) (executions : List (String × Context)) : Prop :=
  ∀ x ∈ executions, ∃ text, composer.executor x.1 x.2 = .ok text

section
variable {first second : List (String × Context)} {p : Placement} {frame : Frame} {text : String}

theorem Succeeds.nil : composer.Succeeds [] := List.forall_mem_nil _

theorem Succeeds.single {body : String} {context : Context}
    (h : composer.executor body context = .ok text) : composer.Succeeds [(body, context)] :=
  List.forall_mem_singleton.mpr ⟨text, h⟩

theorem Succeeds.append (h : composer.Succeeds first) (h' : composer.Succeeds second) :
    composer.Succeeds (first ++ second) := List.forall_mem_append.mpr ⟨h, h'⟩

theorem Succeeds.dropLast (h : composer.Succeeds first) : composer.Succeeds first.dropLast :=
  fun x hx => h x (List.dropLast_subset _ hx)

/-- Only the last execution may fail. -/
theorem Succeeds.append_dropLast (h : composer.Succeeds first)
    (h' : composer.Succeeds second.dropLast) : composer.Succeeds (first ++ second).dropLast := by
  by_cases hnil : second = []
  · rw [hnil, List.append_nil]
    exact h.dropLast
  · rw [List.dropLast_append_of_ne_nil hnil]
    exact h.append h'

theorem succeeds_execution? (h : composer.executor p.component.body p.context = .ok text) :
    composer.Succeeds (p.execution? frame).toList := by
  unfold Placement.execution?
  split
  · exact .single h
  · exact .nil

end

mutual
theorem Writes.succeeds {depth : Nat} {r r' : Registry} {p : Placement} {frame : Frame}
    {nodes : List Node} (h : composer.Writes depth r p frame nodes r') :
    composer.Succeeds ((p.execution? frame).toList ++ executionsOf nodes) := by
  match h with
  | .void _ _ hvoid =>
    rw [Placement.execution?, if_neg (Bool.eq_false_iff.mp hvoid)]
    exact .nil
  | .content _ _ _ hbody _ hnodes =>
    exact (succeeds_execution? hbody).append (Expands.succeeds hnodes)
termination_by structural h

theorem Expands.succeeds {depth : Nat} {r r' : Registry} {root : Data} {tokens : List Token}
    {nodes : List Node} (h : composer.Expands depth r root tokens nodes r') :
    composer.Succeeds (executionsOf nodes) := by
  match h with
  | .nil => exact .nil
  | .literal hrest => exact hrest.succeeds
  | .unregistered _ _ hrest => exact hrest.succeeds
  | .component _ _ _ hwrites hrest =>
    rw [executionsOf_component]
    exact hwrites.succeeds.append hrest.succeeds
termination_by structural h
end

mutual
theorem Fails.succeeds {depth : Nat} {r r' : Registry} {p : Placement} {trail : Trail}
    {e : ComposeError} (h : composer.Fails depth r p trail e r') :
    composer.Succeeds trail.executions.dropLast := by
  match h with
  | .recursionLimit _ => exact .nil
  | .container .. => exact .nil
  | .template _ _ hcontent _ =>
    rw [Trail.executions]
    show composer.Succeeds (Option.toList (Placement.execution? _ _)).dropLast
    rw [Placement.execution?, if_pos hcontent]
    exact .nil
  | .content _ _ _ hbody hfails =>
    rw [Trail.executions_within, Trail.Step.executions, List.append_assoc]
    exact (succeeds_execution? hbody).append_dropLast (FailsWithin.succeeds hfails)
termination_by structural h

theorem FailsWithin.succeeds {depth : Nat} {r r' : Registry} {root : Data} {text : String}
    {before : List Node} {trail : Trail} {e : ComposeError}
    (h : composer.FailsWithin depth r root text before trail e r') :
    composer.Succeeds (executionsOf before ++ trail.executions).dropLast := by
  match h with
  | .tagSyntax _ hbefore => exact hbefore.succeeds.append_dropLast .nil
  | .tag _ hbefore hfails => exact hbefore.succeeds.append_dropLast (TagFails.succeeds hfails)
termination_by structural h

theorem TagFails.succeeds {depth : Nat} {r r' : Registry} {root : Data} {tag : Tag} {trail : Trail}
    {e : ComposeError} (h : composer.TagFails depth r root tag trail e r') :
    composer.Succeeds trail.executions.dropLast := by
  match h with
  | .unregistered .. => exact .nil
  | .fieldBinding .. => exact .nil
  | .component _ _ _ hfails => exact Fails.succeeds hfails
termination_by structural h
end

end Composer

/-! ## Requests -/

namespace Request
variable {q : Request} {r r' : Registry} {course : Course}

/-- The registry once the id of the component that is composed is resolved. -/
def entered : Request → Registry → Registry
  | component _ c _, r => (r.identifyRoot c).2
  | fragment .., r => r

/-- What the outermost tags have as their root. -/
def outerData : Request → Data
  | component _ c _ => c.data
  | fragment _ _ root => root

theorem Takes.calls (h : q.Takes r course r') :
    ∃ visits, Listing (q.Reaches r) visits ∧ Identified (q.entered r) visits r' ∧
      course.executions = ((q.outermost? r).bind (q.composer.execution? 0)).toList ++
        q.composer.calls 1 visits := by
  cases h with
  | written hwrites =>
    obtain ⟨visits, hlist, hids, -, hcalls⟩ := hwrites.tour
    exact ⟨visits, listing_component hlist, hids, hcalls.symm⟩
  | fails hfails =>
    obtain ⟨visits, hlist, hids, -, hcalls⟩ := hfails.tour
    exact ⟨visits, listing_component hlist, hids, hcalls.symm⟩
  | unfolded hbody _ hnodes =>
    obtain ⟨visits, hlist, hids, -, hcalls⟩ := hnodes.tour
    exact ⟨visits, listing_fragment hbody hlist.listing, hids, hcalls.symm⟩
  | failsWithin hbody hfails =>
    obtain ⟨visits, hlist, hids, -, hcalls⟩ := hfails.tour
    exact ⟨visits, listing_fragment hbody hlist, hids, hcalls.symm⟩
  | refused herror =>
    refine ⟨[], .nil ?_, .nil, rfl⟩
    rintro v (_ | ⟨hbody, -⟩)
    cases herror.symm.trans hbody

theorem Takes.succeeds (h : q.Takes r course r') :
    q.composer.Succeeds (q.executed course).dropLast := by
  cases h with
  | written hwrites => exact hwrites.succeeds.dropLast
  | fails hfails => exact hfails.succeeds
  | unfolded hbody _ hnodes =>
    exact ((Composer.Succeeds.single hbody).append hnodes.succeeds).dropLast
  | failsWithin hbody hfails =>
    exact (Composer.Succeeds.single hbody).append_dropLast hfails.succeeds
  | refused _ => exact .nil

theorem Reaches.root_eq {v : Visit} (h : q.Reaches r v) :
    v.path.length = 1 ∧ v.placement.root = q.outerData ∨
    ∃ w, q.Reaches r w ∧ w.path = v.path.dropLast ∧
      v.placement.root = w.placement.component.data := by
  cases h with
  | component hwithin =>
    rcases hwithin.root_eq with hdirect | ⟨w, hw, hpath, hroot⟩
    · exact .inl hdirect
    · exact .inr ⟨w, .component hw, hpath, hroot⟩
  | fragment hbody hreaches =>
    rcases hreaches.root_eq with hdirect | ⟨w, hw, hpath, hroot⟩
    · exact .inl hdirect
    · exact .inr ⟨w, .fragment hbody hw, hpath, hroot⟩

/-- The executor has no part in a request but by what it makes of the templates executed. -/
theorem run_congr {executor : Executor}
    (h : ∀ x ∈ q.executions r, executor x.1 x.2 = q.composer.executor x.1 x.2) :
    (q.withComposer ⟨executor, q.composer.settings⟩).run r = q.run r ∧
      (q.withComposer ⟨executor, q.composer.settings⟩).executions r = q.executions r := by
  obtain ⟨course, r', htakes⟩ := q.exists_course r
  rw [htakes.executions_eq] at h ⊢
  have hself : (q.withComposer q.composer).Takes r course r' := by
    rw [withComposer_self]
    exact htakes
  have hother := hself.transfer (b := ⟨executor, q.composer.settings⟩) ⟨Nat.le_refl _, id⟩ h
    fun _ _ hlifted => hlifted.irrefl
  refine ⟨hother.run_eq.trans htakes.run_eq.symm, hother.executions_eq.trans ?_⟩
  cases q <;> rfl

/-- **Templates are executed in the order of the document.** First comes the template of a fragment;
then, for the component that is composed and for each one that is reached, its own template, unless
the component stands too deep, its opening tag cannot be built or it takes no content. The template
sees the id and the data of the component once the fields are filled, and as the root the data of
the component around it, or else what the caller gave. Only the last execution may fail. -/
theorem executions_in_document_order (q : Request) (r : Registry) :
    q.run r = Composer.finish (q.id? r) (q.perform r) ∧
    ∃ visits, Listing (q.Reaches r) visits ∧ Identified (q.entered r) visits (q.run r).2 ∧
      (q.perform r).2.executions = q.fragmentExecution?.toList ++
        ((q.outermost? r).bind (q.composer.execution? 0)).toList ++
        visits.filterMap (fun v => q.composer.execution? v.path.length v.placement) ∧
      (∀ v ∈ visits, v.path.length = 1 ∧ v.placement.root = q.outerData ∨
        ∃ w ∈ visits, w.path = v.path.dropLast ∧ v.placement.root = w.placement.component.data) ∧
      ∀ x ∈ (q.perform r).2.executions.dropLast,
        ∃ text, q.composer.executor x.1 x.2 = .ok text := by
  obtain ⟨course, r', h⟩ := q.exists_course r
  have hexecutions : (q.perform r).2.executions = q.executed course := h.executions_eq
  obtain ⟨visits, hlist, hids, hcalls⟩ := h.calls
  refine ⟨q.run_eq_finish, visits, hlist, ?_, ?_, fun v hv => ?_, ?_⟩
  · rw [h.run_eq]
    exact hids
  · rw [hexecutions, executed, hcalls, Composer.calls_one, List.append_assoc]
  · rcases ((hlist.mem_iff v).mp hv).root_eq with hdirect | ⟨w, hw, hpath, hroot⟩
    · exact .inl hdirect
    · exact .inr ⟨w, (hlist.mem_iff w).mpr hw, hpath, hroot⟩
  · rw [hexecutions]
    exact h.succeeds

/-- The line is void, so that its template is left out. The text sees the data of its box. -/
theorem executions_in_document_order_boxes :
    ∃ visits,
      Listing (Reaches (fragment ⟨verbatim, {}⟩ "<ick-box/><ick-line/>" .null) Composer.boxes)
        visits ∧
      (visits.filterMap fun v => Composer.execution? ⟨verbatim, {}⟩ v.path.length v.placement).map
        (fun x => (x.1, x.2.id)) =
          [("a<ick-text Content=b/>", "ick-box-0"), ("b", "ick-text-0")] ∧
      ∀ v ∈ visits, v.path.length = 1 ∧ v.placement.root = .null ∨
        ∃ w ∈ visits, w.path = v.path.dropLast ∧
          v.placement.root = w.placement.component.data := by
  have hexecutions :
      ((fragment ⟨verbatim, {}⟩ "<ick-box/><ick-line/>" .null).perform
        Composer.boxes).2.executions.map (fun x => (x.1, x.2.id)) = [("<ick-box/><ick-line/>", ""),
          ("a<ick-text Content=b/>", "ick-box-0"), ("b", "ick-text-0")] := by
    decide +kernel
  obtain ⟨-, visits, hlist, -, hcalls, hroots, -⟩ := executions_in_document_order
    (fragment ⟨verbatim, {}⟩ "<ick-box/><ick-line/>" .null) Composer.boxes
  rw [hcalls] at hexecutions
  exact ⟨visits, hlist, (List.cons.inj hexecutions).2, hroots⟩

end Request

end TagWeave
