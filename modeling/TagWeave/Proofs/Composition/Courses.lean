import TagWeave.Proofs.Composition.Requests

/-!
# Courses

A request takes one course (`Request.Takes`): it comes to a tree, it stops at the end of a trail, or
the template of the fragment itself fails. The course says what is returned
(`Request.run_eq_iff`) and what is executed (`Request.Takes.executions_eq`). There is always one
course (`Request.exists_course`), and by the rules there is no other (`Request.Takes.unique`).
-/

namespace TagWeave

/-! ## The rules leave no choice -/

namespace Composer
variable {composer : Composer}

mutual
theorem Writes.unique {depth : Nat} {r r₁ r₂ : Registry} {p : Placement} {frame frame' : Frame}
    {nodes nodes' : List Node} (h : composer.Writes depth r p frame nodes r₁)
    (h' : composer.Writes depth r p frame' nodes' r₂) :
    frame = frame' ∧ nodes = nodes' ∧ r₁ = r₂ := by
  match h with
  | .void _ hframe hvoid =>
    cases h' with
    | void _ hframe' => exact ⟨hframe.unique hframe', rfl, rfl⟩
    | content _ hframe' hcontent =>
      cases hframe.unique hframe'
      exact nomatch hvoid.symm.trans hcontent
  | .content _ hframe hcontent hbody _ hnodes =>
    cases h' with
    | void _ hframe' hvoid =>
      cases hframe.unique hframe'
      exact nomatch hvoid.symm.trans hcontent
    | content _ hframe' _ hbody' _ hnodes' =>
      cases hbody.symm.trans hbody'
      exact ⟨hframe.unique hframe', Expands.unique hnodes hnodes'⟩
termination_by structural h

theorem Expands.unique {depth : Nat} {r r₁ r₂ : Registry} {root : Data} {tokens : List Token}
    {nodes nodes' : List Node} (h : composer.Expands depth r root tokens nodes r₁)
    (h' : composer.Expands depth r root tokens nodes' r₂) : nodes = nodes' ∧ r₁ = r₂ := by
  match h with
  | .nil =>
    cases h'
    exact ⟨rfl, rfl⟩
  | .literal hrest =>
    cases h' with | literal hrest' => ?_
    obtain ⟨rfl, rfl⟩ := hrest.unique hrest'
    exact ⟨rfl, rfl⟩
  | .unregistered hlookup _ hrest =>
    cases h' with
    | unregistered _ _ hrest' =>
      obtain ⟨rfl, rfl⟩ := hrest.unique hrest'
      exact ⟨rfl, rfl⟩
    | component hlookup' => exact nomatch hlookup.symm.trans hlookup'
  | .component hlookup hmade hid hwrites hrest =>
    cases h' with
    | unregistered hlookup' => exact nomatch hlookup.symm.trans hlookup'
    | component hlookup' hmade' hid' hwrites' hrest' =>
      cases hlookup.symm.trans hlookup'
      cases hmade.symm.trans hmade'
      cases hid.symm.trans hid'
      obtain ⟨rfl, rfl, rfl⟩ := hwrites.unique hwrites'
      obtain ⟨rfl, rfl⟩ := hrest.unique hrest'
      exact ⟨rfl, rfl⟩
termination_by structural h
end

/-- Only one tag of a text fails. -/
theorem split_unique {depth : Nat} {r r₁ r₁' r₂ r₂' : Registry} {root : Data}
    {done done' more more' : List Token} {tag tag' : Tag} {before before' : List Node}
    {trail trail' : Trail} {e e' : ComposeError}
    (htokens : done ++ .tag tag :: more = done' ++ .tag tag' :: more')
    (hdone : composer.Expands depth r root done before r₁)
    (hdone' : composer.Expands depth r root done' before' r₁')
    (hfails : composer.TagFails depth r₁ root tag trail e r₂)
    (hfails' : composer.TagFails depth r₁' root tag' trail' e' r₂') :
    done = done' ∧ tag = tag' := by
  -- If one failing tag stood in front of the other, it would have been expanded.
  rcases List.append_eq_append_iff.mp htokens with ⟨between, rfl, hrest⟩ | ⟨between, rfl, hrest⟩
  · cases between with
    | nil =>
      cases hrest
      exact ⟨(List.append_nil done).symm, rfl⟩
    | cons token between =>
      cases hrest
      exact (hdone'.not_tagFails hdone hfails).elim
  · cases between with
    | nil =>
      cases hrest
      exact ⟨List.append_nil done', rfl⟩
    | cons token between =>
      cases hrest
      exact (hdone.not_tagFails hdone' hfails').elim

mutual
theorem Fails.unique {depth : Nat} {r r₁ r₂ : Registry} {p : Placement} {trail trail' : Trail}
    {e e' : ComposeError} (h : composer.Fails depth r p trail e r₁)
    (h' : composer.Fails depth r p trail' e' r₂) : trail = trail' ∧ e = e' ∧ r₁ = r₂ := by
  match h with
  | .recursionLimit hlimit =>
    cases h' with
    | recursionLimit => exact ⟨rfl, rfl, rfl⟩
    | container hdepth => exact absurd hdepth (Nat.not_lt_of_le hlimit)
    | template hdepth => exact absurd hdepth (Nat.not_lt_of_le hlimit)
    | content hdepth => exact absurd hdepth (Nat.not_lt_of_le hlimit)
  | .container hdepth htag hmerge =>
    cases h' with
    | recursionLimit hlimit => exact absurd hdepth (Nat.not_lt_of_le hlimit)
    | container _ htag' hmerge' =>
      cases htag.symm.trans htag'
      cases hmerge.symm.trans hmerge'
      exact ⟨rfl, rfl, rfl⟩
    | template _ hframe => exact (hframe.not_error htag hmerge).elim
    | content _ hframe => exact (hframe.not_error htag hmerge).elim
  | .template hdepth hframe _ hbody =>
    cases h' with
    | recursionLimit hlimit => exact absurd hdepth (Nat.not_lt_of_le hlimit)
    | container _ htag hmerge => exact (hframe.not_error htag hmerge).elim
    | template _ hframe' _ hbody' =>
      cases hframe.unique hframe'
      cases hbody.symm.trans hbody'
      exact ⟨rfl, rfl, rfl⟩
    | content _ _ _ hbody' => exact nomatch hbody.symm.trans hbody'
  | .content hdepth hframe _ hbody hfails =>
    cases h' with
    | recursionLimit hlimit => exact absurd hdepth (Nat.not_lt_of_le hlimit)
    | container _ htag hmerge => exact (hframe.not_error htag hmerge).elim
    | template _ _ _ hbody' => exact nomatch hbody.symm.trans hbody'
    | content _ hframe' _ hbody' hfails' =>
      cases hframe.unique hframe'
      cases hbody.symm.trans hbody'
      obtain ⟨rfl, rfl, rfl, rfl⟩ := FailsWithin.unique hfails hfails'
      exact ⟨rfl, rfl, rfl⟩
termination_by structural h

theorem FailsWithin.unique {depth : Nat} {r r₁ r₂ : Registry} {root : Data} {text : String}
    {before before' : List Node} {trail trail' : Trail} {e e' : ComposeError}
    (h : composer.FailsWithin depth r root text before trail e r₁)
    (h' : composer.FailsWithin depth r root text before' trail' e' r₂) :
    before = before' ∧ trail = trail' ∧ e = e' ∧ r₁ = r₂ := by
  match h with
  | .tagSyntax herror hall =>
    cases h' with
    | tagSyntax herror' hall' =>
      cases herror.symm.trans herror'
      obtain ⟨rfl, rfl⟩ := hall.unique hall'
      exact ⟨rfl, rfl, rfl, rfl⟩
    | tag htokens hbefore hfails =>
      rw [htokens] at hall
      exact (hall.not_tagFails hbefore hfails).elim
  | .tag htokens hbefore hfails =>
    cases h' with
    | tagSyntax _ hall =>
      rw [htokens] at hall
      exact (hall.not_tagFails hbefore hfails).elim
    | tag htokens' hbefore' hfails' =>
      obtain ⟨rfl, rfl⟩ :=
        split_unique (htokens.symm.trans htokens') hbefore hbefore' hfails hfails'
      obtain ⟨rfl, rfl⟩ := hbefore.unique hbefore'
      exact ⟨rfl, TagFails.unique hfails hfails'⟩
termination_by structural h

theorem TagFails.unique {depth : Nat} {r r₁ r₂ : Registry} {root : Data} {tag : Tag}
    {trail trail' : Trail} {e e' : ComposeError}
    (h : composer.TagFails depth r root tag trail e r₁)
    (h' : composer.TagFails depth r root tag trail' e' r₂) : trail = trail' ∧ e = e' ∧ r₁ = r₂ := by
  match h with
  | .unregistered hlookup _ =>
    cases h' with
    | unregistered => exact ⟨rfl, rfl, rfl⟩
    | fieldBinding hlookup' => exact nomatch hlookup.symm.trans hlookup'
    | component hlookup' => exact nomatch hlookup.symm.trans hlookup'
  | .fieldBinding hlookup hmade =>
    cases h' with
    | unregistered hlookup' => exact nomatch hlookup.symm.trans hlookup'
    | fieldBinding hlookup' hmade' =>
      cases hlookup.symm.trans hlookup'
      cases hmade.symm.trans hmade'
      exact ⟨rfl, rfl, rfl⟩
    | component hlookup' hmade' =>
      cases hlookup.symm.trans hlookup'
      exact nomatch hmade.symm.trans hmade'
  | .component hlookup hmade hid hfails =>
    cases h' with
    | unregistered hlookup' => exact nomatch hlookup.symm.trans hlookup'
    | fieldBinding hlookup' hmade' =>
      cases hlookup.symm.trans hlookup'
      exact nomatch hmade.symm.trans hmade'
    | component hlookup' hmade' hid' hfails' =>
      cases hlookup.symm.trans hlookup'
      cases hmade.symm.trans hmade'
      cases hid.symm.trans hid'
      exact Fails.unique hfails hfails'
termination_by structural h
end

end Composer

/-! ## Courses of a request -/

/-- What a request comes to. -/
inductive Course
  /-- The element of the component that is composed. -/
  | written (p : Placement) (frame : Frame) (nodes : List Node)
  /-- The nodes of a fragment. -/
  | unfolded (nodes : List Node)
  /-- A failure at the end of a trail, behind the nodes of a fragment. -/
  | stopped (before : List Node) (trail : Trail) (e : ComposeError)
  /-- The template of a fragment fails. -/
  | refused (error : TemplateError)

namespace Course

def output : Course → String
  | written _ frame nodes => frame.opening ++ htmlOf nodes ++ frame.closing
  | unfolded nodes => htmlOf nodes
  | stopped before trail _ => htmlOf before ++ trail.html
  | refused _ => templateErrorMarker

/-- What is returned. -/
def outcome (course : Course) : Except ComposeFailure Composition :=
  match course with
  | written p _ nodes => .ok (.ofNodes (some p.id) course.output nodes)
  | unfolded nodes => .ok (.ofNodes none course.output nodes)
  | stopped _ _ e => .error ⟨e, course.output⟩
  | refused error => .error ⟨.templateExecution "" error, course.output⟩

/-- The templates of components that are executed. -/
def executions : Course → List (String × Context)
  | written p frame nodes => (p.execution? frame).toList ++ executionsOf nodes
  | unfolded nodes => executionsOf nodes
  | stopped before trail _ => executionsOf before ++ trail.executions
  | refused _ => []

end Course

/-- What has been written, whether a composition succeeds or fails. -/
def outputOf : Except ComposeFailure Composition → String
  | .ok c => c.html
  | .error f => f.written

theorem outputOf_outcome {course : Course} : outputOf course.outcome = course.output := by
  cases course <;> rfl

/-- A request takes a course. The second registry is what is left of the first. -/
inductive Request.Takes : Request → Registry → Course → Registry → Prop
  | written {composer : Composer} :
    composer.Writes 0 (r.identifyRoot c).2 (.outermost r c root) frame nodes r' →
    Takes (.component composer c root) r (.written (.outermost r c root) frame nodes) r'
  | fails {composer : Composer} :
    composer.Fails 0 (r.identifyRoot c).2 (.outermost r c root) trail e r' →
    Takes (.component composer c root) r (.stopped [] trail e) r'
  | unfolded {composer : Composer} : composer.executor text (.ofFragment root) = .ok body →
    (scan r.reserved body).error? = none →
    composer.Expands 1 r root (scan r.reserved body).tokens nodes r' →
    Takes (.fragment composer text root) r (.unfolded nodes) r'
  | failsWithin {composer : Composer} : composer.executor text (.ofFragment root) = .ok body →
    composer.FailsWithin 1 r root body before trail e r' →
    Takes (.fragment composer text root) r (.stopped before trail e) r'
  | refused {composer : Composer} : composer.executor text (.ofFragment root) = .error error →
    Takes (.fragment composer text root) r (.refused error) r

namespace Request
variable {q : Request} {r r' r₁ r₂ : Registry} {course course' : Course}
  {outcome : Except ComposeFailure Composition}

/-- The course of a request says what the request returns. -/
theorem Takes.run_eq (h : q.Takes r course r') : q.run r = (course.outcome, r') := by
  cases h with
  | written hwrites => exact Composer.compose_ok_iff.mpr ⟨_, _, hwrites, rfl⟩
  | fails hfails =>
    refine Composer.compose_error_iff.mpr ⟨_, hfails, ?_⟩
    rw [Course.output, htmlOf, String.empty_append]
  | unfolded hbody hscan hnodes =>
    exact Composer.composeFragment_ok_iff.mpr ⟨_, _, hbody, hscan, hnodes, rfl⟩
  | failsWithin hbody hfails =>
    exact Composer.composeFragment_error_iff.mpr (.inr ⟨_, _, _, hbody, hfails, rfl⟩)
  | refused hbody => exact Composer.composeFragment_of_error hbody

theorem exists_course (q : Request) (r : Registry) : ∃ course r', q.Takes r course r' := by
  cases q with
  | component composer c root =>
    rcases composer.place_total 0 (.outermost r c root) (r.identifyRoot c).2 with
      ⟨_, _, r', hwrites⟩ | ⟨_, _, r', hfails⟩
    · exact ⟨_, r', .written hwrites⟩
    · exact ⟨_, r', .fails hfails⟩
  | fragment composer text root =>
    cases hbody : composer.executor text (.ofFragment root) with
    | error error => exact ⟨_, r, .refused hbody⟩
    | ok body =>
      rcases Composer.text_total (composer.place_total 1) r root body with
        ⟨_, r', hscan, hnodes⟩ | ⟨_, _, _, r', hfails⟩
      · exact ⟨_, r', .unfolded hbody hscan hnodes⟩
      · exact ⟨_, r', .failsWithin hbody hfails⟩

theorem run_eq_iff :
    q.run r = (outcome, r') ↔ ∃ course, q.Takes r course r' ∧ outcome = course.outcome := by
  constructor
  · intro hrun
    obtain ⟨course, r₁, h⟩ := q.exists_course r
    rw [h.run_eq] at hrun
    cases hrun
    exact ⟨course, h, rfl⟩
  · rintro ⟨course, h, rfl⟩
    exact h.run_eq

/-- A request has one course. -/
theorem Takes.unique (h : q.Takes r course r₁) (h' : q.Takes r course' r₂) :
    course = course' ∧ r₁ = r₂ := by
  have hrun := h.run_eq.symm.trans h'.run_eq
  cases h with
  | written hwrites =>
    cases h' with
    | written hwrites' =>
      obtain ⟨rfl, rfl, rfl⟩ := hwrites.unique hwrites'
      exact ⟨rfl, rfl⟩
    | fails => cases hrun
  | fails hfails =>
    cases h' with
    | written => cases hrun
    | fails hfails' =>
      obtain ⟨rfl, rfl, rfl⟩ := hfails.unique hfails'
      exact ⟨rfl, rfl⟩
  | unfolded hbody _ hnodes =>
    cases h' with
    | unfolded hbody' _ hnodes' =>
      cases hbody.symm.trans hbody'
      obtain ⟨rfl, rfl⟩ := hnodes.unique hnodes'
      exact ⟨rfl, rfl⟩
    | failsWithin => cases hrun
    | refused => cases hrun
  | failsWithin hbody hfails =>
    cases h' with
    | unfolded => cases hrun
    | failsWithin hbody' hfails' =>
      cases hbody.symm.trans hbody'
      obtain ⟨rfl, rfl, rfl, rfl⟩ := hfails.unique hfails'
      exact ⟨rfl, rfl⟩
    | refused hbody' => exact nomatch hbody.symm.trans hbody'
  | refused hbody =>
    cases h' with
    | unfolded => cases hrun
    | failsWithin hbody' => exact nomatch hbody.symm.trans hbody'
    | refused hbody' =>
      cases hbody.symm.trans hbody'
      exact ⟨rfl, rfl⟩

/-! ## Templates -/

/-- The template of a fragment, which is executed before anything else. -/
def fragmentExecution? : Request → Option (String × Context)
  | component .. => none
  | fragment _ text root => some (text, .ofFragment root)

/-- All templates that are executed in a course. -/
def executed (q : Request) (course : Course) : List (String × Context) :=
  q.fragmentExecution?.toList ++ course.executions

/-- A request up to the session that it leaves. -/
def perform : Request → Registry → Except ComposeError Unit × Session
  | component composer c root, r =>
    (composer.place 0 (.outermost r c root)).exec { registry := (r.identifyRoot c).2 }
  | fragment composer text root, r =>
    (Compose.execute composer.executor text (.ofFragment root) "" >>= fun body =>
      composer.unfold (composer.place 1) root body).exec { registry := r }

/-- What is executed in a request, in this order. -/
def executions (q : Request) (r : Registry) : List (String × Context) := (q.perform r).2.executions

/-- The id of the component that is composed. -/
def id? : Request → Registry → Option String
  | component _ c _, r => some (r.identifyRoot c).1
  | fragment .., _ => none

/-- What is returned and what is executed belong to one run. -/
theorem run_eq_finish : q.run r = Composer.finish (q.id? r) (q.perform r) := by
  cases q with
  | component composer c root => exact Composer.compose_eq
  | fragment composer text root => rfl

theorem perform_fragment {composer : Composer} {text body : String} {root : Data}
    (hbody : composer.executor text (.ofFragment root) = .ok body) :
    (fragment composer text root).perform r =
      (composer.unfold (composer.place 1) root body).exec
        (Composer.fragmentSession r text root) :=
  Compose.exec_bind_ok (Compose.exec_execute_ok hbody)

theorem executions_of_perform {result : Except ComposeError Unit} {t : Session}
    (h : q.perform r = (result, t)) : q.executions r = t.executions := by
  rw [executions, h]

theorem Takes.executions_eq (h : q.Takes r course r') : q.executions r = q.executed course := by
  cases q with
  | component composer c root =>
    cases h with
    | written hwrites =>
      have hrun : (component composer c root).perform r = _ := hwrites.exec rfl
      exact executions_of_perform hrun
    | fails hfails =>
      obtain ⟨t, hexec, ht⟩ :=
        hfails.exec (s := { registry := (r.identifyRoot c).2 }) rfl
      have hrun : (component composer c root).perform r = _ := hexec
      exact (executions_of_perform hrun).trans ht.executions
  | fragment composer text root =>
    cases h with
    | unfolded hbody hscan hnodes =>
      have hexec := Composer.exec_unfold_ok (s := Composer.fragmentSession r text root) hscan
        (hnodes.exec rfl)
      exact executions_of_perform ((perform_fragment hbody).trans hexec)
    | failsWithin hbody hfails =>
      obtain ⟨t, hexec, ht⟩ := hfails.exec (s := Composer.fragmentSession r text root) rfl
      exact (executions_of_perform ((perform_fragment hbody).trans hexec)).trans ht.executions
    | refused hbody =>
      have hexec : (fragment composer text root).perform r = _ :=
        Compose.exec_bind_error (Compose.exec_execute_error hbody)
      exact executions_of_perform hexec

end Request

end TagWeave
