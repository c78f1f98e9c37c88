import TagWeave.Proofs.Composition.Runs

/-!
# The output of a composition

What a composition returns, said by trees and trails only. A component succeeds with the rendering
of its tree (`Composer.compose_ok_iff`) or fails with that of a trail
(`Composer.compose_error_iff`); so does a fragment. What is already written has no part in it
(`Composer.place_behind`).
-/

namespace TagWeave

/-- A component that is composed by itself. -/
def Placement.outermost (r : Registry) (c : Component) (root : Data) : Placement :=
  ⟨c, (r.identifyRoot c).1, .empty, root⟩

/-- What a fragment is executed against. -/
def Context.ofFragment (root : Data) : Context := ⟨"", .null, root⟩

/-- A composition that has come to a tree. -/
def Composition.ofNodes (id? : Option String) (html : String) (nodes : List Node) : Composition :=
  ⟨id?, html, instancesOf nodes, stylesAfter [] nodes⟩

namespace Composer
variable {composer : Composer} {depth : Nat} {p : Placement} {r r' : Registry} {root : Data}
  {s t : Session} {text : String} {e : ComposeError}

/-! ## Runs -/

theorem place_ok_iff : (composer.place depth p).exec s = (.ok (), t) ↔
    ∃ frame nodes r', composer.Writes depth s.registry p frame nodes r' ∧
      t = s.addElement p frame nodes r' := by
  constructor
  · intro hrun
    rcases place_total composer depth p s.registry with ⟨frame, nodes, r', hw⟩ | ⟨_, _, _, hf⟩
    · rw [hw.exec rfl] at hrun
      exact ⟨frame, nodes, r', hw, (Prod.mk.inj hrun).2.symm⟩
    · obtain ⟨t', hfail, -⟩ := hf.exec (s := s) rfl
      rw [hfail] at hrun
      cases hrun
  · rintro ⟨frame, nodes, r', hw, rfl⟩
    exact hw.exec rfl

theorem place_error_iff {html : String} :
    (∃ t, (composer.place depth p).exec s = (.error e, t) ∧ t.html = html ∧ t.registry = r') ↔
    ∃ trail, composer.Fails depth s.registry p trail e r' ∧ html = s.html ++ trail.html := by
  constructor
  · rintro ⟨t, hrun, rfl, rfl⟩
    rcases place_total composer depth p s.registry with ⟨_, _, _, hw⟩ | ⟨trail, e', r', hf⟩
    · rw [hw.exec rfl] at hrun
      cases hrun
    · obtain ⟨t', hfail, ht⟩ := hf.exec (s := s) rfl
      rw [hfail] at hrun
      cases hrun
      exact ⟨trail, ht.registry ▸ hf, ht.html⟩
  · rintro ⟨trail, hf, rfl⟩
    obtain ⟨t, hfail, ht⟩ := hf.exec (s := s) rfl
    exact ⟨t, hfail, ht.html, ht.registry⟩

theorem unfold_ok_iff : (composer.unfold (composer.place depth) root text).exec s = (.ok (), t) ↔
    ∃ nodes r', (scan s.registry.reserved text).error? = none ∧
      composer.Expands depth s.registry root (scan s.registry.reserved text).tokens nodes r' ∧
      t = s.addNodes nodes r' := by
  constructor
  · intro hrun
    rcases text_total (place_total composer depth) s.registry root text with
      ⟨nodes, r', hscan, hnodes⟩ | ⟨_, _, _, _, hf⟩
    · rw [exec_unfold_ok hscan (hnodes.exec rfl)] at hrun
      exact ⟨nodes, r', hscan, hnodes, (Prod.mk.inj hrun).2.symm⟩
    · obtain ⟨t', hfail, -⟩ := hf.exec (s := s) rfl
      rw [hfail] at hrun
      cases hrun
  · rintro ⟨nodes, r', hscan, hnodes, rfl⟩
    exact exec_unfold_ok hscan (hnodes.exec rfl)

theorem unfold_error_iff {html : String} :
    (∃ t, (composer.unfold (composer.place depth) root text).exec s = (.error e, t) ∧
      t.html = html ∧ t.registry = r') ↔
    ∃ before trail, composer.FailsWithin depth s.registry root text before trail e r' ∧
      html = s.html ++ (htmlOf before ++ trail.html) := by
  constructor
  · rintro ⟨t, hrun, rfl, rfl⟩
    rcases text_total (place_total composer depth) s.registry root text with
      ⟨_, _, hscan, hnodes⟩ | ⟨before, trail, e', r', hf⟩
    · rw [exec_unfold_ok hscan (hnodes.exec rfl)] at hrun
      cases hrun
    · obtain ⟨t', hfail, ht⟩ := hf.exec (s := s) rfl
      rw [hfail] at hrun
      cases hrun
      exact ⟨before, trail, ht.registry ▸ hf, ht.html⟩
  · rintro ⟨before, trail, hf, rfl⟩
    obtain ⟨t, hfail, ht⟩ := hf.exec (s := s) rfl
    exact ⟨t, hfail, ht.html, ht.registry⟩

/-- What a component writes, and how that ends, depends on the registry alone. -/
theorem place_behind (composer : Composer) (depth : Nat) (p : Placement) (r : Registry) :
    ∃ outcome written r', r'.uncounted = r.uncounted ∧ ∀ s : Session, ∃ t,
      (composer.place depth p).exec { s with registry := r } = (outcome, t) ∧
        t.html = s.html ++ written ∧ t.registry = r' := by
  rcases place_total composer depth p r with ⟨frame, nodes, r', hw⟩ | ⟨trail, e, r', hf⟩
  · exact ⟨.ok (), _, r', hw.uncounted, fun s => ⟨_, hw.exec rfl, rfl, rfl⟩⟩
  · refine ⟨.error e, trail.html, r', hf.uncounted, fun s => ?_⟩
    obtain ⟨t, hfail, ht⟩ := hf.exec (s := { s with registry := r }) rfl
    exact ⟨t, hfail, ht.html, ht.registry⟩

/-! ## Outcomes -/

section
variable {id? : Option String} {run : Except ComposeError Unit × Session} {result : Composition}
  {c : Component} {written : String}

theorem finish_ok_iff : finish id? run = (.ok result, r') ↔
    ∃ t, run = (.ok (), t) ∧ result = ⟨id?, t.html, t.instances, t.styles⟩ ∧ t.registry = r' := by
  rcases run with ⟨e | u, t⟩
  · exact ⟨nofun, nofun⟩
  · simp [finish, eq_comm]

theorem finish_error_iff : finish id? run = (.error ⟨e, written⟩, r') ↔
    ∃ t, run = (.error e, t) ∧ t.html = written ∧ t.registry = r' := by
  rcases run with ⟨e' | u, t⟩
  · simp [finish, and_assoc]
  · exact ⟨nofun, nofun⟩

theorem compose_eq : composer.compose r c root = finish (some (r.identifyRoot c).1)
    ((composer.place 0 (.outermost r c root)).exec { registry := (r.identifyRoot c).2 }) := by
  unfold compose Placement.outermost Registry.identifyRoot
  cases c.setup.chosenId? <;> rfl

theorem compose_ok_iff : composer.compose r c root = (.ok result, r') ↔
    ∃ frame nodes, composer.Writes 0 (r.identifyRoot c).2 (.outermost r c root) frame nodes r' ∧
      result = .ofNodes (some (r.identifyRoot c).1)
        (frame.opening ++ htmlOf nodes ++ frame.closing) nodes := by
  rw [compose_eq, finish_ok_iff]
  constructor
  · rintro ⟨t, hrun, rfl, rfl⟩
    obtain ⟨frame, nodes, r', hw, rfl⟩ := place_ok_iff.mp hrun
    exact ⟨frame, nodes, hw, by simp [Session.addElement, Composition.ofNodes]⟩
  · rintro ⟨frame, nodes, hw, rfl⟩
    exact ⟨_, hw.exec rfl, by simp [Session.addElement, Composition.ofNodes], rfl⟩

theorem compose_error_iff : composer.compose r c root = (.error ⟨e, written⟩, r') ↔
    ∃ trail, composer.Fails 0 (r.identifyRoot c).2 (.outermost r c root) trail e r' ∧
      written = trail.html := by
  rw [compose_eq, finish_error_iff, place_error_iff]
  simp only [String.empty_append]

/-- The session in which the tags of a fragment are unfolded. -/
def fragmentSession (r : Registry) (text : String) (root : Data) : Session :=
  { registry := r, executions := [(text, .ofFragment root)] }

theorem composeFragment_of_ok {body : String}
    (hbody : composer.executor text (.ofFragment root) = .ok body) :
    composer.composeFragment r text root =
      finish none ((composer.unfold (composer.place 1) root body).exec
        (fragmentSession r text root)) :=
  congrArg (finish none) (Compose.exec_bind_ok (Compose.exec_execute_ok hbody))

theorem composeFragment_of_error {error : TemplateError}
    (hbody : composer.executor text (.ofFragment root) = .error error) :
    composer.composeFragment r text root =
      (.error ⟨.templateExecution "" error, templateErrorMarker⟩, r) := by
  refine (congrArg (finish none)
    (Compose.exec_bind_error (Compose.exec_execute_error hbody))).trans ?_
  simp [finish, Session.addText, Session.addExecution, Context.ofFragment]

theorem composeFragment_ok_iff : composer.composeFragment r text root = (.ok result, r') ↔
    ∃ body nodes, composer.executor text (.ofFragment root) = .ok body ∧
      (scan r.reserved body).error? = none ∧
      composer.Expands 1 r root (scan r.reserved body).tokens nodes r' ∧
      result = .ofNodes none (htmlOf nodes) nodes := by
  cases hbody : composer.executor text (.ofFragment root) with
  | error error =>
    rw [composeFragment_of_error hbody]
    exact ⟨nofun, nofun⟩
  | ok body =>
    rw [composeFragment_of_ok hbody, finish_ok_iff]
    constructor
    · rintro ⟨t, hrun, rfl, rfl⟩
      obtain ⟨nodes, r', hscan, hnodes, rfl⟩ := unfold_ok_iff.mp hrun
      exact ⟨body, nodes, rfl, hscan, hnodes, by
        simp [Session.addNodes, Composition.ofNodes, fragmentSession]⟩
    · rintro ⟨_, nodes, heq, hscan, hnodes, rfl⟩
      cases heq
      exact ⟨_, unfold_ok_iff.mpr ⟨nodes, r', hscan, hnodes, rfl⟩, by
        simp [Session.addNodes, Composition.ofNodes, fragmentSession], rfl⟩

theorem composeFragment_error_iff :
    composer.composeFragment r text root = (.error ⟨e, written⟩, r') ↔
    (∃ error, composer.executor text (.ofFragment root) = .error error ∧
      e = .templateExecution "" error ∧ written = templateErrorMarker ∧ r' = r) ∨
    ∃ body before trail, composer.executor text (.ofFragment root) = .ok body ∧
      composer.FailsWithin 1 r root body before trail e r' ∧
      written = htmlOf before ++ trail.html := by
  cases hbody : composer.executor text (.ofFragment root) with
  | error error =>
    rw [composeFragment_of_error hbody]
    constructor
    · intro h
      cases h
      exact .inl ⟨error, rfl, rfl, rfl, rfl⟩
    · rintro (⟨_, heq, rfl, rfl, rfl⟩ | ⟨_, _, _, heq, _⟩)
      · cases heq
        rfl
      · cases heq
  | ok body =>
    rw [composeFragment_of_ok hbody, finish_error_iff, unfold_error_iff]
    simp [fragmentSession]

end

/-- What is seen of a composition that succeeds: the markup and the ids of the handles. -/
def seen (outcome : Except ComposeFailure Composition × Registry) :
    Option (String × List String) :=
  outcome.1.toOption.map fun c => (c.html, c.ids)

theorem exists_of_seen {outcome : Except ComposeFailure Composition × Registry} {html : String}
    {ids : List String} (h : seen outcome = some (html, ids)) :
    ∃ result r', outcome = (.ok result, r') ∧ result.html = html ∧ result.ids = ids := by
  obtain ⟨e | result, r'⟩ := outcome
  · cases h
  · cases h
    exact ⟨result, r', rfl, rfl, rfl⟩

/-- What is seen of a composition that fails. -/
def failure? (outcome : Except ComposeFailure Composition × Registry) : Option ComposeFailure :=
  match outcome.1 with
  | .ok _ => none
  | .error f => some f

theorem failure?_eq_some_iff {outcome : Except ComposeFailure Composition × Registry}
    {f : ComposeFailure} : failure? outcome = some f ↔ outcome.1 = .error f := by
  obtain ⟨e | result, r'⟩ := outcome <;> simp [failure?]

/-- A composition that succeeds returns the rendering of an expansion, and there is no other way to
succeed. What is written for a component depends neither on what has been written before nor on
anything of the session but its registry, of which only the counters change. -/
theorem html_eq_rendering (composer : Composer) (r : Registry) (root : Data) :
    (∀ c html r', (∃ result, composer.compose r c root = (.ok result, r') ∧ result.html = html) ↔
      ∃ frame nodes,
        composer.Writes 0 (r.identifyRoot c).2 (.outermost r c root) frame nodes r' ∧
        html = frame.opening ++ htmlOf nodes ++ frame.closing) ∧
    (∀ text html r',
      (∃ result, composer.composeFragment r text root = (.ok result, r') ∧ result.html = html) ↔
      ∃ body nodes, composer.executor text (.ofFragment root) = .ok body ∧
        (scan r.reserved body).error? = none ∧
        composer.Expands 1 r root (scan r.reserved body).tokens nodes r' ∧ html = htmlOf nodes) ∧
    ∀ depth p, ∃ outcome written r', r'.uncounted = r.uncounted ∧ ∀ s : Session, ∃ t,
      (composer.place depth p).exec { s with registry := r } = (outcome, t) ∧
        t.html = s.html ++ written ∧ t.registry = r' := by
  refine ⟨fun c html r' => ?_, fun text html r' => ?_,
    fun depth p => place_behind composer depth p r⟩
  · constructor
    · rintro ⟨result, hrun, rfl⟩
      obtain ⟨frame, nodes, hw, rfl⟩ := compose_ok_iff.mp hrun
      exact ⟨frame, nodes, hw, rfl⟩
    · rintro ⟨frame, nodes, hw, rfl⟩
      exact ⟨_, compose_ok_iff.mpr ⟨frame, nodes, hw, rfl⟩, rfl⟩
  · constructor
    · rintro ⟨result, hrun, rfl⟩
      obtain ⟨body, nodes, hbody, hscan, hnodes, rfl⟩ := composeFragment_ok_iff.mp hrun
      exact ⟨body, nodes, hbody, hscan, hnodes, rfl⟩
    · rintro ⟨body, nodes, hbody, hscan, hnodes, rfl⟩
      exact ⟨_, composeFragment_ok_iff.mpr ⟨body, nodes, hbody, hscan, hnodes, rfl⟩, rfl⟩

/-- A composition that fails has written what its trail says: of each component on the way the
opening tag and what its content came to before, and no closing tag. For the end of the way nothing
is written, except that a component whose template failed is written with a marker as its
content. -/
theorem written_eq_trail (composer : Composer) (r : Registry) (root : Data) :
    (∀ c e written r', composer.compose r c root = (.error ⟨e, written⟩, r') ↔
      ∃ trail, composer.Fails 0 (r.identifyRoot c).2 (.outermost r c root) trail e r' ∧
        composer.EndsWith trail e ∧ written = trail.html) ∧
    ∀ text e written r', composer.composeFragment r text root = (.error ⟨e, written⟩, r') ↔
      (∃ error, composer.executor text (.ofFragment root) = .error error ∧
        e = .templateExecution "" error ∧ written = templateErrorMarker ∧ r' = r) ∨
      ∃ body before trail, composer.executor text (.ofFragment root) = .ok body ∧
        composer.FailsWithin 1 r root body before trail e r' ∧ composer.EndsWith trail e ∧
        written = htmlOf before ++ trail.html := by
  refine ⟨fun c e written r' => ?_, fun text e written r' => ?_⟩
  · rw [compose_error_iff]
    constructor
    · rintro ⟨trail, hf, rfl⟩
      exact ⟨trail, hf, hf.endsWith, rfl⟩
    · rintro ⟨trail, hf, -, rfl⟩
      exact ⟨trail, hf, rfl⟩
  · rw [composeFragment_error_iff]
    refine or_congr_right ⟨?_, ?_⟩
    · rintro ⟨body, before, trail, hbody, hf, rfl⟩
      exact ⟨body, before, trail, hbody, hf, hf.endsWith, rfl⟩
    · rintro ⟨body, before, trail, hbody, hf, -, rfl⟩
      exact ⟨body, before, trail, hbody, hf, rfl⟩

end Composer

end TagWeave
