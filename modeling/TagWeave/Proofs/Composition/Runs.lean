import TagWeave.Proofs.Composition.Steps

/-!
# Runs of a composition

A run that is described by `Composer.Writes` adds the tree to the session and succeeds
(`Composer.Writes.exec`); one described by `Composer.Fails` adds what its trail says and fails
(`Composer.Fails.exec`). One of the two always applies (`Composer.place_total`), so that nothing
else can happen.
-/

namespace TagWeave

/-! ## Sessions -/

namespace Session

/-- The session once nodes are written, the registry being what is left then. -/
def addNodes (s : Session) (nodes : List Node) (r : Registry) : Session where
  registry := r
  html := s.html ++ htmlOf nodes
  instances := s.instances ++ instancesOf nodes
  styles := stylesAfter s.styles nodes
  executions := s.executions ++ executionsOf nodes

/-- The session once the element of a component is written. -/
def addElement (s : Session) (p : Placement) (frame : Frame) (nodes : List Node) (r : Registry) :
    Session where
  registry := r
  html := s.html ++ (frame.opening ++ htmlOf nodes ++ frame.closing)
  instances := s.instances ++ instancesOf nodes
  styles := stylesAfter s.styles nodes
  executions := s.executions ++
    ((p.execution? frame).toList ++ executionsOf nodes)

/-- A session that is left by a failed run: text and executions are added. -/
structure Stopped (s : Session) (written : String) (executed : List (String × Context))
    (r : Registry) (t : Session) : Prop where
  html : t.html = s.html ++ written
  executions : t.executions = s.executions ++ executed
  registry : t.registry = r

variable {s t : Session} {r r' : Registry} {p : Placement} {frame : Frame} {nodes : List Node}

theorem addNodes_nil : s.addNodes [] s.registry = s := by
  simp [addNodes, htmlOf, instancesOf, stylesAfter, executionsOf, occurrencesOf]

/-- A node without components adds its text only. -/
theorem addNodes_cons {node : Node} (hnode : node.occurrences = []) :
    (s.addText node.html).addNodes nodes r = s.addNodes (node :: nodes) r := by
  simp [addNodes, addText, htmlOf, instancesOf, stylesAfter, executionsOf, occurrencesOf, hnode,
    String.append_assoc]

theorem insertIdx_length (before after : List Instance) (made : Instance) :
    (before ++ after).insertIdx before.length made = before ++ made :: after :=
  List.modifyTailIdx_add (List.cons made) 0 before after

/-- A component that is put at its slot once its element is written comes before the components in
its content and behind all earlier ones. -/
theorem addNodes_component {d : Descriptor} {children : List Node} {r₁ r₂ : Registry} :
    (((s.enter d r₁).addElement p frame children r₂).insertInstance s.instances.length
      ⟨p.id, p.component⟩).addNodes nodes r =
      s.addNodes (.component d p frame children :: nodes) r := by
  have hexec : (Occurrence.mk d p frame).execution? = p.execution? frame := rfl
  have hmade : (Occurrence.mk d p frame).made = ⟨p.id, p.component⟩ := rfl
  cases hp : p.execution? frame <;>
    simp [addNodes, addElement, enter, insertInstance, insertIdx_length, htmlOf, Node.html,
      instancesOf, stylesAfter, executionsOf, occurrencesOf, Node.occurrences, hexec, hmade, hp,
      String.append_assoc]

theorem addElement_void (hvoid : frame.hasContent = false) :
    s.addElement p frame [] s.registry = s.addText frame.opening := by
  cases frame with
  | bare => cases hvoid
  | element => cases hvoid
  | void tag attributes =>
    simp [addElement, addText, htmlOf, Frame.closing, instancesOf, stylesAfter, executionsOf,
      occurrencesOf, Placement.execution?, Frame.hasContent]

theorem addElement_content (hcontent : frame.hasContent = true) :
    (((s.addText frame.opening).addExecution p.component.body p.context).addNodes nodes r).addText
      frame.closing = s.addElement p frame nodes r := by
  simp [addElement, addNodes, addText, addExecution, Placement.execution?, hcontent,
    String.append_assoc]

end Session

/-! ## Success -/

namespace Composer
variable {composer : Composer}

mutual
theorem Writes.exec {depth : Nat} {p : Placement} {frame : Frame} {nodes : List Node}
    {r r' : Registry} {s : Session}
    (h : composer.Writes depth r p frame nodes r') (hs : s.registry = r) :
    (composer.place depth p).exec s = (.ok (), s.addElement p frame nodes r') := by
  match h with
  | .void hdepth hframe hvoid =>
    rw [exec_place_void hdepth hframe hvoid, ← hs, Session.addElement_void hvoid]
  | .content hdepth hframe hcontent hbody hscan hnodes =>
    -- Before `subst`: the recursion is on the derivation, which has the registry as an index.
    have hrun := Expands.exec hnodes
      (s := (s.addText frame.opening).addExecution p.component.body p.context) hs
    subst hs
    rw [exec_place_content hdepth hframe hcontent, ← Session.addElement_content hcontent]
    exact exec_content_ok hbody (exec_unfold_ok hscan hrun)
termination_by structural h

theorem Expands.exec {depth : Nat} {root : Data} {tokens : List Token} {nodes : List Node}
    {r r' : Registry} {s : Session}
    (h : composer.Expands depth r root tokens nodes r') (hs : s.registry = r) :
    (composer.unfoldTokens (composer.place depth) root tokens).exec s =
      (.ok (), s.addNodes nodes r') := by
  match h with
  | .nil =>
    rw [← hs, Session.addNodes_nil]
    rfl
  | .literal hrest =>
    rw [unfoldTokens, Compose.exec_bind_ok (Compose.exec_write _), ← Session.addNodes_cons rfl]
    exact hrest.exec hs
  | .unregistered hlookup hstrict hrest =>
    rw [unfoldTokens, Compose.exec_bind_ok (exec_unfoldTag_unregistered (hs ▸ hlookup) hstrict),
      ← Session.addNodes_cons rfl]
    exact hrest.exec hs
  | .component hlookup hmade hid hwrites hrest =>
    have htag : (composer.unfoldTag (composer.place depth) root _).exec s = _ :=
      (exec_unfoldTag_component (hs ▸ hlookup) hmade (hs ▸ hid)).trans
        (Compose.exec_bind_ok (hwrites.exec rfl))
    rw [Compose.exec_insertInstance] at htag
    rw [unfoldTokens, Compose.exec_bind_ok htag, ← Session.addNodes_component]
    exact hrest.exec rfl
termination_by structural h
end

end Composer

/-! ## Failure -/

namespace Trail
variable {step : Step} {trail : Trail}

theorem html_within : (within step trail).html = step.html ++ trail.html := by
  simp [within, html, String.append_assoc]

theorem executions_within :
    (within step trail).executions = step.executions ++ trail.executions := by
  simp [within, executions]

end Trail

namespace Session
variable {s t : Session} {r : Registry} {p : Placement} {frame : Frame} {before : List Node}
  {trail : Trail}

theorem Stopped.silent : s.Stopped Trail.silent.html Trail.silent.executions s.registry s := by
  constructor <;> simp [Trail.silent, Trail.html, Trail.endHtml, Trail.executions]

theorem Stopped.template (hcontent : frame.hasContent = true) :
    s.Stopped (Trail.template p frame).html (Trail.template p frame).executions s.registry
      (((s.addText frame.opening).addExecution p.component.body p.context).addText
        (templateErrorMarker ++ frame.closing)) := by
  constructor <;> simp [Trail.template, Trail.html, Trail.endHtml, Trail.executions, addText,
    addExecution, Placement.execution?, hcontent, String.append_assoc]

/-- A failure behind nodes. -/
theorem Stopped.behind {r₁ : Registry}
    (h : (s.addNodes before r₁).Stopped trail.html trail.executions r t) :
    s.Stopped (htmlOf before ++ trail.html)
      (executionsOf before ++ trail.executions) r t where
  html := by simp [h.html, addNodes, String.append_assoc]
  executions := by simp [h.executions, addNodes]
  registry := h.registry

/-- A failure in the content of a component. -/
theorem Stopped.within (hcontent : frame.hasContent = true)
    (h : ((s.addText frame.opening).addExecution p.component.body p.context).Stopped
      (htmlOf before ++ trail.html)
      (executionsOf before ++ trail.executions) r t) :
    s.Stopped (trail.within ⟨p, frame, before⟩).html (trail.within ⟨p, frame, before⟩).executions
      r t where
  html := by
    simp [Trail.html_within, Trail.Step.html, h.html, addText, addExecution, String.append_assoc]
  executions := by
    simp [Trail.executions_within, Trail.Step.executions, h.executions, addText, addExecution,
      Placement.execution?, hcontent]
  registry := h.registry

theorem Stopped.of_enter {d : Descriptor} {r₁ : Registry}
    (h : (s.enter d r₁).Stopped trail.html trail.executions r t) :
    s.Stopped trail.html trail.executions r t := ⟨h.html, h.executions, h.registry⟩

end Session

namespace Composer
variable {composer : Composer}

mutual
theorem Fails.exec {depth : Nat} {p : Placement} {trail : Trail} {e : ComposeError}
    {r r' : Registry} {s : Session} (h : composer.Fails depth r p trail e r')
    (hs : s.registry = r) : ∃ t, (composer.place depth p).exec s = (.error e, t) ∧
      s.Stopped trail.html trail.executions r' t := by
  match h with
  | .recursionLimit hdepth => exact ⟨s, exec_place_deep hdepth, hs ▸ .silent⟩
  | .container hdepth htag hmerge =>
    exact ⟨s, exec_place_container hdepth htag hmerge, hs ▸ .silent⟩
  | .template hdepth hframe hcontent hbody =>
    subst hs
    exact ⟨_, (exec_place_content hdepth hframe hcontent).trans (exec_content_template hbody),
      .template hcontent⟩
  | .content hdepth hframe hcontent hbody hfails =>
    obtain ⟨t, hexec, ht⟩ := FailsWithin.exec hfails
      (s := (s.addText _).addExecution p.component.body p.context) hs
    exact ⟨t, (exec_place_content hdepth hframe hcontent).trans (exec_content_error hbody hexec),
      .within hcontent ht⟩
termination_by structural h

theorem FailsWithin.exec {depth : Nat} {root : Data} {text : String} {before : List Node}
    {trail : Trail} {e : ComposeError} {r r' : Registry} {s : Session}
    (h : composer.FailsWithin depth r root text before trail e r') (hs : s.registry = r) :
    ∃ t, (composer.unfold (composer.place depth) root text).exec s = (.error e, t) ∧
      s.Stopped (htmlOf before ++ trail.html)
        (executionsOf before ++ trail.executions) r' t := by
  match h with
  | .tagSyntax hscan hbefore =>
    subst hs
    exact ⟨_, exec_unfold_tagSyntax hscan (hbefore.exec rfl), .behind .silent⟩
  | .tag htokens hbefore hfails =>
    obtain ⟨t, hexec, ht⟩ := TagFails.exec hfails (s := s.addNodes before _) rfl
    refine ⟨t, exec_unfold_error ?_, .behind ht⟩
    rw [hs, htokens, exec_unfoldTokens_append, Compose.exec_bind_ok (hbefore.exec hs), unfoldTokens,
      Compose.exec_bind_error hexec]
termination_by structural h

theorem TagFails.exec {depth : Nat} {root : Data} {tag : Tag} {trail : Trail} {e : ComposeError}
    {r r' : Registry} {s : Session} (h : composer.TagFails depth r root tag trail e r')
    (hs : s.registry = r) :
    ∃ t, (composer.unfoldTag (composer.place depth) root tag).exec s = (.error e, t) ∧
      s.Stopped trail.html trail.executions r' t := by
  match h with
  | .unregistered hlookup hstrict =>
    subst hs
    exact ⟨s, exec_unfoldTag_strict hlookup hstrict, .silent⟩
  | .fieldBinding hlookup hmade =>
    subst hs
    exact ⟨s, exec_unfoldTag_fieldBinding hlookup hmade, .silent⟩
  | .component hlookup hmade hid hfails =>
    obtain ⟨t, hexec, ht⟩ := Fails.exec hfails (s := s.enter _ _) rfl
    subst hs
    exact ⟨t, (exec_unfoldTag_component hlookup hmade hid).trans (Compose.exec_bind_error hexec),
      ht.of_enter⟩
termination_by structural h
end

/-- Tokens that expand have no tag that fails. -/
theorem Expands.not_tagFails {depth : Nat} {r r' r₁ r₂ : Registry} {root : Data} {tag : Tag}
    {done more : List Token} {before nodes : List Node} {trail : Trail} {e : ComposeError}
    (h : composer.Expands depth r root (done ++ .tag tag :: more) nodes r₂)
    (hdone : composer.Expands depth r root done before r₁)
    (hfails : composer.TagFails depth r₁ root tag trail e r') : False := by
  have hrun := h.exec (s := { registry := r }) rfl
  obtain ⟨t, hexec, -⟩ := hfails.exec (s := ({ registry := r } : Session).addNodes before r₁) rfl
  rw [exec_unfoldTokens_append, Compose.exec_bind_ok (hdone.exec rfl), unfoldTokens,
    Compose.exec_bind_error hexec] at hrun
  cases hrun

/-- The counters that are left do not depend on the nodes chosen: the run is one and the same. -/
theorem Expands.registry_unique {depth : Nat} {r r₁ r₂ : Registry} {root : Data}
    {tokens : List Token} {nodes nodes' : List Node}
    (h : composer.Expands depth r root tokens nodes r₁)
    (h' : composer.Expands depth r root tokens nodes' r₂) : r₁ = r₂ := by
  have hrun := (h.exec (s := { registry := r }) rfl).symm.trans (h'.exec rfl)
  exact congrArg Session.registry (Prod.mk.inj hrun).2

/-! ## Totality -/

section
variable {depth : Nat}

/-- Every component of a depth either comes to a tree or fails. -/
def Decided (composer : Composer) (depth : Nat) : Prop :=
  ∀ p r, (∃ frame nodes r', composer.Writes depth r p frame nodes r') ∨
    ∃ trail e r', composer.Fails depth r p trail e r'

theorem tag_total (hplace : composer.Decided depth) (r : Registry) (root : Data) (tag : Tag) :
    (∃ node r₁, composer.HeadExpands depth r root (.tag tag) node r₁) ∨
    ∃ trail e r', composer.TagFails depth r root tag trail e r' := by
  cases hlookup : r.lookup? (normalName tag.name) with
  | none =>
    cases hstrict : composer.settings.strict with
    | true => exact .inr ⟨_, _, _, .unregistered hlookup hstrict⟩
    | false => exact .inl ⟨_, r, fun _ _ _ h => .unregistered hlookup hstrict h⟩
  | some d =>
    rcases hmade : instantiate d tag with e | ⟨component, site⟩
    · exact .inr ⟨_, _, _, .fieldBinding hlookup hmade⟩
    obtain ⟨⟨id, r₁⟩, hid⟩ : ∃ made, r.identify d component.setup = made := ⟨_, rfl⟩
    rcases hplace ⟨component, id, site, root⟩ r₁ with ⟨frame, nodes, r₂, hw⟩ | ⟨trail, e, r', hf⟩
    · exact .inl ⟨_, r₂, fun _ _ _ h => .component hlookup hmade hid hw h⟩
    · exact .inr ⟨trail, e, r', .component hlookup hmade hid hf⟩

theorem head_total (hplace : composer.Decided depth) (r : Registry) (root : Data)
    (token : Token) : (∃ node r₁, composer.HeadExpands depth r root token node r₁) ∨
    ∃ tag trail e r', token = .tag tag ∧ composer.TagFails depth r root tag trail e r' := by
  cases token with
  | literal text => exact .inl ⟨.literal text, r, fun _ _ _ h => .literal h⟩
  | tag tag =>
    rcases tag_total hplace r root tag with hhead | ⟨trail, e, r', hfails⟩
    · exact .inl hhead
    · exact .inr ⟨tag, trail, e, r', rfl, hfails⟩

theorem tokens_total (hplace : composer.Decided depth) (r : Registry) (root : Data)
    (tokens : List Token) :
    (∃ nodes r', composer.Expands depth r root tokens nodes r') ∨
    ∃ done tag more before r₁ trail e r', tokens = done ++ .tag tag :: more ∧
      composer.Expands depth r root done before r₁ ∧
      composer.TagFails depth r₁ root tag trail e r' := by
  induction tokens generalizing r with
  | nil => exact .inl ⟨[], r, .nil⟩
  | cons token tokens ih =>
    rcases head_total hplace r root token with ⟨node, r₁, hhead⟩ | ⟨tag, trail, e, r', rfl, hf⟩
    · rcases ih r₁ with ⟨nodes, r', h⟩ |
        ⟨done, tag, more, before, r₂, trail, e, r', rfl, hbefore, hfails⟩
      · exact .inl ⟨_, r', hhead _ _ _ h⟩
      · exact .inr ⟨token :: done, tag, more, _, r₂, trail, e, r', rfl, hhead _ _ _ hbefore,
          hfails⟩
    · exact .inr ⟨[], tag, tokens, [], r, trail, e, r', rfl, .nil, hf⟩

theorem text_total (hplace : composer.Decided depth) (r : Registry) (root : Data) (text : String) :
    (∃ nodes r', (scan r.reserved text).error? = none ∧
      composer.Expands depth r root (scan r.reserved text).tokens nodes r') ∨
    ∃ before trail e r', composer.FailsWithin depth r root text before trail e r' := by
  rcases tokens_total hplace r root (scan r.reserved text).tokens with ⟨nodes, r', h⟩ |
    ⟨done, tag, more, before, r₁, trail, e, r', htokens, hbefore, hfails⟩
  · cases hscan : (scan r.reserved text).error? with
    | none => exact .inl ⟨nodes, r', rfl, h⟩
    | some e => exact .inr ⟨nodes, _, _, r', .tagSyntax hscan h⟩
  · exact .inr ⟨before, trail, e, r', .tag htokens hbefore hfails⟩

theorem framed_total (p : Placement) : (∃ frame, p.Framed frame) ∨
    ∃ tag e, (p.component.container p.id).element? = some tag ∧
      mergeAttributes (p.component.container p.id) p.component.setup p.site p.id = .error e := by
  cases htag : (p.component.container p.id).element? with
  | none => exact .inl ⟨.bare, .bare htag⟩
  | some tag =>
    cases hmerge : mergeAttributes (p.component.container p.id) p.component.setup p.site p.id with
    | error e => exact .inr ⟨tag, e, rfl, rfl⟩
    | ok attributes =>
      cases hname : isVoidElement tag with
      | true => exact .inl ⟨.void tag attributes, .void htag hmerge hname⟩
      | false => exact .inl ⟨.element tag attributes, .element htag hmerge hname⟩

/-- Above the limit a component is decided if those one level deeper are. -/
theorem decided_of_succ (hdepth : depth < composer.settings.maxDepth)
    (hplace : composer.Decided (depth + 1)) : composer.Decided depth := by
  intro p r
  rcases framed_total p with ⟨frame, hframe⟩ | ⟨tag, e, htag, hmerge⟩
  · cases hcontent : frame.hasContent with
    | false => exact .inl ⟨frame, [], r, .void hdepth hframe hcontent⟩
    | true =>
      cases hbody : composer.executor p.component.body p.context with
      | error e => exact .inr ⟨_, _, r, .template hdepth hframe hcontent hbody⟩
      | ok text =>
        rcases text_total hplace r p.component.data text with ⟨nodes, r', hscan, h⟩ |
          ⟨before, trail, e, r', h⟩
        · exact .inl ⟨frame, nodes, r', .content hdepth hframe hcontent hbody hscan h⟩
        · exact .inr ⟨_, e, r', .content hdepth hframe hcontent hbody h⟩
  · exact .inr ⟨_, _, r, .container hdepth htag hmerge⟩

theorem place_total (composer : Composer) (depth : Nat) : composer.Decided depth := by
  -- The induction is on the levels that are left below the limit.
  by_cases hdepth : depth < composer.settings.maxDepth
  · exact decided_of_succ hdepth (place_total composer (depth + 1))
  · exact fun p r => .inr ⟨_, _, r, .recursionLimit (Nat.le_of_not_lt hdepth)⟩
termination_by composer.settings.maxDepth - depth

end

end Composer

end TagWeave
