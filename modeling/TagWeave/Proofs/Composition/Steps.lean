import TagWeave.Proofs.Composition.Expansion
import TagWeave.Proofs.Registry.Lookup

/-!
# Steps of a composition

What each step of a composition does to a session, by the case that applies: one equation for each
way in which a tag, a text or a component can go.
-/

namespace TagWeave

/-! ## Sessions -/

namespace Session

def addText (s : Session) (text : String) : Session := { s with html := s.html ++ text }

def addExecution (s : Session) (body : String) (context : Context) : Session :=
  { s with executions := s.executions ++ [(body, context)] }

/-- The session once a component of a type is about to be written, its id being resolved. -/
def enter (s : Session) (d : Descriptor) (r : Registry) : Session :=
  { s with
    registry := r
    styles := withStyle s.styles d }

/-- The session with a component put before all those from a place on. -/
def insertInstance (s : Session) (slot : Nat) (made : Instance) : Session :=
  { s with instances := s.instances.insertIdx slot made }

end Session

/-! ## Single steps -/

namespace Compose
variable {m : Compose α} {f : α → Compose β} {s t : Session}

/-- What a step comes to, and the session that it leaves. -/
def exec (m : Compose α) (s : Session) : Except ComposeError α × Session := m.run.run s

@[simp] theorem exec_pure (a : α) : (pure a : Compose α).exec s = (.ok a, s) := rfl

@[simp] theorem exec_throw (e : ComposeError) : (throw e : Compose α).exec s = (.error e, s) := rfl

theorem exec_bind : (m >>= f).exec s =
    match m.exec s with
    | (.ok a, t) => (f a).exec t
    | (.error e, t) => (.error e, t) := by
  unfold exec
  rw [ExceptT.run_bind, StateT.run_bind]
  rcases m.run.run s with ⟨a | e, t⟩ <;> rfl

theorem exec_bind_ok {a : α} (h : m.exec s = (.ok a, t)) : (m >>= f).exec s = (f a).exec t := by
  rw [exec_bind, h]

theorem exec_bind_error {e : ComposeError} (h : m.exec s = (.error e, t)) :
    (m >>= f).exec s = (.error e, t) := by
  rw [exec_bind, h]

theorem exec_bind_get {f : Session → Compose β} : (get >>= f).exec s = (f s).exec s := rfl

theorem exec_write (text : String) : (write text).exec s = (.ok (), s.addText text) := rfl

theorem exec_insertInstance (slot : Nat) (made : Instance) :
    (insertInstance slot made).exec s = (.ok (), s.insertInstance slot made) := rfl

theorem exec_useStyle (d : Descriptor) :
    (useStyle d.name d).exec s = (.ok (), { s with styles := withStyle s.styles d }) := by
  unfold useStyle withStyle
  cases d.css? with
  | none => rfl
  | some css =>
    show (Except.ok (), if _ then _ else _) = _
    dsimp only
    split <;> rfl

theorem exec_resolveId {d : Descriptor} {setup : Setup} {id : String} {r : Registry}
    (h : s.registry.identify d setup = (id, r)) :
    (resolveId setup (·.nextId d)).exec s = (.ok id, { s with registry := r }) := by
  unfold resolveId
  unfold Registry.identify at h
  cases hchosen : setup.chosenId? with
  | some chosen =>
    rw [hchosen] at h
    cases h
    rfl
  | none =>
    rw [hchosen] at h
    dsimp only at h
    show (Except.ok (s.registry.nextId d).1, { s with registry := (s.registry.nextId d).2 }) = _
    rw [h]

variable {executor : Executor} {body close text : String} {context : Context}

theorem exec_execute_ok (h : executor body context = .ok text) :
    (execute executor body context close).exec s =
      (.ok text, s.addExecution body context) := by
  unfold execute
  rw [h]
  rfl

theorem exec_execute_error {e : TemplateError} (h : executor body context = .error e) :
    (execute executor body context close).exec s =
      (.error (.templateExecution context.id e),
        (s.addExecution body context).addText (templateErrorMarker ++ close)) := by
  unfold execute
  rw [h]
  rfl

end Compose

/-! ## Tags, texts and components -/

namespace Composer
variable {composer : Composer} {place : Placement → Compose Unit} {root : Data} {tag : Tag}
  {s t : Session} {depth : Nat} {p : Placement} {frame : Frame}

section
variable {d : Descriptor} {component : Component} {site : AttributeSet} {id : String}

theorem exec_unfoldTag_component {r' : Registry}
    (hlookup : s.registry.lookup? (normalName tag.name) = some d)
    (hmade : instantiate d tag = .ok (component, site))
    (hid : s.registry.identify d component.setup = (id, r')) :
    (composer.unfoldTag place root tag).exec s =
      (place ⟨component, id, site, root⟩ >>= fun _ =>
        Compose.insertInstance s.instances.length ⟨id, component⟩).exec (s.enter d r') := by
  unfold unfoldTag
  rw [Compose.exec_bind_get, hlookup]
  dsimp only
  rw [hmade, ← Registry.name_of_lookup? hlookup]
  dsimp only
  rw [Compose.exec_bind_ok (Compose.exec_resolveId hid),
    Compose.exec_bind_ok (Compose.exec_useStyle d), Compose.exec_bind_get, Session.enter]

theorem exec_unfoldTag_fieldBinding {e : BindingError}
    (hlookup : s.registry.lookup? (normalName tag.name) = some d)
    (hmade : instantiate d tag = .error e) :
    (composer.unfoldTag place root tag).exec s = (.error (.fieldBinding e), s) := by
  unfold unfoldTag
  rw [Compose.exec_bind_get, hlookup]
  dsimp only
  rw [hmade]
  rfl

theorem exec_unfoldTag_strict (hlookup : s.registry.lookup? (normalName tag.name) = none)
    (hstrict : composer.settings.strict = true) :
    (composer.unfoldTag place root tag).exec s =
      (.error (.unregistered (normalName tag.name)), s) := by
  unfold unfoldTag
  rw [Compose.exec_bind_get, hlookup]
  dsimp only
  rw [if_pos hstrict]
  rfl

theorem exec_unfoldTag_unregistered (hlookup : s.registry.lookup? (normalName tag.name) = none)
    (hstrict : composer.settings.strict = false) :
    (composer.unfoldTag place root tag).exec s =
      (.ok (), s.addText (unregisteredComment (normalName tag.name))) := by
  unfold unfoldTag
  rw [Compose.exec_bind_get, hlookup]
  dsimp only
  rw [if_neg (Bool.eq_false_iff.mp hstrict)]
  rfl

end

theorem exec_unfoldTokens_append {before after : List Token} :
    (composer.unfoldTokens place root (before ++ after)).exec s =
      (composer.unfoldTokens place root before >>= fun _ =>
        composer.unfoldTokens place root after).exec s := by
  induction before generalizing s with
  | nil => rfl
  | cons token before ih =>
    cases token with
    | literal text =>
      rw [List.cons_append, unfoldTokens, unfoldTokens, bind_assoc,
        Compose.exec_bind_ok (Compose.exec_write text),
        Compose.exec_bind_ok (Compose.exec_write text), ih]
    | tag tag =>
      rw [List.cons_append, unfoldTokens, unfoldTokens, bind_assoc, Compose.exec_bind,
        Compose.exec_bind]
      rcases (composer.unfoldTag place root tag).exec s with ⟨e | u, t⟩
      · rfl
      · exact ih

section
variable {text : String}

theorem exec_unfold_ok (hscan : (scan s.registry.reserved text).error? = none)
    (h : (composer.unfoldTokens place root (scan s.registry.reserved text).tokens).exec s =
      (.ok (), t)) : (composer.unfold place root text).exec s = (.ok (), t) := by
  rw [Composer.unfold, Compose.exec_bind_get, Compose.exec_bind_ok h, hscan]
  rfl

theorem exec_unfold_tagSyntax {e : TagError}
    (hscan : (scan s.registry.reserved text).error? = some e)
    (h : (composer.unfoldTokens place root (scan s.registry.reserved text).tokens).exec s =
      (.ok (), t)) :
    (composer.unfold place root text).exec s = (.error (.tagSyntax e text), t) := by
  rw [Composer.unfold, Compose.exec_bind_get, Compose.exec_bind_ok h, hscan]
  rfl

theorem exec_unfold_error {e : ComposeError}
    (h : (composer.unfoldTokens place root (scan s.registry.reserved text).tokens).exec s =
      (.error e, t)) : (composer.unfold place root text).exec s = (.error e, t) := by
  rw [Composer.unfold, Compose.exec_bind_get, Compose.exec_bind_error h]

end

section
variable {text close : String}

theorem content_eq : composer.content place p close =
    (Compose.execute composer.executor p.component.body p.context close >>= fun text =>
      composer.unfold place p.component.data text >>= fun _ => Compose.write close) := rfl

theorem exec_content_ok (hbody : composer.executor p.component.body p.context = .ok text)
    (h : (composer.unfold place p.component.data text).exec
      (s.addExecution p.component.body p.context) = (.ok (), t)) :
    (composer.content place p close).exec s = (.ok (), t.addText close) := by
  rw [content_eq, Compose.exec_bind_ok (Compose.exec_execute_ok hbody)]
  exact Compose.exec_bind_ok h

theorem exec_content_error {e : ComposeError}
    (hbody : composer.executor p.component.body p.context = .ok text)
    (h : (composer.unfold place p.component.data text).exec
      (s.addExecution p.component.body p.context) = (.error e, t)) :
    (composer.content place p close).exec s = (.error e, t) := by
  rw [content_eq, Compose.exec_bind_ok (Compose.exec_execute_ok hbody)]
  exact Compose.exec_bind_error h

theorem exec_content_template {e : TemplateError}
    (hbody : composer.executor p.component.body p.context = .error e) :
    (composer.content place p close).exec s =
      (.error (.templateExecution p.id e),
        (s.addExecution p.component.body p.context).addText (templateErrorMarker ++ close)) := by
  rw [content_eq, Compose.exec_bind_error (Compose.exec_execute_error hbody)]
  rfl

end

theorem exec_place_deep (h : composer.settings.maxDepth ≤ depth) : (composer.place depth p).exec s =
    (.error (.recursionLimit depth composer.settings.maxDepth), s) := by
  unfold place
  rw [Nat.sub_eq_zero_of_le h]
  rfl

section
variable {levels : Nat} {tag : String} {attributes : AttributeSet} {e : AttributeError}

theorem element_bare (htag : (p.component.container p.id).element? = none) :
    composer.element (levels + 1) depth p =
      composer.content (composer.element levels (depth + 1)) p "" := by
  rw [element]
  simp only [htag]

theorem element_tag (htag : (p.component.container p.id).element? = some tag)
    (hmerge : mergeAttributes (p.component.container p.id) p.component.setup p.site p.id =
      .ok attributes) :
    composer.element (levels + 1) depth p = (Compose.write (openingTag tag attributes) >>= fun _ =>
      if isVoidElement tag then pure ()
      else composer.content (composer.element levels (depth + 1)) p (closingTag tag)) := by
  rw [element]
  simp only [htag, hmerge]

theorem element_container (htag : (p.component.container p.id).element? = some tag)
    (hmerge : mergeAttributes (p.component.container p.id) p.component.setup p.site p.id =
      .error e) : composer.element (levels + 1) depth p = throw (.container p.id e) := by
  rw [element]
  simp only [htag, hmerge]

end

/-- Above the limit, a component is placed with the levels that are left one level deeper. -/
theorem place_eq (h : depth < composer.settings.maxDepth) : composer.place depth p =
    composer.element (composer.settings.maxDepth - (depth + 1) + 1) depth p :=
  congrArg (composer.element · depth p) (by omega)

theorem exec_place_container {tag : String} {e : AttributeError}
    (h : depth < composer.settings.maxDepth)
    (htag : (p.component.container p.id).element? = some tag)
    (hmerge : mergeAttributes (p.component.container p.id) p.component.setup p.site p.id =
      .error e) : (composer.place depth p).exec s = (.error (.container p.id e), s) := by
  rw [place_eq h, element_container htag hmerge, Compose.exec_throw]

theorem exec_place_void (h : depth < composer.settings.maxDepth) (hframe : p.Framed frame)
    (hvoid : frame.hasContent = false) :
    (composer.place depth p).exec s = (.ok (), s.addText frame.opening) := by
  cases hframe with
  | bare => cases hvoid
  | element => cases hvoid
  | void htag hmerge hname =>
    rw [place_eq h, element_tag htag hmerge, Compose.exec_bind_ok (Compose.exec_write _),
      if_pos hname, Compose.exec_pure, Frame.opening]

theorem exec_place_content (h : depth < composer.settings.maxDepth) (hframe : p.Framed frame)
    (hcontent : frame.hasContent = true) : (composer.place depth p).exec s =
      (composer.content (composer.place (depth + 1)) p frame.closing).exec
        (s.addText frame.opening) := by
  cases hframe with
  | bare htag =>
    have hsession : s.addText "" = s := by simp [Session.addText]
    rw [place_eq h, element_bare htag]
    exact congrArg (composer.content _ p "").exec hsession.symm
  | void => cases hcontent
  | element htag hmerge hname =>
    rw [place_eq h, element_tag htag hmerge, Compose.exec_bind_ok (Compose.exec_write _),
      if_neg (Bool.eq_false_iff.mp hname), Frame.closing, Frame.opening, place]

end Composer

end TagWeave
