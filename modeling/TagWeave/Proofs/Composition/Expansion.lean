import TagWeave.Composition.Unfold
import TagWeave.Proofs.Registry.Lookup

/-!
# Expansions

What a component or a text comes to, apart from how it is written. `Composer.Writes` and
`Composer.Expands` say which tree of nodes a component and a list of tokens expand to; a tree is
written by `htmlOf`. `Composer.Fails` says where a composition that does not succeed stops: its
`Trail` leads from the outermost component to the place of the failure.

The rules read the registry only to look names up and to generate ids. No rule mentions what has
been written before.
-/

namespace TagWeave

/-! ## Trees -/

/-- The markup around the content of a component. -/
inductive Frame
  /-- No element: the content stands alone. -/
  | bare
  /-- An opening tag, and neither content nor a closing tag. -/
  | void (tag : String) (attributes : AttributeSet)
  | element (tag : String) (attributes : AttributeSet)

namespace Frame

def opening : Frame → String
  | bare => ""
  | void tag attributes | element tag attributes => openingTag tag attributes

def closing : Frame → String
  | bare | void .. => ""
  | element tag _ => closingTag tag

def hasContent : Frame → Bool
  | void .. => false
  | bare | element .. => true

end Frame

/-- The frame of a component: none if its container has no tag, else that of the tag, with the
merged attributes. -/
inductive Placement.Framed (p : Placement) : Frame → Prop
  | bare : (p.component.container p.id).element? = none → Framed p .bare
  | void : (p.component.container p.id).element? = some tag →
    mergeAttributes (p.component.container p.id) p.component.setup p.site p.id = .ok attributes →
    isVoidElement tag = true → Framed p (.void tag attributes)
  | element : (p.component.container p.id).element? = some tag →
    mergeAttributes (p.component.container p.id) p.component.setup p.site p.id = .ok attributes →
    isVoidElement tag = false → Framed p (.element tag attributes)

/-- What the template of a component is executed against. -/
def Placement.context (p : Placement) : Context := ⟨p.id, p.component.data, p.root⟩

/-- What a token expands to. -/
inductive Node
  | literal (text : String)
  | unregistered (name : String)
  | component (descriptor : Descriptor) (placement : Placement) (frame : Frame)
    (children : List Node)

mutual
def Node.html : Node → String
  | .literal text => text
  | .unregistered name => unregisteredComment name
  | .component _ _ frame children => frame.opening ++ htmlOf children ++ frame.closing

/-- What is written for nodes, one after the other. -/
def htmlOf : List Node → String
  | [] => ""
  | node :: nodes => node.html ++ htmlOf nodes
end

/-- A component in a tree, its content left out. -/
structure Occurrence where
  descriptor : Descriptor
  placement : Placement
  frame : Frame

mutual
def Node.occurrences : Node → List Occurrence
  | .literal _ | .unregistered _ => []
  | .component d p frame children => ⟨d, p, frame⟩ :: occurrencesOf children

/-- The components of a tree, each before those in its content. -/
def occurrencesOf : List Node → List Occurrence
  | [] => []
  | node :: nodes => node.occurrences ++ occurrencesOf nodes
end

/-- The execution of a component's template; a component without content has none. -/
def Placement.execution? (p : Placement) (frame : Frame) : Option (String × Context) :=
  if frame.hasContent then some (p.component.body, p.context) else none

namespace Occurrence

def made (o : Occurrence) : Instance := ⟨o.placement.id, o.placement.component⟩

def execution? (o : Occurrence) : Option (String × Context) := o.placement.execution? o.frame

end Occurrence

/-- The style texts once a component has been used. -/
def withStyle (styles : List (String × String)) (d : Descriptor) : List (String × String) :=
  match d.css? with
  | none => styles
  | some css => if (styles.lookup d.name).isSome then styles else styles ++ [(d.name, css)]

def instancesOf (nodes : List Node) : List Instance := (occurrencesOf nodes).map Occurrence.made

/-- The style texts once the components of a tree have been used. -/
def stylesAfter (styles : List (String × String)) (nodes : List Node) : List (String × String) :=
  (occurrencesOf nodes).foldl (fun styles o => withStyle styles o.descriptor) styles

def executionsOf (nodes : List Node) : List (String × Context) :=
  (occurrencesOf nodes).filterMap Occurrence.execution?

/-! ## Success -/

namespace Composer

mutual
/-- The component of a placement at a depth has the frame, and the nodes as its content. The ids of
the components in it are generated from the first registry on; the second is what is left. -/
inductive Writes (composer : Composer) :
    Nat → Registry → Placement → Frame → List Node → Registry → Prop
  | void : depth < composer.settings.maxDepth → p.Framed frame → frame.hasContent = false →
    Writes composer depth r p frame [] r
  | content : depth < composer.settings.maxDepth → p.Framed frame → frame.hasContent = true →
    composer.executor p.component.body p.context = .ok text →
    (scan r.reserved text).error? = none →
    Expands composer (depth + 1) r p.component.data (scan r.reserved text).tokens nodes r' →
    Writes composer depth r p frame nodes r'

/-- Tokens expand to nodes, the components among them at a depth. `root` is the data that these see
as their root. -/
inductive Expands (composer : Composer) :
    Nat → Registry → (root : Data) → List Token → List Node → Registry → Prop
  | nil : Expands composer depth r root [] [] r
  | literal : Expands composer depth r root tokens nodes r' →
    Expands composer depth r root (.literal text :: tokens) (.literal text :: nodes) r'
  | unregistered : r.lookup? (normalName tag.name) = none → composer.settings.strict = false →
    Expands composer depth r root tokens nodes r' →
    Expands composer depth r root (.tag tag :: tokens)
      (.unregistered (normalName tag.name) :: nodes) r'
  | component {id : String} : r.lookup? (normalName tag.name) = some d →
    instantiate d tag = .ok (component, site) → r.identify d component.setup = (id, r₁) →
    Writes composer depth r₁ ⟨component, id, site, root⟩ frame children r₂ →
    Expands composer depth r₂ root tokens nodes r' →
    Expands composer depth r root (.tag tag :: tokens)
      (.component d ⟨component, id, site, root⟩ frame children :: nodes) r'
end

/-- A token comes to a node, whatever follows. -/
def HeadExpands (composer : Composer) (depth : Nat) (r : Registry) (root : Data) (token : Token)
    (node : Node) (r₁ : Registry) : Prop :=
  ∀ tokens nodes r', Expands composer depth r₁ root tokens nodes r' →
    Expands composer depth r root (token :: tokens) (node :: nodes) r'

theorem Expands.uncons {composer : Composer} {depth : Nat} {r r' : Registry} {root : Data}
    {token : Token} {tokens : List Token} {nodes : List Node}
    (h : Expands composer depth r root (token :: tokens) nodes r') :
    ∃ node rest r₁, nodes = node :: rest ∧ HeadExpands composer depth r root token node r₁ ∧
      Expands composer depth r₁ root tokens rest r' := by
  cases h with
  | literal hrest => exact ⟨_, _, r, rfl, fun _ _ _ h => .literal h, hrest⟩
  | unregistered hlookup hstrict hrest =>
    exact ⟨_, _, r, rfl, fun _ _ _ h => .unregistered hlookup hstrict h, hrest⟩
  | component hlookup hmade hid hwrites hrest =>
    exact ⟨_, _, _, rfl, fun _ _ _ h => .component hlookup hmade hid hwrites h, hrest⟩

mutual
theorem Writes.uncounted {depth : Nat} {r r' : Registry} {p : Placement} {frame : Frame}
    {nodes : List Node} (h : Writes composer depth r p frame nodes r') :
    r'.uncounted = r.uncounted := by
  match h with
  | .void .. => rfl
  | .content _ _ _ _ _ hnodes => exact Expands.uncounted hnodes
termination_by structural h

/-- An expansion changes nothing but the counters. -/
theorem Expands.uncounted {depth : Nat} {r r' : Registry} {root : Data} {tokens : List Token}
    {nodes : List Node} (h : Expands composer depth r root tokens nodes r') :
    r'.uncounted = r.uncounted := by
  match h with
  | .nil => rfl
  | .literal hrest => exact hrest.uncounted
  | .unregistered _ _ hrest => exact hrest.uncounted
  | .component _ _ hid hwrites hrest =>
    rw [hrest.uncounted, hwrites.uncounted]
    exact (congrArg (·.2.uncounted) hid).symm.trans Registry.uncounted_identify
termination_by structural h
end

theorem Expands.reserved {composer : Composer} {depth : Nat} {r r' : Registry} {root : Data}
    {tokens : List Token} {nodes : List Node} (h : Expands composer depth r root tokens nodes r') :
    r'.reserved = r.reserved :=
  Registry.reserved_of_uncounted h.uncounted

end Composer

/-! ## Failure -/

/-- A component on the way to a failure, with what its content has come to before. -/
structure Trail.Step where
  placement : Placement
  frame : Frame
  before : List Node

/-- The way to a failure, from the outermost component on. It ends at a tag that fails before
anything is written for it, or at a component whose template fails. -/
structure Trail where
  steps : List Trail.Step
  failedTemplate? : Option (Placement × Frame)

namespace Trail

def silent : Trail := ⟨[], none⟩

def template (p : Placement) (frame : Frame) : Trail := ⟨[], some (p, frame)⟩

def within (step : Step) (trail : Trail) : Trail := { trail with steps := step :: trail.steps }

/-- A component on the way is left open. -/
def Step.html (step : Step) : String := step.frame.opening ++ htmlOf step.before

/-- What is written of the component whose template fails. -/
def endHtml : Option (Placement × Frame) → String
  | none => ""
  | some (_, frame) => frame.opening ++ templateErrorMarker ++ frame.closing

/-- What has been written when the composition stops. -/
def html (trail : Trail) : String :=
  String.join (trail.steps.map Step.html) ++ endHtml trail.failedTemplate?

def Step.executions (step : Step) : List (String × Context) :=
  (step.placement.execution? step.frame).toList ++ executionsOf step.before

/-- The templates executed up to the failure. -/
def executions (trail : Trail) : List (String × Context) :=
  trail.steps.flatMap Step.executions ++
    (trail.failedTemplate?.bind fun (p, frame) => p.execution? frame).toList

end Trail

namespace Composer

mutual
/-- The component of a placement at a depth fails with an error. The second registry is what is left
of the first. -/
inductive Fails (composer : Composer) :
    Nat → Registry → Placement → Trail → ComposeError → Registry → Prop
  | recursionLimit : composer.settings.maxDepth ≤ depth →
    Fails composer depth r p .silent (.recursionLimit depth composer.settings.maxDepth) r
  | container : depth < composer.settings.maxDepth →
    (p.component.container p.id).element? = some tag →
    mergeAttributes (p.component.container p.id) p.component.setup p.site p.id = .error e →
    Fails composer depth r p .silent (.container p.id e) r
  | template : depth < composer.settings.maxDepth → p.Framed frame → frame.hasContent = true →
    composer.executor p.component.body p.context = .error e →
    Fails composer depth r p (.template p frame) (.templateExecution p.id e) r
  | content : depth < composer.settings.maxDepth → p.Framed frame → frame.hasContent = true →
    composer.executor p.component.body p.context = .ok text →
    FailsWithin composer (depth + 1) r p.component.data text before trail e r' →
    Fails composer depth r p (trail.within ⟨p, frame, before⟩) e r'

/-- A text fails behind the nodes that the tokens before come to. -/
inductive FailsWithin (composer : Composer) :
    Nat → Registry → (root : Data) → String → List Node → Trail → ComposeError → Registry → Prop
  | tagSyntax : (scan r.reserved text).error? = some e →
    Expands composer depth r root (scan r.reserved text).tokens before r' →
    FailsWithin composer depth r root text before .silent (.tagSyntax e text) r'
  | tag : (scan r.reserved text).tokens = tokens ++ .tag tag :: more →
    Expands composer depth r root tokens before r₁ →
    TagFails composer depth r₁ root tag trail e r' →
    FailsWithin composer depth r root text before trail e r'

inductive TagFails (composer : Composer) :
    Nat → Registry → (root : Data) → Tag → Trail → ComposeError → Registry → Prop
  | unregistered : r.lookup? (normalName tag.name) = none → composer.settings.strict = true →
    TagFails composer depth r root tag .silent (.unregistered (normalName tag.name)) r
  | fieldBinding : r.lookup? (normalName tag.name) = some d → instantiate d tag = .error e →
    TagFails composer depth r root tag .silent (.fieldBinding e) r
  | component {id : String} : r.lookup? (normalName tag.name) = some d →
    instantiate d tag = .ok (component, site) → r.identify d component.setup = (id, r₁) →
    Fails composer depth r₁ ⟨component, id, site, root⟩ trail e r' →
    TagFails composer depth r root tag trail e r'
end

mutual
theorem Fails.uncounted {depth : Nat} {r r' : Registry} {p : Placement} {trail : Trail}
    {e : ComposeError} (h : Fails composer depth r p trail e r') : r'.uncounted = r.uncounted := by
  match h with
  | .recursionLimit _ => rfl
  | .container .. => rfl
  | .template .. => rfl
  | .content _ _ _ _ hfails => exact FailsWithin.uncounted hfails
termination_by structural h

theorem FailsWithin.uncounted {depth : Nat} {r r' : Registry} {root : Data} {text : String}
    {before : List Node} {trail : Trail} {e : ComposeError}
    (h : FailsWithin composer depth r root text before trail e r') :
    r'.uncounted = r.uncounted := by
  match h with
  | .tagSyntax _ hbefore => exact hbefore.uncounted
  | .tag _ hbefore hfails => exact (TagFails.uncounted hfails).trans hbefore.uncounted
termination_by structural h

theorem TagFails.uncounted {depth : Nat} {r r' : Registry} {root : Data} {tag : Tag}
    {trail : Trail} {e : ComposeError} (h : TagFails composer depth r root tag trail e r') :
    r'.uncounted = r.uncounted := by
  match h with
  | .unregistered .. => rfl
  | .fieldBinding .. => rfl
  | .component _ _ hid hfails =>
    rw [hfails.uncounted]
    exact (congrArg (·.2.uncounted) hid).symm.trans Registry.uncounted_identify
termination_by structural h
end

/-- How a trail ends: with the component whose template failed if that is the error, else with
nothing. -/
def EndsWith (composer : Composer) (trail : Trail) (e : ComposeError) : Prop :=
  match trail.failedTemplate? with
  | some (p, frame) => p.Framed frame ∧ frame.hasContent = true ∧
    ∃ error, composer.executor p.component.body p.context = .error error ∧
      e = .templateExecution p.id error
  | none => ∀ id error, e ≠ .templateExecution id error

theorem endsWith_within {composer : Composer} {step : Trail.Step} {trail : Trail}
    {e : ComposeError} :
    composer.EndsWith (trail.within step) e ↔ composer.EndsWith trail e := .rfl

mutual
theorem Fails.endsWith {depth : Nat} {r r' : Registry} {p : Placement} {trail : Trail}
    {e : ComposeError} (h : Fails composer depth r p trail e r') : composer.EndsWith trail e := by
  match h with
  | .recursionLimit _ => exact nofun
  | .container .. => exact nofun
  | .template _ hframe hcontent hbody => exact ⟨hframe, hcontent, _, hbody, rfl⟩
  | .content _ _ _ _ hfails => exact endsWith_within.mpr (FailsWithin.endsWith hfails)
termination_by structural h

theorem FailsWithin.endsWith {depth : Nat} {r r' : Registry} {root : Data} {text : String}
    {before : List Node} {trail : Trail} {e : ComposeError}
    (h : FailsWithin composer depth r root text before trail e r') :
    composer.EndsWith trail e := by
  match h with
  | .tagSyntax .. => exact nofun
  | .tag _ _ hfails => exact TagFails.endsWith hfails
termination_by structural h

theorem TagFails.endsWith {depth : Nat} {r r' : Registry} {root : Data} {tag : Tag}
    {trail : Trail} {e : ComposeError} (h : TagFails composer depth r root tag trail e r') :
    composer.EndsWith trail e := by
  match h with
  | .unregistered .. => exact nofun
  | .fieldBinding .. => exact nofun
  | .component _ _ _ hfails => exact hfails.endsWith
termination_by structural h
end

end Composer

end TagWeave
