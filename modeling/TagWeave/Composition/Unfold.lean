import TagWeave.Component.Element
import TagWeave.Composition.Basic
import TagWeave.Markup.Tag.Scan
import TagWeave.Registry

/-!
# Composing

A component is written as its element. Its template is executed and the result is unfolded: literal
text is copied, and in place of each tag the component that it names is written, one level deeper.
All output goes to one text, so that what precedes an error is kept.
-/

namespace TagWeave

/-- What a composition has done so far. -/
structure Session where
  registry : Registry
  html : String := ""
  instances : List Instance := []
  styles : List (String × String) := []
  /-- The templates executed, each with its context. -/
  executions : List (String × Context) := []

/-- Steps of a composition. An error leaves the session as it was when the error arose. -/
abbrev Compose := ExceptT ComposeError (StateM Session)

structure Composer where
  executor : Executor
  settings : ComposeSettings := {}

/-- A component that is to be written. -/
structure Placement where
  component : Component
  id : String
  /-- The attributes of its tag that fill no field. -/
  site : AttributeSet
  /-- The data of the enclosing component. -/
  root : Data

/-- Written in place of the content of a component whose template failed. -/
def templateErrorMarker : String := "<!-- composing html template error -->"

/-- Written in place of a tag that names no registered component. -/
def unregisteredComment (name : String) : String :=
  "<!-- unable to unfold unregistered " ++ name ++ " component -->"

namespace Compose

def write (text : String) : Compose Unit := modify fun s => { s with html := s.html ++ text }

/-- Runs a step on the registry. -/
def updateRegistry (step : Registry → α × Registry) : Compose α :=
  modifyGet fun s => ((step s.registry).1, { s with registry := (step s.registry).2 })

/-- Puts a component before all those from a place on. -/
def insertInstance (slot : Nat) (i : Instance) : Compose Unit :=
  modify fun s => { s with instances := s.instances.insertIdx slot i }

/-- Notes the style text of a component whose name is used for the first time. -/
def useStyle (name : String) (d : Descriptor) : Compose Unit :=
  match d.css? with
  | none => pure ()
  | some css =>
    modify fun s =>
      if (s.styles.lookup name).isSome then s
      else { s with styles := s.styles ++ [(name, css)] }

/-- Executes a template. If that fails, a marker is written and then `close`. -/
def execute (executor : Executor) (body : String) (context : Context) (close : String) :
    Compose String := do
  modify fun s => { s with executions := s.executions ++ [(body, context)] }
  match executor body context with
  | .ok text => pure text
  | .error e =>
    write (templateErrorMarker ++ close)
    throw (.templateExecution context.id e)

end Compose

/-- The id that a component asks for, or else a generated one. -/
def resolveId (setup : Setup) (generate : Registry → String × Registry) : Compose String :=
  match setup.chosenId? with
  | some id => pure id
  | none => Compose.updateRegistry generate

/-- Fills the fields of a component from attributes in their order. What fills no field is kept;
the later of two such attributes of one name counts. -/
def bindAttributes (d : Descriptor) (c : Component) (site : AttributeSet) :
    List (String × String) → Except BindingError (Component × AttributeSet)
  | [] => .ok (c, site)
  | (name, raw) :: rest =>
    match d.bind c name raw with
    | (.error e, _) => .error e
    | (.ok true, c) => bindAttributes d c site rest
    | (.ok false, c) => bindAttributes d c (site.insert name raw) rest

/-- Makes the component of a tag. An `id` that fills no field becomes the component's own. -/
def instantiate (d : Descriptor) (tag : Tag) : Except BindingError (Component × AttributeSet) :=
  match bindAttributes d d.blueprint.fresh .empty tag.attributes with
  | .error e => .error e
  | .ok (c, site) =>
    match site.get? "id" with
    | none => .ok (c, site)
    | some id => .ok (if id.isEmpty then c else c.forceId id, site.erase "id")

namespace Composer

/-- Unfolds a tag, `place` writing the component that it names. -/
def unfoldTag (composer : Composer) (place : Placement → Compose Unit) (root : Data) (tag : Tag) :
    Compose Unit := do
  let name := normalName tag.name
  match (← get).registry.lookup? name with
  | none =>
    if composer.settings.strict then throw (.unregistered name)
    else Compose.write (unregisteredComment name)
  | some d =>
    match instantiate d tag with
    | .error e => throw (.fieldBinding e)
    | .ok (component, site) =>
      let id ← resolveId component.setup (·.nextId d)
      Compose.useStyle name d
      -- The component is handed out once it is written, but before those in its content.
      let slot := (← get).instances.length
      place ⟨component, id, site, root⟩
      Compose.insertInstance slot ⟨id, component⟩

/-- Unfolds the tokens of a text one by one. -/
def unfoldTokens (composer : Composer) (place : Placement → Compose Unit) (root : Data) :
    List Token → Compose Unit
  | [] => pure ()
  | .literal text :: rest => do
    Compose.write text
    composer.unfoldTokens place root rest
  | .tag tag :: rest => do
    composer.unfoldTag place root tag
    composer.unfoldTokens place root rest

/-- Unfolds a text. `root` is the data that the components in it see as their root. -/
def unfold (composer : Composer) (place : Placement → Compose Unit) (root : Data) (text : String) :
    Compose Unit := do
  let found := scan (← get).registry.reserved text
  composer.unfoldTokens place root found.tokens
  match found.error? with
  | none => pure ()
  | some e => throw (.tagSyntax e text)

/-- Writes the content of a component: its template is executed and unfolded. -/
def content (composer : Composer) (place : Placement → Compose Unit) (p : Placement)
    (close : String) : Compose Unit := do
  let me := p.component.data
  let text ← Compose.execute composer.executor p.component.body ⟨p.id, me, p.root⟩ close
  composer.unfold place me text
  Compose.write close

/-- Writes the element of a component at a depth, with `levels` left from there on. -/
def element (composer : Composer) : (levels depth : Nat) → Placement → Compose Unit
  | 0, depth, _ => throw (.recursionLimit depth composer.settings.maxDepth)
  | levels + 1, depth, p =>
    let place := composer.element levels (depth + 1)
    let container := p.component.container p.id
    match container.element? with
    | none => composer.content place p ""
    | some tag =>
      match mergeAttributes container p.component.setup p.site p.id with
      | .error e => throw (.container p.id e)
      | .ok attributes => do
        Compose.write (openingTag tag attributes)
        if isVoidElement tag then pure () else composer.content place p (closingTag tag)

/-- Writes the element of a component at a depth. -/
def place (composer : Composer) (depth : Nat) : Placement → Compose Unit :=
  composer.element (composer.settings.maxDepth - depth) depth

/-- What a composition came to, and the registry with the ids that it generated. -/
def finish (id? : Option String) : Except ComposeError Unit × Session →
    Except ComposeFailure Composition × Registry
  | (.ok (), s) => (.ok ⟨id?, s.html, s.instances, s.styles⟩, s.registry)
  | (.error e, s) => (.error ⟨e, s.html⟩, s.registry)

/-- Writes a component as its element. -/
def compose (composer : Composer) (registry : Registry) (component : Component) (root : Data) :
    Except ComposeFailure Composition × Registry :=
  let (id, registry) :=
    match component.setup.chosenId? with
    | some id => (id, registry)
    | none => registry.nextIdFor component
  finish (some id) ((composer.place 0 ⟨component, id, .empty, root⟩).run.run { registry })

/-- Writes a text with its tags unfolded, without an element of its own. -/
def composeFragment (composer : Composer) (registry : Registry) (text : String) (root : Data) :
    Except ComposeFailure Composition × Registry :=
  let step : Compose Unit := do
    let text ← Compose.execute composer.executor text ⟨"", .null, root⟩ ""
    composer.unfold (composer.place 1) root text
  finish none (step.run.run { registry })

end Composer

end TagWeave
