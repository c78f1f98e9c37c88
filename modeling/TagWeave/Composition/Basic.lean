import TagWeave.Component.Basic
import TagWeave.Markup.Tag
import TagWeave.Template.Executor

/-!
# Outcomes of a composition
-/

namespace TagWeave

structure ComposeSettings where
  /-- How deep components may nest. -/
  maxDepth : Nat := 10
  /-- A tag that names no registered component is an error. -/
  strict : Bool := false
  /-- Printing an undefined value of a template is an error. -/
  strictUndefined : Bool := false
  deriving DecidableEq, Repr

inductive ComposeError
  /-- A malformed tag in the text that was scanned. -/
  | tagSyntax (error : TagError) (text : String)
  | templateExecution (id : String) (error : TemplateError)
  | unregistered (name : String)
  | recursionLimit (depth max : Nat)
  | fieldBinding (error : BindingError)
  /-- The opening tag of a component cannot be built. -/
  | container (id : String) (error : AttributeError)
  deriving DecidableEq, Repr

def ComposeError.message : ComposeError → String
  | tagSyntax error _ => error.message
  | templateExecution id error => "template of " ++ id ++ " failed: " ++ error.message
  | unregistered name => "unable to unfold unregistered " ++ name ++ " component"
  | recursionLimit depth max =>
    "maximum composition depth " ++ toString max ++ " reached at depth " ++ toString depth
  | fieldBinding error => error.message
  | container id error => "invalid container of " ++ id ++ ": " ++ error.message

/-- A component made from a tag, with the id of its element. -/
structure Instance where
  id : String
  component : Component

def Instance.describe (i : Instance) : String :=
  "Instance \x7b id: " ++ Text.quoted i.id ++ ", type: " ++ Text.quoted i.component.kind.typeName ++
    " \x7d"

/-- A finished composition. -/
structure Composition where
  /-- The id of the composed component; a fragment has none. -/
  id? : Option String
  html : String
  /-- The components made from tags, in the order of their opening tags. -/
  instances : List Instance
  /-- The style texts of the registered components used, by name, in the order of first use. -/
  styles : List (String × String)

def Composition.ids (c : Composition) : List String := c.instances.map Instance.id

/-- All style texts, each under the name of its component. -/
def Composition.stylesheet (c : Composition) : String :=
  String.join (c.styles.map fun (name, css) => "/* " ++ name ++ " */\n" ++ Text.trimmed css ++ "\n")

/-- A composition that failed, with what had been written. -/
structure ComposeFailure where
  error : ComposeError
  written : String
  deriving DecidableEq, Repr

end TagWeave
