import TagWeave.Data
import TagWeave.Field.Schema
import TagWeave.Markup.Classes
import TagWeave.Markup.Style
import TagWeave.Text.Find

/-!
# Components

A component is a value of some kind. The kind says which element stands around the component, what
its template is and which data the template sees; the component holds the values of its fields and
what it sets about its own element.
-/

namespace TagWeave

/-- The element around a component, in text form. An empty tag stands for no element at all. -/
structure Container where
  tag : String := "div"
  classes : String := ""
  attributes : String := ""
  style : String := ""
  deriving DecidableEq, Repr

/-- What a component sets about its element, or receives from its tag. -/
structure Setup where
  /-- An id that is not to be replaced by a generated one. -/
  id? : Option String := none
  classes : ClassSet := .empty
  attributes : AttributeSet := .empty
  style : Style := .empty

instance : Inhabited Setup := ⟨{}⟩

/-- The values of a component's fields, by their declared names. -/
abbrev FieldValues := Dictionary FieldValue

/-- What all components of one kind have in common. All else depends on what the component holds. -/
structure Kind where
  /-- The full name of the type, by which types are told apart. -/
  typeName : String
  /-- The container, given the id of the component. -/
  container : FieldValues → Setup → String → Container
  body : FieldValues → Setup → String
  data : FieldValues → Setup → Data

structure Component where
  kind : Kind
  values : FieldValues
  setup : Setup

/-- The last part of a type's name, without its parameters. -/
def shortTypeName (name : String) : String :=
  .ofList (Text.afterLast "::".toList (name.toList.takeWhile (· != '<')))

namespace Component

def container (c : Component) (id : String) : Container := c.kind.container c.values c.setup id

def body (c : Component) : String := c.kind.body c.values c.setup

def data (c : Component) : Data := c.kind.data c.values c.setup

def assign (c : Component) (field : String) (value : FieldValue) : Component :=
  { c with values := c.values.insert field value }

/-- Gives the component an id of its own. -/
def forceId (c : Component) (id : String) : Component :=
  { c with setup := { c.setup with id? := some id } }

end Component

/-- A component type as it can be registered: a fresh component of it and the fields that the
attributes of a tag may fill. What filling a field does to a component is up to the field. -/
structure Blueprint where
  fresh : Component
  fields : Schema Component
  /-- Whatever a field does, the component stays one of its type. -/
  keeps_type : ∀ field ∈ fields, ∀ c value, (field.set c value).kind.typeName = c.kind.typeName

namespace Blueprint

def typeName (b : Blueprint) : String := b.fresh.kind.typeName

/-- Fills the field that an attribute names and tells whether there is one. A component of another
type has none. An error is about the component of the given name. -/
def bind (b : Blueprint) (label : String) (c : Component) (name raw : String) :
    Except BindingError Bool × Component :=
  if c.kind.typeName = b.typeName then b.fields.bind label c name raw else (.ok false, c)

end Blueprint

end TagWeave
