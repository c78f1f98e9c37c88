import TagWeave.Component.Basic

/-!
# Components declared as data

The container and the template of a declared component are given as text, and all its fields hold
text. A field that no attribute fills is empty.
-/

namespace TagWeave.Declared

/-- The text that a field holds. -/
def textOf : FieldValue → String
  | .text value => value
  | _ => ""

def typeName : String := "ick_compose::component::declared::DeclaredComponent"

def kind (container : Container) (body : String) : Kind where
  typeName := typeName
  container _ _ _ := container
  body _ _ := body
  data values _ := .object (values.entries.map fun (name, value) => (name, .string (textOf value)))

def component (container : Container) (body : String) (fields : List String) : Component where
  kind := kind container body
  values := .ofList (fields.map fun name => (name, .text ""))
  setup := {}

/-- A field that keeps its text under its name. -/
def field (name : String) : Field Component := .text name fun c value => c.assign name (.text value)

def schema (fields : List String) : Schema Component := fields.map field

def blueprint (container : Container) (body : String) (fields : List String) : Blueprint where
  fresh := component container body fields
  fields := schema fields
  keeps_type := List.forall_mem_map.mpr fun _ _ _ value => by cases value <;> rfl

/-- The text of a field, if the component has it. -/
def value? (c : Component) (field : String) : Option String := (c.values.get? field).map textOf

end TagWeave.Declared
