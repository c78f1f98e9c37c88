import TagWeave.Component.Basic

/-!
# The built-in text component

An inline element around its content.
-/

namespace TagWeave.TextComponent

/-- The value of the field `Content`. -/
def content (values : FieldValues) : String :=
  match values.get? "Content" with
  | some (.text content) => content
  | _ => ""

def typeName : String := "ick_compose::component::text::Text"

def kind : Kind where
  typeName := typeName
  container _ _ _ := { tag := "span" }
  body values _ := content values
  data values _ := .ofFields [("Content", .string (content values))]

def ofContent (content : String) : Component where
  kind := kind
  values := Dictionary.empty.insert "Content" (.text content)
  setup := {}

def schema : Schema Component :=
  [.text "Content" fun c value => c.assign "Content" (.text value)]

def blueprint : Blueprint where
  fresh := ofContent ""
  fields := schema
  keeps_type := List.forall_mem_singleton.mpr fun _ value => by cases value <;> rfl

end TagWeave.TextComponent
