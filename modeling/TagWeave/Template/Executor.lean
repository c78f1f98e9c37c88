import TagWeave.Data

/-!
# Executing templates

A template is executed before its result is scanned for tags. How that happens is up to the
executor; a template sees three values.
-/

namespace TagWeave

/-- What a template is executed against. -/
structure Context where
  /-- The id of the component. -/
  id : String
  /-- The component's own data. -/
  me : Data
  /-- The data of the enclosing component, or that of the caller. -/
  root : Data

structure TemplateError where
  message : String
  deriving DecidableEq, Repr

abbrev Executor := String → Context → Except TemplateError String

/-- Leaves every template as it is. -/
def verbatim : Executor := fun body _ => .ok body

end TagWeave
