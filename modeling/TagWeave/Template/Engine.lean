import TagWeave.Template.Executor
import TagWeave.Template.Render

/-!
# The template engine as an executor
-/

namespace TagWeave.Template

/-- Whether a text holds the start of a print, a tag or a comment. -/
def hasDelimiter (text : String) : Bool := (Lexeme.cutAtOpening text.toList).2.isSome

/-- The names that a template sees. -/
def bindingsOf (context : Context) : Bindings :=
  [("Id", .ofText context.id), ("Me", .ofData context.me), ("Root", .ofData context.root)]

/-- Renders templates. Text without any delimiter is left as it is; `strict` refuses undefined
values. -/
def engine (strict : Bool) : Executor := fun body context =>
  if hasDelimiter body then
    (render strict body (bindingsOf context)).mapError fun e => ⟨e.message⟩
  else .ok body

end TagWeave.Template
