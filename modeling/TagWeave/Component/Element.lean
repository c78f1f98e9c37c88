import TagWeave.Component.Basic
import TagWeave.Markup.Attributes.Reader
import TagWeave.Markup.Attributes.Writer

/-!
# The element around a component

Its attributes come from the tag, from the setup of the component and from its container: the tag
counts before the setup and the setup before the container. Classes and style accumulate.
-/

namespace TagWeave

/-- The tag of the element in small letters, if there is an element. -/
def Container.element? (container : Container) : Option String :=
  let tag := Text.lowercase (Text.trimmed container.tag)
  if tag.isEmpty then none else some tag

/-- The attributes of the element's opening tag. `site` holds those of the component's tag. -/
def mergeAttributes (container : Container) (setup : Setup) (site : AttributeSet) (id : String) :
    Except AttributeError AttributeSet := do
  let defaults ← AttributeSet.parse container.attributes
  let merged := (setup.attributes.merge site true).merge defaults false
  let classes ← ClassSet.parse container.classes
  let classes ← classes.addWords ((merged.get? "class").getD "")
  let classes := classes.union setup.classes
  let style := ((Style.ofText container.style).push setup.style.text).push
    ((merged.get? "style").getD "")
  let merged := ((merged.erase "class").erase "style").insert "id" id
  let merged := if classes.isEmpty then merged else merged.insert "class" classes.write
  let merged := if style.isEmpty then merged else merged.insert "style" style.text
  AttributeSet.validate merged
  return merged

/-- The opening tag of an element. -/
def openingTag (tag : String) (attributes : AttributeSet) : String :=
  "<" ++ tag ++ " " ++ AttributeSet.write attributes ++ ">"

def closingTag (tag : String) : String := "</" ++ tag ++ ">"

/-- The id that a setup asks for: a forced one, else its attribute; an empty one asks for none. -/
def Setup.chosenId? (setup : Setup) : Option String :=
  (nonempty? setup.id?).orElse fun _ => nonempty? (setup.attributes.get? "id")
where
  nonempty? (id? : Option String) : Option String := id?.filter (!·.isEmpty)

end TagWeave
