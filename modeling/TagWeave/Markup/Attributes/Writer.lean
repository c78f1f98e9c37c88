import TagWeave.Markup.Attributes
import TagWeave.Number.Decimal

/-!
# Attributes as text

Truth needs no value and numbers need no quotes. Any other value stands in the quotes that it does
not hold, single ones first.
-/

namespace TagWeave.AttributeSet

/-- The text with an entity for each double quote. -/
def escapeQuotes (text : String) : String :=
  .ofList (text.toList.flatMap fun c => if c == '"' then "&quot;".toList else [c])

/-- How a value is written after its name. -/
def writeValue (value : String) : String :=
  let lower := Text.lowercase value
  if value.isEmpty || lower == "true" then ""
  else if lower == "false" then "=" ++ lower
  else if Number.isNumeric value then "=" ++ value
  else if !value.toList.contains '\'' then "='" ++ value ++ "'"
  else if !value.toList.contains '"' then "=\"" ++ value ++ "\""
  else "=\"" ++ escapeQuotes value ++ "\""

/-- The attributes in order, a space between them. -/
def write (attributes : AttributeSet) : String :=
  " ".intercalate (attributes.entries.map fun (name, value) => name ++ writeValue value)

end TagWeave.AttributeSet
