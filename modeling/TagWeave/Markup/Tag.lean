import TagWeave.Text.Quoted
import TagWeave.Text.Span

/-!
# Tags in a text

A component is embedded by a tag that begins with `<` and a reserved sequence of characters, and
ends with `/>`. The rest of a text is literal.
-/

namespace TagWeave

open Text (Span)

/-- An embedded tag. -/
structure Tag where
  /-- The name as written, the reserved characters included. -/
  name : String
  /-- Names with their values, in the order in which they are written. -/
  attributes : List (String × String)
  span : Span
  deriving DecidableEq, Repr

inductive Token
  | literal (text : String)
  | tag (tag : Tag)
  deriving DecidableEq, Repr

/-- What is wrong with a tag. The span covers the text up to where reading stopped. -/
inductive TagError
  | emptyTagName (span : Span)
  | invalidTagName (span : Span) (fragment : String)
  | invalidAttributeName (span : Span) (fragment : String)
  | missingAttributeName (span : Span) (tag : String)
  | emptyValue (span : Span) (name : String)
  | unterminatedQuote (span : Span) (name : String)
  | unterminatedTag (span : Span) (tag : String)
  deriving DecidableEq, Repr

namespace TagError

def span : TagError → Span
  | emptyTagName span => span
  | invalidTagName span _ => span
  | invalidAttributeName span _ => span
  | missingAttributeName span _ => span
  | emptyValue span _ => span
  | unterminatedQuote span _ => span
  | unterminatedTag span _ => span

def message : TagError → String
  | emptyTagName _ => "tag found without name"
  | invalidTagName _ fragment =>
    "invalid character found in tag name: " ++ Text.quoted fragment
  | invalidAttributeName _ fragment =>
    "invalid character found in attribute name: " ++ Text.quoted fragment
  | missingAttributeName _ tag => "'=' found without attribute name in tag " ++ Text.quoted tag
  | emptyValue _ name => "attribute " ++ Text.quoted name ++ " with empty value"
  | unterminatedQuote _ name => "unterminated quoted value for attribute " ++ Text.quoted name
  | unterminatedTag _ tag => "tag " ++ Text.quoted tag ++ " is not closed with '/>'"

end TagError

end TagWeave
