import TagWeave.Dictionary

/-!
# Data

What a component shows to its template, and what a caller hands in as the root.
-/

namespace TagWeave

inductive Data where
  | null
  | boolean (value : Bool)
  | integer (value : Int)
  | float (value : Float)
  | string (value : String)
  | list (items : List Data)
  /-- Fields in increasing order of their names, each name once. -/
  | object (fields : List (String × Data))
  deriving Inhabited

namespace Data

/-- The object with these fields; the later of two of one name counts. -/
def ofFields (fields : List (String × Data)) : Data := .object (Dictionary.ofList fields).entries

def field? (name : String) : Data → Option Data
  | .object fields => fields.lookup name
  | _ => none

end Data

end TagWeave
