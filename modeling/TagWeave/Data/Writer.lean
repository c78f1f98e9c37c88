import TagWeave.Data
import TagWeave.Number.Shortest
import TagWeave.Text.Quoted

/-!
# Data as JSON text, without blanks
-/

namespace TagWeave.Data

/-- A control is escaped by its letter or by four digits; all else but quote and backslash stands
for itself. -/
def escapedForm (c : Char) : List Char :=
  if c == '"' then ['\\', '"']
  else if c == '\\' then ['\\', '\\']
  else if c == '\n' then ['\\', 'n']
  else if c == '\r' then ['\\', 'r']
  else if c == '\t' then ['\\', 't']
  else if c == '\x08' then ['\\', 'b']
  else if c == '\x0c' then ['\\', 'f']
  else if c.toNat < 0x10 then ['\\', 'u', '0', '0', '0'] ++ Text.hexadecimal c.toNat
  else if c.toNat < 0x20 then ['\\', 'u', '0', '0'] ++ Text.hexadecimal c.toNat
  else [c]

def writeText (text : String) : String :=
  .ofList ('"' :: text.toList.flatMap escapedForm ++ ['"'])

mutual

def write : Data → String
  | .null => "null"
  | .boolean value => if value then "true" else "false"
  | .integer value => toString value
  | .float value => if value.isFinite then Number.compact.text value else "null"
  | .string value => writeText value
  | .list items => "[" ++ ",".intercalate (writeItems items) ++ "]"
  | .object fields => "\x7b" ++ ",".intercalate (writeFields fields) ++ "\x7d"

def writeItems : List Data → List String
  | [] => []
  | item :: rest => item.write :: writeItems rest

def writeFields : List (String × Data) → List String
  | [] => []
  | (name, value) :: rest => (writeText name ++ ":" ++ value.write) :: writeFields rest

end

end TagWeave.Data
