import TagWeave.Dictionary
import TagWeave.Markup.Name
import TagWeave.Number.Integer
import TagWeave.Text.Blank
import TagWeave.Text.Case
import TagWeave.Text.Quoted

/-!
# Attributes of an element

At most one value for each name, ordered by name. An attribute without a value has the empty one.
-/

namespace TagWeave

/-- What is wrong with a text that should hold attributes or classes. -/
inductive AttributeError
  | invalidName (name : String)
  | invalidClass (token : String)
  /-- An equals sign in `text` has no name before it. -/
  | missingName (text : String)
  | unterminatedQuote (name : String)
  /-- A value with both kinds of quotes, which neither can enclose. -/
  | ambiguousQuotes (name value : String)
  deriving DecidableEq, Repr

def AttributeError.message : AttributeError → String
  | .invalidName name => "attribute name " ++ Text.quoted name ++ " is not valid"
  | .invalidClass token => "class token " ++ Text.quoted token ++ " is not valid"
  | .missingName text => "'=' found without attribute name in " ++ Text.quoted text
  | .unterminatedQuote name => "unterminated quoted value for attribute " ++ Text.quoted name
  | .ambiguousQuotes name value =>
    "ambiguous quotes in the value of attribute " ++ Text.quoted name ++ ": " ++ Text.quoted value

abbrev AttributeSet := Dictionary String

namespace AttributeSet

/-- The value holds both kinds of quotes. -/
def hasBothQuotes (value : String) : Bool := value.toList.contains '\'' && value.toList.contains '"'

def checkQuotes (name value : String) : Except AttributeError Unit :=
  if hasBothQuotes value then .error (.ambiguousQuotes name value) else .ok ()

/-- What is kept of a value that is set by hand: spaces and quotes at its ends are dropped. -/
def strippedValue (value : String) : String :=
  .ofList (Text.strip (fun c => c == ' ' || c == '"' || c == '\'') value.toList)

/-- Sets an attribute by hand, its name without blanks at the ends. -/
def set (attributes : AttributeSet) (name value : String) :
    Except AttributeError Unit × AttributeSet :=
  let name := Text.trimmed name
  let value := strippedValue value
  if !isName name then (.error (.invalidName name), attributes)
  else
    match checkQuotes name value with
    | .ok () => (.ok (), attributes.insert name value)
    | .error e => (.error e, attributes)

/-- A switch is on when it is present and its value is neither `false` nor `0`. -/
def isTrue (attributes : AttributeSet) (name : String) : Bool :=
  match attributes.get? name with
  | none => false
  | some value => !(["false", "0"].contains (Text.lowercase value))

/-- Removes an attribute that is present, else adds it without a value. Tells whether it is present
afterwards. The name is taken as it is. -/
def toggle (attributes : AttributeSet) (name : String) : Bool × AttributeSet :=
  if attributes.contains name then (false, attributes.erase name)
  else (true, attributes.insert name "")

def isDataName (name : String) : Bool :=
  name.utf8ByteSize > 5 && "data-".toList.isPrefixOf name.toList

/-- The attributes whose names begin with `data-` and go on. -/
def data (attributes : AttributeSet) : AttributeSet := attributes.filter (isDataName ·.1)

/-- The attribute `tabIndex`, 0 if it is no integer. -/
def tabIndex (attributes : AttributeSet) : Int :=
  match attributes.get? "tabIndex" with
  | none => 0
  | some value => (Number.readInt64 value).toOption.getD 0

def setTabIndex (attributes : AttributeSet) (index : Int) : AttributeSet :=
  attributes.insert "tabIndex" (toString index)

/-- Fails on the first attribute whose value no quotes can enclose. -/
def validate (attributes : AttributeSet) : Except AttributeError Unit :=
  attributes.entries.forM fun (name, value) => checkQuotes name value

end AttributeSet

end TagWeave
