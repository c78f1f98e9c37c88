import TagWeave.Field.Duration
import TagWeave.Text.Case

/-!
# Fields of a component

A component declares which attributes of its tag are values of its fields, and of what kind each is.
-/

namespace TagWeave

inductive FieldKind
  | text
  | integer
  | duration
  | boolean
  deriving DecidableEq, Repr

def FieldKind.name : FieldKind → String
  | text => "text"
  | integer => "integer"
  | duration => "duration"
  | boolean => "boolean"

/-- The name by which a schema shows the kind. -/
def FieldKind.tag : FieldKind → String
  | text => "Text"
  | integer => "Int"
  | duration => "Duration"
  | boolean => "Bool"

inductive FieldValue
  | text (value : String)
  | integer (value : Int)
  | duration (value : Duration)
  | boolean (value : Bool)
  deriving DecidableEq, Repr

namespace FieldValue

def text? : FieldValue → Option String
  | text value => some value
  | _ => none

def integer? : FieldValue → Option Int
  | integer value => some value
  | _ => none

def duration? : FieldValue → Option Duration
  | duration value => some value
  | _ => none

def boolean? : FieldValue → Option Bool
  | boolean value => some value
  | _ => none

end FieldValue

/-- The value of a kind that a text stands for, or the reason why there is none. Any text but
`false` and `0` is true. -/
def FieldKind.coerce (kind : FieldKind) (raw : String) : Except String FieldValue :=
  match kind with
  | text => .ok (.text raw)
  | integer =>
    match Number.readInt64 (Text.trimmed raw) with
    | .ok value => .ok (.integer value)
    | .error fault => .error fault.message
  | duration =>
    match Duration.parse raw with
    | .ok value => .ok (.duration value)
    | .error fault => .error (fault.message raw)
  | boolean => .ok (.boolean (!(["false", "0"].contains (Text.lowercase (Text.trimmed raw)))))

/-- An attribute whose value does not fit its field. -/
structure BindingError where
  component : String
  field : String
  kind : FieldKind
  value : String
  reason : String
  deriving DecidableEq, Repr

def BindingError.message (e : BindingError) : String :=
  "cannot bind " ++ Text.quoted e.value ++ " to " ++ e.kind.name ++ " field " ++
    Text.quoted e.field ++ " of " ++ e.component ++ ": " ++ e.reason

/-- A field of targets of some type. -/
structure Field (α : Type) where
  name : String
  kind : FieldKind
  /-- What becomes of a target that is given a value. -/
  set : α → FieldValue → α

namespace Field

/-- A field that takes the values of a kind. Other values change nothing. -/
def ofKind (kind : FieldKind) (read? : FieldValue → Option β) (name : String)
    (set : α → β → α) : Field α where
  name := name
  kind := kind
  set target value := ((read? value).map (set target)).getD target

def text (name : String) (set : α → String → α) : Field α := ofKind .text FieldValue.text? name set

def integer (name : String) (set : α → Int → α) : Field α :=
  ofKind .integer FieldValue.integer? name set

def duration (name : String) (set : α → Duration → α) : Field α :=
  ofKind .duration FieldValue.duration? name set

def boolean (name : String) (set : α → Bool → α) : Field α :=
  ofKind .boolean FieldValue.boolean? name set

end Field

/-- The fields of a target in the order in which they are declared. -/
abbrev Schema (α : Type) := List (Field α)

namespace Schema

/-- The first field that an attribute of this name fills; the case of ASCII letters is free. -/
def find? (schema : Schema α) (name : String) : Option (Field α) :=
  List.find? (fun field => Text.sameIgnoringAsciiCase field.name name) schema

def kind? (schema : Schema α) (name : String) : Option FieldKind :=
  (schema.find? name).map Field.kind

/-- Fills the field of a target that an attribute names, and tells whether there is one. An error is
about `component`. -/
def bind (schema : Schema α) (component : String) (target : α) (name raw : String) :
    Except BindingError Bool × α :=
  match schema.find? name with
  | none => (.ok false, target)
  | some field =>
    match field.kind.coerce raw with
    | .ok value => (.ok true, field.set target value)
    | .error reason => (.error ⟨component, field.name, field.kind, raw, reason⟩, target)

/-- The fields with their kinds, as shown in messages. -/
def describe (schema : Schema α) : String :=
  let fields := schema.map fun f => Text.quoted f.name ++ ": " ++ f.kind.tag
  "\x7b" ++ ", ".intercalate fields ++ "\x7d"

end Schema

end TagWeave
