import TagWeave.Component.Declared
import TagWeave.Component.Element
import TagWeave.Composition.Basic
import TagWeave.Registry
import TagWeave.Toml.Reader

/-!
# Settings

A document with settings of compositions and with declarations of components. What it says beyond
that is ignored.
-/

namespace TagWeave

/-- A component declared as data. -/
structure Declaration where
  name : String
  tag : String := "div"
  classes : String := ""
  attributes : String := ""
  style : String := ""
  body : String := ""
  css : String := ""
  /-- The names of the fields. -/
  fields : List String := []
  deriving DecidableEq, Repr

structure Settings where
  compose : ComposeSettings := {}
  components : List Declaration := []
  deriving DecidableEq, Repr

/-- Why settings cannot be used. -/
inductive SettingsError
  /-- The document cannot be obtained. -/
  | unreadable (reason : String)
  /-- The document is no TOML, or something in it has the wrong type. -/
  | malformed
  | registration (error : RegistryError)
  /-- The attributes or classes of a declared component cannot be read. -/
  | invalidContainer (name : String) (error : AttributeError)
  deriving DecidableEq, Repr

def SettingsError.message : SettingsError → String
  | unreadable reason => "Failed to read config file: " ++ reason
  | malformed => "Failed to parse config TOML: the document is malformed"
  | registration error => "Failed to register component: " ++ error.message
  | invalidContainer name error =>
    "Invalid container of component " ++ name ++ ": " ++ error.message

/-! ## Decoding -/

namespace Toml

/-- A record, given by the names of its fields: a table, or the values in the order of the names.
A moment stands for a record that says nothing. -/
def record? (names : List String) : Item → Option Table
  | .table _ entries => some entries
  | .array items => some (names.zip items)
  | .moment _ => some []
  | _ => none

def text? : Item → Option String
  | .text value => some value
  | _ => none

def boolean? : Item → Option Bool
  | .boolean value => some value
  | _ => none

def natural? : Item → Option Nat
  | .integer value => if value < 0 then none else some value.toNat
  | _ => none

def list? : Item → Option (List Item)
  | .array items => some items
  | .tables items => some (items.map (.table .header))
  | _ => none

/-- A field that may be missing; one that is there has to be of its type. -/
def field? (t : Table) (name : String) (read : Item → Option α) (default : α) : Option α :=
  match t.lookup name with
  | none => some default
  | some item => read item

end Toml

namespace Settings

open Toml

def compose? (item : Item) : Option ComposeSettings := do
  let t ← record? ["max_depth", "strict", "strict_undefined"] item
  let default : ComposeSettings := {}
  return {
    maxDepth := ← field? t "max_depth" natural? default.maxDepth
    strict := ← field? t "strict" boolean? default.strict
    strictUndefined := ← field? t "strict_undefined" boolean? default.strictUndefined }

def declaration? (item : Item) : Option Declaration := do
  let names := ["name", "tag", "classes", "attributes", "style", "body", "css", "fields"]
  let t ← record? names item
  return {
    name := ← text? (← t.lookup "name")
    tag := ← field? t "tag" text? "div"
    classes := ← field? t "classes" text? ""
    attributes := ← field? t "attributes" text? ""
    style := ← field? t "style" text? ""
    body := ← field? t "body" text? ""
    css := ← field? t "css" text? ""
    fields := ← field? t "fields" (fun item => do (← list? item).mapM text?) [] }

def ofTable? (t : Table) : Option Settings := do
  return {
    compose := ← field? t "compose" compose? {}
    components := ← field? t "component" (fun item => do (← list? item).mapM declaration?) [] }

/-- Reads settings from the text of a document. -/
def parse (text : String) : Except SettingsError Settings :=
  match (Toml.read? text).bind ofTable? with
  | some settings => .ok settings
  | none => .error .malformed

end Settings

/-! ## The registry of declared components -/

namespace Declaration

def container (d : Declaration) : Container :=
  { tag := d.tag, classes := d.classes, attributes := d.attributes, style := d.style }

/-- Whether the attributes and the classes of the container can be read. -/
def check (d : Declaration) : Except AttributeError Unit := do
  let _ ← AttributeSet.parse d.attributes
  let _ ← ClassSet.parse d.classes

def blueprint (d : Declaration) : Blueprint := Declared.blueprint d.container d.body d.fields

/-- Registers the declared component under its name. -/
def register (d : Declaration) (r : Registry) : Except SettingsError Registry := do
  d.check.mapError (.invalidContainer d.name)
  match r.registerAs d.name d.css d.blueprint with
  | (.ok (), r) => return r
  | (.error e, _) => throw (.registration e)

end Declaration

/-- The registry of the built-in and the declared components. -/
def Settings.registry (s : Settings) : Except SettingsError Registry :=
  s.components.foldlM (fun r d => d.register r) .standard

end TagWeave
