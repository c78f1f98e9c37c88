import TagWeave.Component.Text
import TagWeave.Markup.Name
import TagWeave.Text.Find

/-!
# Registry of component types

Component types are registered under names that begin with reserved characters and have no capital
letters. Each name counts the ids generated for it; the types without a name share one counter.
-/

namespace TagWeave

/-- Why a name cannot be registered. -/
inductive RegistryError
  | missingPrefix (name reserved : String)
  | emptyName (name : String)
  | invalidName (name : String)
  deriving DecidableEq, Repr

def RegistryError.message : RegistryError → String
  | missingPrefix name reserved =>
    "component name " ++ Text.quoted name ++ " must start with " ++ Text.quoted reserved
  | emptyName name => "component name " ++ Text.quoted name ++ " is empty after the prefix"
  | invalidName name => "component name " ++ Text.quoted name ++ " is not a valid html name"

/-- A registered component type. -/
structure Descriptor where
  name : String
  css : String
  blueprint : Blueprint
  /-- The ids generated so far. -/
  count : Nat

namespace Descriptor

/-- The style text that goes with the component, unless it is blank. -/
def css? (d : Descriptor) : Option String :=
  if (Text.trimmed d.css).isEmpty then none else some d.css

def describe (d : Descriptor) : String :=
  "ComponentDescriptor \x7b name: " ++ Text.quoted d.name ++ ", css: " ++ Text.quoted d.css ++
    ", count: " ++ toString d.count ++ ", .. \x7d"

/-- Fills a field of a component made by this descriptor. -/
def bind (d : Descriptor) (c : Component) (name raw : String) :
    Except BindingError Bool × Component :=
  d.blueprint.bind d.name c name raw

end Descriptor

structure Registry where
  /-- What every name begins with. -/
  reserved : String
  /-- The registered types under their names, in the order of registration. -/
  entries : List (String × Descriptor)
  /-- Types with the name that each is known by. -/
  nameOfType : List (String × String) := []
  /-- The ids generated so far for types without a name. -/
  anonymous : Nat := 0
  /-- A type stands under its own name. -/
  keyed : ∀ entry ∈ entries, entry.2.name = entry.1 := by decide

/-- The form in which names are stored and looked up. -/
def normalName (name : String) : String := Text.lowercase (Text.trimmed name)

/-- The id with a number. -/
def numberedId (name : String) (count : Nat) : String := name ++ "-" ++ toString count

namespace Registry

def withReserved (reserved : String) : Registry :=
  { reserved := Text.lowercase reserved, entries := [] }

/-- The reserved characters of a registry that sets none. -/
def defaultReserved : String := "ick-"

def empty : Registry := withReserved defaultReserved

/-- The normal form of a name that may be registered. -/
def validate (r : Registry) (name : String) : Except RegistryError String :=
  let name := normalName name
  match Text.after? r.reserved.toList name.toList with
  | none => .error (.missingPrefix name r.reserved)
  | some suffix =>
    if suffix.isEmpty then .error (.emptyName name)
    else if isName name then .ok name
    else .error (.invalidName name)

/-- All registered types. -/
def descriptors (r : Registry) : List Descriptor := r.entries.map Prod.snd

/-- The descriptor stored under a name in normal form. -/
def find? (r : Registry) (name : String) : Option Descriptor :=
  (r.entries.find? (·.1 == name)).map Prod.snd

def lookup? (r : Registry) (name : String) : Option Descriptor := r.find? (normalName name)

def contains (r : Registry) (name : String) : Bool := (r.lookup? name).isSome

/-- Adds a type under a name in normal form, unless the name is taken. -/
def insert (r : Registry) (name css : String) (blueprint : Blueprint) : Registry :=
  if (r.find? name).isSome then r
  else
    { r with
      entries := r.entries ++ [(name, ⟨name, css, blueprint, 0⟩)]
      keyed := List.forall_mem_append.mpr ⟨r.keyed, List.forall_mem_singleton.mpr rfl⟩ }

/-- Registers a type under a name. A name that is taken stays as it is. -/
def registerAs (r : Registry) (name css : String) (blueprint : Blueprint) :
    Except RegistryError Unit × Registry :=
  match r.validate name with
  | .error e => (.error e, r)
  | .ok name => (.ok (), r.insert name css blueprint)

/-- Registers a type that is to be known by its first name. -/
def register (r : Registry) (name css : String) (blueprint : Blueprint) :
    Except RegistryError Unit × Registry :=
  match r.validate name with
  | .error e => (.error e, r)
  | .ok name =>
    if (r.find? name).isSome || (r.nameOfType.lookup blueprint.typeName).isSome then
      (.ok (), r.insert name css blueprint)
    else
      (.ok (), { r.insert name css blueprint with
        nameOfType := r.nameOfType ++ [(blueprint.typeName, name)] })

/-- The registry with the built-in components. -/
def standard : Registry :=
  (empty.register (empty.reserved ++ "text") "" TextComponent.blueprint).2

/-- The descriptor that a component's type is known by. -/
def descriptorFor? (r : Registry) (c : Component) : Option Descriptor :=
  (r.nameOfType.lookup c.kind.typeName).bind r.find?

/-- The names in order. -/
def names (r : Registry) : List String :=
  (r.entries.map Prod.fst).mergeSort fun a b => a ≤ b

/-- Changes the counters of the registered types. -/
def mapCounts (r : Registry) (step : String → Nat → Nat) : Registry :=
  { r with
    entries := r.entries.map fun (name, d) => (name, { d with count := step name d.count })
    keyed := List.forall_mem_map.mpr fun entry hentry => r.keyed entry hentry }

/-- Counts one more id for a name in normal form. -/
def countId (r : Registry) (name : String) : Registry :=
  r.mapCounts fun other count => if other = name then count + 1 else count

/-- Generates an id for a registered type. -/
def nextId (r : Registry) (d : Descriptor) : String × Registry :=
  let count := ((r.find? d.name).map Descriptor.count).getD d.count
  (numberedId d.name count, r.countId d.name)

/-- Generates an id for a component of any type. -/
def nextIdFor (r : Registry) (c : Component) : String × Registry :=
  match r.descriptorFor? c with
  | some d => r.nextId d
  | none =>
    let name := Text.lowercase (shortTypeName c.kind.typeName)
    (numberedId name r.anonymous, { r with anonymous := r.anonymous + 1 })

end Registry

end TagWeave
