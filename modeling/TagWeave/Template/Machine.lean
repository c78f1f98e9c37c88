import TagWeave.Template.Filter.Sequence
import TagWeave.Template.FreeNames

/-!
# The state of a rendering

Names are looked up in frames, the innermost first. A macro sees no frames but its own and a
closure: the names that it reads, as they stood where it was defined, together with what the frame
that it was defined in assigns later.

Loops and namespaces live in cells. A value that refers to one shows how it was when last looked at,
so it is looked at again before it is used.
-/

namespace TagWeave.Template

/-- Names with their values, the latest assignment first. -/
abbrev Bindings := List (String × Value)

/-- Entries in increasing order of their keys. -/
abbrev Entries := List (Value × Value)

/-- A loop that was begun. -/
structure Course where
  definition : Loop
  /-- How deep it nests in recursive loops. -/
  depth : Nat
  /-- How many passes it has, if that is known beforehand. -/
  count? : Option Nat
  items : Array Value
  /-- The pass that it is in, or the number of passes when it is over. -/
  index : Nat := 0
  /-- The values last seen by the watch for changes. -/
  watched? : Option (List Value) := none

/-- What changes while values refer to it. -/
inductive Cell
  | space (entries : Entries)
  | loop (course : Course)

structure Frame where
  bindings : Bindings := []
  /-- The cell of the loop that the frame belongs to. -/
  loop? : Option Nat := none
  /-- The closure that the macros of the frame share. -/
  closure? : Option Nat := none

/-- A macro with its closure, which one that takes no names may lack. -/
structure Routine where
  definition : Macro
  closure? : Option Nat

structure Machine where
  strict : Bool
  blocks : List (String × List Statement)
  frames : List Frame
  cells : Array Cell := #[]
  /-- The names in the closures. -/
  closures : Array Entries := #[]
  routines : Array Routine := #[]
  /-- The next mark of a container. -/
  nextMark : Nat := 0
  escapes : Bool := false
  /-- How deep frames nest; a call of a macro counts for several. -/
  depth : Nat := 1

/-- Steps of a rendering. -/
abbrev Render := StateT Machine (Except Fault)

/-- How many frames may nest. -/
def mostFrames : Nat := 500

/-- How many frames a call of a macro counts for, its own two among them. -/
def macroWeight : Nat := 6

/-- The loop in a cell as a value. -/
def Course.value (c : Course) (cell : Nat) : Value :=
  let near (i : Nat) : Value := (c.items[i]?).getD (.undefined false)
  let previous := if c.index == 0 then .undefined false else near (c.index - 1)
  .loop cell c.index c.count? c.depth previous (near (c.index + 1))

namespace Machine

def builtin? : String → Option Value
  | "range" => some (.builtin .range)
  | "dict" => some (.builtin .dictionary)
  | "namespace" => some (.builtin .namespace_)
  | "debug" => some (.builtin .debug)
  | _ => none

/-- The loop in a cell. -/
def course? (m : Machine) (cell : Nat) : Option Course :=
  match m.cells[cell]? with
  | some (.loop course) => some course
  | _ => none

/-- A value that refers to a cell, as the cell is now. -/
def present (m : Machine) (v : Value) : Value :=
  match v with
  | .space cell _ =>
    match m.cells[cell]? with
    | some (.space entries) => .space cell entries
    | _ => v
  | .loop cell .. => ((m.course? cell).map (·.value cell)).getD v
  | v => v

/-- A value that refers to a cell, as the cell is now and all cells that it refers to. Cells that
refer to themselves are not followed around. -/
def presentThroughout (m : Machine) : (depth : Nat) → (inside : List Nat) → Value → Value
  | 0, _, v => v
  | depth + 1, inside, v =>
    match m.present v with
    | .space cell entries =>
      if inside.contains cell then .space cell entries
      else .space cell (Value.refreshedEntries (m.presentThroughout depth (cell :: inside)) entries)
    | .loop cell index length? nesting previous next =>
      if inside.contains cell then .loop cell index length? nesting previous next
      else
        let now := m.presentThroughout depth (cell :: inside)
        .loop cell index length? nesting (previous.refreshed now) (next.refreshed now)
    | v => v

/-- A value with all that it refers to as it is now. -/
def refreshed (m : Machine) (v : Value) : Value :=
  if m.cells.isEmpty then v else v.refreshed (m.presentThroughout (m.cells.size + 1) [])

/-- The value of a name in a frame. -/
def lookupIn? (m : Machine) (name : String) (frame : Frame) : Option Value :=
  (frame.bindings.lookup name).orElse fun _ =>
    if name == "loop" then
      frame.loop?.bind fun cell => (m.course? cell).map (·.value cell)
    else none

/-- The value of a name. -/
def lookup? (m : Machine) (name : String) : Option Value :=
  (m.frames.findSome? (m.lookupIn? name)).orElse fun _ => builtin? name

def rules (m : Machine) : Rules := ⟨m.strict, m.escapes⟩

end Machine

namespace Render

def rules : Render Rules := return (← get).rules

/-- Runs a step in other frames and at another depth. -/
def inFrames (frames : List Frame) (depth : Nat) (step : Render α) : Render α := do
  let m ← get
  set { m with frames, depth }
  let result ← step
  modify fun after => { after with frames := m.frames, depth := m.depth }
  return result

/-- Runs a step in a frame of its own; what it assigns is forgotten. -/
def within (frame : Frame) (step : Render α) : Render α := do
  let m ← get
  if mostFrames < m.depth then throw .tooDeep
  inFrames (frame :: m.frames) (m.depth + 1) step

/-- Changes the innermost frame. -/
def updateFrame (change : Frame → Frame) : Render Unit :=
  modify fun m => { m with
    frames := match m.frames with
      | [] => []
      | frame :: rest => change frame :: rest }

/-! ## Values -/

/-- A value that may refer to a cell, as that is now. -/
def present (v : Value) : Render Value := return (← get).present v

/-- A value with all that it refers to as it is now. -/
def refreshed (v : Value) : Render Value := return (← get).refreshed v

/-- A value with marks on its containers. -/
def marked (v : Value) : Render Value :=
  modifyGet fun m =>
    let (v, nextMark) := v.marked.run m.nextMark
    (v, { m with nextMark })

/-- A value that stands for something. -/
def valid : Value → Render Value
  | .invalid _ => throw (.unfit "loop")
  | v => return v

/-- Whether a value counts as true. -/
def holds (v : Value) : Render Bool := do (← present v).truth (← rules)

/-- The text of a value as it is written. -/
def written (v : Value) : Render String := do
  let rules ← rules
  v.usable rules
  let v ← refreshed v
  return if rules.escapes then Filter.escapedDisplay v else v.display

/-- A text that was written, as a value. -/
def captured (text : String) : Render Value := return .text text (← rules).escapes

/-! ## Closures -/

/-- Changes a closure. -/
def updateClosure (closure : Nat) (change : Entries → Entries) : Render Unit :=
  modify fun m => { m with closures := m.closures.modify closure change }

/-- Assigns a value to a name of the innermost frame, and in its closure if it has one. -/
def assign (name : String) (value : Value) : Render Unit := do
  let value ← marked value
  updateFrame fun frame => { frame with bindings := (name, value) :: frame.bindings }
  match (← get).frames.head?.bind Frame.closure? with
  | none => pure ()
  | some closure => updateClosure closure (Value.putEntry (.ofText name) value)

/-- The closure of the innermost frame, which it gets if it has none. -/
def frameClosure : Render Nat := do
  let m ← get
  match m.frames.head?.bind Frame.closure? with
  | some closure => return closure
  | none =>
    set { m with closures := m.closures.push [] }
    updateFrame fun frame => { frame with closure? := some m.closures.size }
    return m.closures.size

/-- Takes a name as it stands now into the closure of the innermost frame, unless it is there. -/
def enclose (name : String) : Render Unit := do
  let closure ← frameClosure
  let value := ((← get).lookup? name).getD (.undefined false)
  let key := Value.ofText name
  updateClosure closure fun entries =>
    if (Value.lookup? key entries).isSome then entries else Value.putEntry key value entries

/-- A macro as a value. The names that it reads go to the closure; it calls back if it reads that of
its caller. -/
def newRoutine (definition : Macro) : Render Value := do
  let .mk name parameters _ _ := definition
  let names := definition.freeNames
  for name in names.filter (· != "caller") do enclose name
  let m ← get
  let closure? := m.frames.head?.bind Frame.closure?
  set { m with routines := m.routines.push ⟨definition, closure?⟩ }
  return .routine name m.routines.size parameters (names.contains "caller")

/-- The names of a closure as bindings. -/
def bindingsIn (closure? : Option Nat) : Render Bindings := do
  let m ← get
  let entries := (closure?.bind fun closure => m.closures[closure]?).getD []
  return entries.map fun (key, value) => (key.display, value)

/-! ## Cells -/

def newCell (cell : Cell) : Render Nat :=
  modifyGet fun m => (m.cells.size, { m with cells := m.cells.push cell })

/-- A new namespace. -/
def newSpace (entries : Entries) : Render Value := do
  let entries ← entries.mapM fun (key, value) => return (key, ← marked value)
  return .space (← newCell (.space entries)) entries

/-- Assigns a value to a name of a namespace. -/
def assignIn (space : Nat) (name : String) (value : Value) : Render Unit := do
  let value ← marked value
  modify fun m => { m with
    cells := m.cells.modify space fun cell =>
      match cell with
      | .space entries => .space (Value.putEntry (.ofText name) value entries)
      | cell => cell }

/-- Changes the loop in a cell. -/
def updateCourse (cell : Nat) (change : Course → Course) : Render Unit :=
  modify fun m => { m with
    cells := m.cells.modify cell fun cell =>
      match cell with
      | .loop course => .loop (change course)
      | cell => cell }

/-- Begins a pass of a loop in its frame, which forgets what the pass before assigned. -/
def beginPass (cell index : Nat) : Render Unit := do
  updateFrame fun frame => { frame with bindings := [] }
  updateCourse cell fun course => { course with index }

end Render

end TagWeave.Template
