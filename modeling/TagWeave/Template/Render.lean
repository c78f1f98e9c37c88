import TagWeave.Template.Grammar
import TagWeave.Template.Machine

/-!
# Rendering templates

Expressions come to values and statements to text. The functions take the number of steps that may
still nest; a rendering allows so many that frames run out first.
-/

namespace TagWeave.Template

namespace Render

/-! ## Functions -/

/-- The most numbers that a range may have. -/
def mostNumbers : Nat := 100000

def range (rules : Rules) (a : Arguments) : Outcome := do
  let given ← a.plain 3
  let first ← match given.head? with
    | some first => first.asInteger
    | none => throw (.unfit "range")
  let second? ← (← Arguments.optional rules given[1]?).mapM Value.asInteger
  let step? ← (← Arguments.optional rules given[2]?).mapM Value.asInteger
  let (start, stop) := match second? with
    | none => (0, first)
    | some second => (first, second)
  let step := step?.getD 1
  if step == 0 then throw (.unfit "range")
  let count :=
    ((if 0 < step then stop - start + step - 1 else start - stop - step - 1) / step.natAbs).toNat
  if mostNumbers < count then throw (.unfit "range")
  return .ofStream ((List.range count).map fun (i : Nat) => .integer (start + i * step))

/-- A map of an optional map and named values. -/
def dictionary (a : Arguments) : Outcome := do
  let named := a.entries?.getD []
  match Arguments.given? (← Arguments.atMost 1 a.positional).head? with
  | none => return .map none named
  | some v =>
    match v.entries? with
    | some entries => return .ofEntries (entries ++ named)
    | none => throw (.unfit "dict")

/-- What a new namespace holds: those entries of a map whose keys are names. -/
def spaceEntries (a : Arguments) : Except Fault Entries := do
  match Arguments.given? (← a.upTo 1).head? with
  | none => return []
  | some v =>
    match v.entries? with
    | some entries => return entries.filter fun e => match e.1 with
      | .text .. => true
      | _ => false
    | none => throw (.unfit "namespace")

/-- The values given, each item on a line of its own. -/
def debugged (a : Arguments) : String :=
  match a.all with
  | [v] => v.spread 0
  | values => (Value.ofList values).spread 0

/-- Arguments with all that they refer to as it is now. -/
def refreshedArguments (a : Arguments) : Render Arguments := do
  let positional ← a.positional.mapM refreshed
  let entries? ← a.entries?.mapM (·.mapM fun (key, value) => return (key, ← refreshed value))
  return ⟨positional, entries?⟩

def callBuiltin (function : Builtin) (a : Arguments) : Render Value := do
  let a ← refreshedArguments a
  match function with
  | .range => range (← rules) a
  | .dictionary => dictionary a
  | .namespace_ => newSpace (← spaceEntries a)
  | .debug => return .ofText (debugged a)

/-! ## Parts of values -/

def fieldOf (v : Value) (name : String) : Render Value := do
  valid (← (← present v).field name)

/-- The next of some values, one for each pass of a loop. -/
def cycle (index : Nat) (values : List Value) : Outcome :=
  match values[index % values.length]? with
  | some v => .ok v
  | none => .error (.unfit "cycle")

/-- Whether the values differ from those last seen by the loop in a cell. -/
def changed (cell : Nat) (values : List Value) : Render Value := do
  let values ← values.mapM refreshed
  let seen? ← (((← get).course? cell).bind Course.watched?).mapM (·.mapM refreshed)
  updateCourse cell fun course => { course with watched? := some values }
  return .boolean !(seen?.any (Value.sameLists · values))

/-- The cell of the innermost loop. -/
def currentLoop? : Render (Option Nat) := return (← get).frames.findSome? Frame.loop?

/-- How deep a new loop nests in recursive ones. -/
def nextDepth : Render Nat := do
  let m ← get
  match (← currentLoop?).bind m.course? with
  | some { definition := .mk _ _ _ true _ _, depth, .. } => return depth + 1
  | _ => return 0

/-- How many passes a loop over a value has, if that is known beforehand. -/
def countOf? (v : Value) : Option Nat :=
  match v with
  | .text .. | .stream _ false _ => none
  | v => v.items?.map List.length

/-- The values of parameters, those that are missing being undefined. -/
def parameterValues (parameters : List String) (positional : List Value)
    (named : List (String × Value)) : Except Fault (List (String × Value)) := do
  if parameters.length < positional.length then throw (.unfit "macro")
  let taken := parameters.take positional.length
  if named.any fun n => taken.contains n.1 || !parameters.contains n.1 then
    throw (.unfit "macro")
  return parameters.zipIdx.map fun (name, i) =>
    (name, (positional[i]? <|> named.lookup name).getD (.undefined false))

/-- The defaults of parameters, of which only the last ones have any. -/
def parameterDefaults (count : Nat) (defaults : List Expr) : List (Option Expr) :=
  List.replicate (count - defaults.length) none ++ defaults.map some

/-! ## Expressions and statements -/

mutual

def evaluate : Nat → Expr → Render Value
  | 0, _ => throw .tooDeep
  | _ + 1, .literal v => return v
  | _ + 1, .variable name => do valid (((← get).lookup? name).getD (.undefined false))
  | steps + 1, .list items => return .ofList (← items.mapM (evaluate steps))
  | steps + 1, .map entries => do
    return .ofEntries (← entries.mapM fun (key, value) => do
      return (← refreshed (← evaluate steps key), ← evaluate steps value))
  | steps + 1, .field subject name => do fieldOf (← evaluate steps subject) name
  | steps + 1, .item subject key => do
    let v ← evaluate steps subject
    let key ← refreshed (← evaluate steps key)
    valid (← (← present v).item key)
  | steps + 1, .slice subject start stop step => do
    let v ← evaluate steps subject
    if (← get).strict && v.isUndefined then throw .undefined
    let start ← evaluate steps start
    let stop ← evaluate steps stop
    v.slice start stop (← evaluate steps step)
  | steps + 1, .not operand => do
    return .boolean (!(← holds (← evaluate steps operand)))
  | steps + 1, .negate operand => do (← evaluate steps operand).negate
  | steps + 1, .binary .or left right => do
    let v ← evaluate steps left
    if ← holds v then return v else evaluate steps right
  | steps + 1, .binary .and left right => do
    let v ← evaluate steps left
    if ← holds v then evaluate steps right else return v
  | steps + 1, .binary operator left right => do
    let a ← evaluate steps left
    let b ← evaluate steps right
    if operator == .concat then
      a.usable (← rules)
      b.usable (← rules)
      Value.operate operator (← refreshed a) (← refreshed b)
    else Value.operate operator a b
  | steps + 1, .comparison first links => do
    return .boolean (← related steps (← evaluate steps first) links)
  | steps + 1, .choice condition yes no? => do
    if ← holds (← evaluate steps condition) then evaluate steps yes
    else
      match no? with
      | some no => evaluate steps no
      | none => return .undefined true
  | steps + 1, .filter subject name given => do
    let v ← evaluate steps subject
    filter steps v (name, given)
  | steps + 1, .test subject name given => do
    let v ← evaluate steps subject
    let a ← refreshedArguments (← arguments steps given)
    match Test.find? Filter.isName name with
    | some test => return .boolean (← test (← rules) (← refreshed v) a)
    | none => throw (.unknownTest name)
  | steps + 1, .call function given => do
    let a ← arguments steps given
    call steps function a

/-- Whether a value and those that follow it are related one by one. What comes after a relation
that does not hold is not evaluated. -/
def related : Nat → Value → List (Relation × Expr) → Render Bool
  | 0, _, _ => throw .tooDeep
  | _ + 1, _, [] => return true
  | steps + 1, a, (relation, right) :: rest => do
    let b ← evaluate steps right
    a.usable (← rules)
    b.usable (← rules)
    if ← (← refreshed a).relates relation (← refreshed b) then related steps b rest
    else return false

def filter : Nat → Value → FilterCall → Render Value
  | 0, _, _ => throw .tooDeep
  | steps + 1, v, (name, given) => do
    let a ← refreshedArguments (← arguments steps given)
    match Filter.find? name with
    | some f => f (← rules) (← refreshed v) a
    | none => throw (.unknownFilter name)

def arguments : Nat → List Argument → Render Arguments
  | 0, _ => throw .tooDeep
  | steps + 1, given => given.foldlM (fun a argument => do
    match argument with
    | .positional value =>
      return { a with positional := a.positional ++ [← evaluate steps value] }
    | .named name value => return a.withNamed [(.ofText name, ← evaluate steps value)]
    | .spread values => do
      let items ← (← present (← evaluate steps values)).lenientItems
      return { a with positional := a.positional ++ items }
    | .spreadNamed values =>
      match (← present (← evaluate steps values)).entries? with
      | some entries => return a.withNamed entries
      | none => throw (.unfit "arguments")) ⟨[], none⟩

/-- Calls what an expression stands for. A loop is called by the name of a variable only. -/
def call : Nat → Expr → Arguments → Render Value
  | 0, _, _ => throw .tooDeep
  | steps + 1, .variable name, a => do
    match (← get).lookup? name with
    | some (.loop cell ..) => again steps cell a
    | some f => apply steps f a
    | none => throw (.unknownFunction name)
  | steps + 1, .field (.variable "self") name, _ => do captured (← block steps name)
  | steps + 1, .field subject name, a => do
    match ← present (← evaluate steps subject), name with
    | .loop _ index _ _ _ _, "cycle" => cycle index a.all
    | .loop cell .., "changed" => changed cell a.all
    | v, name =>
      match ← fieldOf v name with
      | .undefined _ => throw (.unknownFunction name)
      | f => apply steps f a
  | steps + 1, function, a => do apply steps (← evaluate steps function) a

/-- What the recursive loop in a cell writes for other items. -/
def again : Nat → Nat → Arguments → Render Value
  | 0, _, _ => throw .tooDeep
  | steps + 1, cell, a => do
    match (← get).course? cell with
    | some { definition := .mk target items condition? true body _, .. } =>
      let v ← present (← a.one)
      let found ← v.items (← rules)
      captured (← repeated steps (.mk target items condition? true body []) (countOf? v) found)
    | _ => throw (.unknownFunction "loop")

def apply : Nat → Value → Arguments → Render Value
  | 0, _, _ => throw .tooDeep
  | _ + 1, .builtin function, a => callBuiltin function a
  | steps + 1, .routine name number _ _, a => do
    match (← get).routines[number]? with
    | some routine => routineText steps routine a
    | none => throw (.unknownFunction name)
  | _ + 1, _, _ => throw (.unfit "call")

/-- What a macro writes. It knows no blocks. -/
def routineText : Nat → Routine → Arguments → Render Value
  | 0, _, _ => throw .tooDeep
  | steps + 1, ⟨.mk name parameters defaults body, closure?⟩, a => do
    let callsBack := (Macro.mk name parameters defaults body).freeNames.contains "caller"
    let named := a.named.filter fun n => !callsBack || n.1 != "caller"
    let caller := if callsBack then [("caller", (a.named.lookup "caller").getD (.undefined false))]
      else []
    let values ← parameterValues parameters a.positional named
    let paired := values.zip (parameterDefaults parameters.length defaults)
    let outside ← get
    let frames : List Frame := [{ bindings := caller }, { bindings := ← bindingsIn closure? }]
    if mostFrames < outside.depth + macroWeight then throw .tooDeep
    modify fun m => { m with blocks := [] }
    let text ← inFrames frames (outside.depth + macroWeight) do
      for ((name, value), default?) in paired.reverse do
        match value, default? with
        | .undefined _, some default => assign name (← evaluate steps default)
        | value, _ => assign name value
      execute steps body
    modify fun m => { m with blocks := outside.blocks }
    captured text

/-- Assigns a value to a target, the items of a sequence one by one. -/
def assignTo : Nat → Target → Value → Render Unit
  | 0, _, _ => throw .tooDeep
  | _ + 1, .variable name, v => assign name v
  | steps + 1, .list targets, v => do
    let v ← present v
    let items ← match v.sequence?, v.entries? with
      | some items, _ => pure items
      | none, some entries => pure (entries.map (·.1))
      | none, none => throw (.unfit "assignment")
    if items.length != targets.length then throw (.unfit "assignment")
    for (target, item) in targets.zip items do assignTo steps target item
  | steps + 1, .field subject name, v => do
    match ← evaluate steps subject with
    | .space space _ => assignIn space name v
    | _ => throw (.unfit "assignment")

/-- Runs the body of a loop for every item. -/
def repeated : Nat → Loop → Option Nat → List Value → Render String
  | 0, _, _, _ => throw .tooDeep
  | steps + 1, .mk target items condition? recursive body otherwise, count?, found => do
    let found ← found.mapM marked
    let cell ← newCell (.loop
      { definition := .mk target items condition? recursive body otherwise
        depth := ← nextDepth
        count?
        items := found.toArray })
    within { loop? := some cell } do
      let text ← found.zipIdx.foldlM (fun text (item, index) => do
        beginPass cell index
        assignTo steps target (← valid item)
        return text ++ (← execute steps body)) ""
      updateCourse cell fun course => { course with index := found.length }
      return text

/-- The items for which the condition of a loop holds. -/
def chosen : Nat → Target → Option Expr → List Value → Render (List Value)
  | 0, _, _, _ => throw .tooDeep
  | _ + 1, _, none, items => return items
  | steps + 1, target, some condition, items =>
    within {} do
      items.filterM fun item => do
        assignTo steps target (← valid item)
        holds (← evaluate steps condition)

/-- The text of a named block. -/
def block : Nat → String → Render String
  | 0, _ => throw .tooDeep
  | steps + 1, name => do
    match (← get).blocks.lookup name with
    | some body => within {} (execute steps body)
    | none => throw (.unknownFunction name)

def statement : Nat → Statement → Render String
  | 0, _ => throw .tooDeep
  | _ + 1, .literal text => return text
  | steps + 1, .print (.call (.variable "loop") [argument]) => do
    let a ← arguments steps [argument]
    match ← currentLoop? with
    | some cell => written (← again steps cell a)
    | none => throw (.unknownFunction "loop")
  | steps + 1, .print value => do written (← evaluate steps value)
  | steps + 1, .loop (.mk target items condition? recursive body otherwise) => do
    let v ← present (← evaluate steps items)
    let found ← chosen steps target condition? (← v.items (← rules))
    let count? := if condition?.isSome then some found.length else countOf? v
    if found.isEmpty then execute steps otherwise
    else repeated steps (.mk target items condition? recursive body otherwise) count? found
  | steps + 1, .branch condition yes no => do
    if ← holds (← evaluate steps condition) then execute steps yes
    else execute steps no
  | steps + 1, .scope bound body =>
    within {} do
      for (target, value) in bound do assignTo steps target (← evaluate steps value)
      execute steps body
  | steps + 1, .assign target value => do
    assignTo steps target (← evaluate steps value)
    return ""
  | steps + 1, .capture target filters body => do
    let text ← captured (← execute steps body)
    assignTo steps target (← filters.foldlM (filter steps) text)
    return ""
  | steps + 1, .filtered filters body => do
    let text ← captured (← execute steps body)
    written (← filters.foldlM (filter steps) text)
  | steps + 1, .escaping setting body => do
    let outside := (← get).escapes
    let inside ← match ← evaluate steps setting with
      | .text "html" _ => pure true
      | .text "none" _ => pure false
      | .text .. => throw (.unfit "autoescape")
      | v => pure (v.same (.boolean true))
    modify fun m => { m with escapes := inside }
    let text ← execute steps body
    modify fun m => { m with escapes := outside }
    return text
  | steps + 1, .block name => block steps name
  | _ + 1, .define definition => do
    let .mk name _ _ _ := definition
    assign name (← newRoutine definition)
    return ""
  | steps + 1, .callBack function given body => do
    let a ← arguments steps given
    let caller ← newRoutine body
    written (← call steps function (a.withNamed [(.ofText "caller", caller)]))
  | steps + 1, .perform e => do
    let _ ← evaluate steps e
    return ""
  | steps + 1, .refer names optional => do
    let v ← present (← evaluate steps names)
    let names := match v with
      | .text .. | .undefined _ | .none => [v]
      | v => v.items?.getD [v]
    for name in names do
      match name with
      | .text .. => pure ()
      | _ => throw (.unfit "include")
    if optional || names.isEmpty then return "" else throw .unknownTemplate
  | steps + 1, .depend name => do
    let _ ← evaluate steps name
    throw .unknownTemplate
  | _ + 1, .gap _ => throw .unknownTemplate

/-- The text of some statements. -/
def execute : Nat → List Statement → Render String
  | 0, _ => throw .tooDeep
  | steps + 1, body => body.foldlM (fun text s => return text ++ (← statement steps s)) ""

end

end Render

/-- Renders a template. The names in it stand for the values of the bindings. -/
def render (strict : Bool) (template : String) (bindings : Bindings) : Except Fault String := do
  let document ← Document.read template
  let machine : Machine := { strict, blocks := document.blocks, frames := [{}] }
  let steps := mostFrames * (16 * template.length + 16)
  let rendering : Render String := do
    for (name, value) in bindings do Render.assign name value
    Render.execute steps document.body
  rendering.run' machine

end TagWeave.Template
