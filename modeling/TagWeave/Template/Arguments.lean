import TagWeave.Number.Integer
import TagWeave.Template.Operators

/-!
# Arguments of filters, tests and functions

Arguments with names make one map behind the others; where any value will do, the map is a value
like the others. Where undefined values are refused, no argument that has to be of some kind may be
undefined.
-/

namespace TagWeave.Template

/-- How undefined values and texts are treated. -/
structure Rules where
  /-- Undefined values are refused. -/
  strict : Bool
  /-- Texts that are not safe are escaped when written. -/
  escapes : Bool := false

abbrev Outcome := Except Fault Value

structure Arguments where
  positional : List Value
  /-- The arguments with names, if any are given. -/
  entries? : Option (List (Value × Value)) := none

namespace Value

/-- A value that may be used, which an unexpected undefined one is not where such are refused. -/
def usable (rules : Rules) : Value → Except Fault Unit
  | .undefined expected => if rules.strict && !expected then .error .undefined else .ok ()
  | _ => .ok ()

/-- The truth of a value. -/
def truth (rules : Rules) (v : Value) : Except Fault Bool := do
  v.usable rules
  return v.isTrue

/-- What a loop over a value runs through, which is nothing for an undefined one. -/
def lenientItems (v : Value) : Except Fault (List Value) :=
  match v.items? with
  | some items => .ok items
  | Option.none => .error (.unfit "loop")

/-- What a loop over a value runs through, if the value may be used. -/
def items (rules : Rules) (v : Value) : Except Fault (List Value) := do
  v.usable rules
  v.lenientItems

/-- The text of a value, as an argument. -/
def asText (rules : Rules) (v : Value) : Except Fault String := do
  if rules.strict && v.isUndefined then throw .undefined
  return v.display

/-- A value that has to be a text. -/
def asName : Value → Except Fault String
  | .text s _ => .ok s
  | _ => .error (.unfit "name")

def asCount (v : Value) : Except Fault Nat :=
  match v.asCount? with
  | some n => .ok n
  | Option.none => .error (.unfit "count")

def asInteger (v : Value) : Except Fault Int :=
  match v.asWord? with
  | some n => .ok n
  | Option.none => .error (.unfit "integer")

def asFlag : Value → Except Fault Bool
  | .boolean b => .ok b
  | _ => .error (.unfit "flag")

/-- A part of a value, which is undefined if it is missing; an undefined value has no parts. -/
def partOf (v : Value) (found? : Option Value) : Outcome :=
  match found? with
  | some part => .ok part
  | Option.none => if v.isUndefined then .error .undefined else .ok (.undefined false)

def field (v : Value) (name : String) : Outcome := v.partOf (v.field? name)

def item (v key : Value) : Outcome := v.partOf (v.item? key)

/-- The part of a value under names with points between them; a number is a position. -/
def path (v : Value) (names : String) : Outcome :=
  (names.splitOn ".").foldlM (fun v name =>
    match Number.readNat64 name with
    | .ok position => v.item (.integer position)
    | .error _ => v.field name) v

end Value

namespace Arguments

/-- More arguments with names, of which the later count. -/
def withNamed (entries : List (Value × Value)) (a : Arguments) : Arguments :=
  { a with entries? := some (Value.sortEntries (a.entries?.getD [] ++ entries)) }

/-- All arguments in a row. -/
def all (a : Arguments) : List Value := a.positional ++ (a.entries?.map (.map Option.none)).toList

def atMost (most : Nat) (values : List Value) : Except Fault (List Value) :=
  if values.length ≤ most then .ok values else .error (.unfit "arguments")

/-- All arguments, at most as many as given. -/
def upTo (most : Nat) (a : Arguments) : Except Fault (List Value) := atMost most a.all

/-- The arguments, at most as many as given, none of which has a name. -/
def plain (most : Nat) (a : Arguments) : Except Fault (List Value) :=
  if a.entries?.isSome then .error (.unfit "arguments") else atMost most a.positional

def none (a : Arguments) : Except Fault Unit := do
  let _ ← a.plain 0

/-- The only one of some values. -/
def only : List Value → Outcome
  | [v] => .ok v
  | _ => .error (.unfit "arguments")

/-- The only argument. -/
def one (a : Arguments) : Outcome := only a.all

/-- The only argument, which has no name. -/
def plainOne (a : Arguments) : Outcome := do only (← a.plain 1)

/-- An argument of any kind that may be left out, also as nothing. -/
def given? (value? : Option Value) : Option Value :=
  value?.filter fun v => match v with
    | .undefined _ | .none => false
    | _ => true

/-- An argument that has to be of some kind and may be left out. -/
def optional (rules : Rules) (value? : Option Value) : Except Fault (Option Value) :=
  if rules.strict && value?.any Value.isUndefined then .error .undefined else .ok (given? value?)

/-- The names and values of the arguments with names. -/
def named (a : Arguments) : List (String × Value) :=
  (a.entries?.getD []).filterMap fun (key, value) =>
    match key with
    | .text name _ => some (name, value)
    | _ => Option.none

/-- Refuses names other than the given ones. -/
def namedOf (names : List String) (a : Arguments) : Except Fault Unit :=
  if a.named.all fun n => names.contains n.1 then .ok () else .error (.unfit "arguments")

/-- Named arguments alone, with the given names. -/
def namedOnly (names : List String) (a : Arguments) : Except Fault Unit :=
  if a.positional.isEmpty then a.namedOf names else .error (.unfit "arguments")

def named? (a : Arguments) (name : String) : Option Value := given? (a.named.lookup name)

/-- A named text. -/
def name? (a : Arguments) (name : String) : Except Fault (Option String) :=
  (a.named? name).mapM Value.asName

/-- A named flag, which is unset if it is missing. -/
def flag (a : Arguments) (name : String) : Except Fault Bool :=
  match a.named? name with
  | some v => v.asFlag
  | Option.none => .ok false

end Arguments

end TagWeave.Template
