import TagWeave.Template.Arguments
import TagWeave.Text.Case

/-!
# Tests of templates

The conditions behind the word `is`.
-/

namespace TagWeave.Template

/-- A test, given its subject and its arguments. -/
abbrev Test := Rules → Value → Arguments → Except Fault Bool

namespace Test

/-- A test without arguments. -/
def simple (p : Value → Bool) (_ : Rules) (v : Value) (a : Arguments) : Except Fault Bool := do
  a.none
  return p v

/-- A test against another value. -/
def against (p : Value → Value → Bool) (_ : Rules) (v : Value) (a : Arguments) :
    Except Fault Bool :=
  return p v (← a.one)

/-- A test of a text against another one. -/
def ofTexts (p : List Char → List Char → Bool) (rules : Rules) (v : Value) (a : Arguments) :
    Except Fault Bool := do
  let other ← a.plainOne
  return p (← v.asText rules).toList (← other.asText rules).toList

/-- A test of something that has to be a text. -/
def ofName (p : String → Bool) (_ : Rules) (v : Value) (a : Arguments) : Except Fault Bool := do
  a.none
  return p (← v.asName)

/-- Whether a value is an integer of 128 bits with a property. -/
def integral (p : Int → Bool) (v : Value) : Bool := v.asIndex?.any fun n => Value.fits n && p n

/-- Whether a number keeps its value as a floating-point number. -/
def isFloatExactly (v : Value) : Bool :=
  v.isFloat || v.asInteger?.any fun n => Value.orderMixed n (Float.ofInt n) == .eq

def isDivisible (a b : Value) : Bool :=
  match Value.pair? a b with
  | some (.integers a b) => (Value.operands? a b).any fun (a, b) => b != 0 && a % b == 0
  | some (.floats x y) =>
    isFloatExactly a && isFloatExactly b && Number.remainder x y == 0.0
  | _ => false

/-- Whether a value is a container, a function or something else that only equals itself. -/
def isObject : Value → Bool
  | .undefined _ | .none | .boolean _ | .integer _ | .float _ | .lowest | .text .. => false
  | _ => true

/-- One value, or equal ones of one kind that cannot be told apart. -/
def isSame (a b : Value) : Bool :=
  if isObject a || isObject b then a.isIdentical b
  else a.rank == b.rank && a.isFloat == b.isFloat && a.same b

def isIn (rules : Rules) (v : Value) (a : Arguments) : Except Fault Bool := do
  let container ← a.one
  container.usable rules
  return match container.contains v with
    | .ok found => found
    | .error _ => false

/-- The tests that need to know no names. -/
def basic? : String → Option Test
  | "undefined" => some (simple Value.isUndefined)
  | "defined" => some (simple (!·.isUndefined))
  | "none" => some (simple fun v => match v with | .none => true | _ => false)
  | "safe" | "escaped" => some (simple fun v => match v with | .text _ safe => safe | _ => false)
  | "boolean" => some (simple fun v => match v with | .boolean _ => true | _ => false)
  | "true" => some (simple fun v => match v with | .boolean b => b | _ => false)
  | "false" => some (simple fun v => match v with | .boolean b => !b | _ => false)
  | "odd" => some (simple (integral (· % 2 != 0)))
  | "even" => some (simple (integral (· % 2 == 0)))
  | "divisibleby" => some (against isDivisible)
  | "number" => some (simple Value.isNumber)
  | "integer" | "int" => some (simple fun v => match v with | .integer _ => true | _ => false)
  | "float" => some (simple Value.isFloat)
  | "string" => some (simple fun v => match v with | .text .. => true | _ => false)
  | "sequence" => some (simple Value.isSequence)
  | "iterable" => some (simple (·.items?.isSome))
  | "mapping" => some (simple (·.entries?.isSome))
  | "startingwith" => some (ofTexts fun text start => start.isPrefixOf text)
  | "endingwith" => some (ofTexts fun text ending => ending.isSuffixOf text)
  | "lower" => some (ofName (·.toList.all Text.isSmall))
  | "upper" => some (ofName (·.toList.all Text.isCapital))
  | "sameas" => some (against isSame)
  | "eq" | "equalto" | "==" => some (against Value.same)
  | "ne" | "!=" => some (against fun a b => !a.same b)
  | "lt" | "lessthan" | "<" => some (against fun a b => a.order b == .lt)
  | "le" | "<=" => some (against fun a b => a.order b != .gt)
  | "gt" | "greaterthan" | ">" => some (against fun a b => a.order b == .gt)
  | "ge" | ">=" => some (against fun a b => a.order b != .lt)
  | "in" => some isIn
  | _ => none

/-- The test under a name, `isFilter` telling the names of filters. -/
def find? (isFilter : String → Bool) : String → Option Test
  | "filter" => some (ofName isFilter)
  | "test" => some (ofName fun name =>
      name == "filter" || name == "test" || (basic? name).isSome)
  | name => basic? name

end Test

end TagWeave.Template
