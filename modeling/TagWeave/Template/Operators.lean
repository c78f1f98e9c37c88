import TagWeave.Template.Fault
import TagWeave.Template.Value.Order
import TagWeave.Text.Find

/-!
# Operators of templates

Integers have 128 bits; a result that does not fit is refused. A number with a fraction makes the
other operand one as well.
-/

namespace TagWeave.Template

inductive Operator
  | or | and
  | plus | minus | concat | times | divided | floorDivided | modulo | power
  deriving DecidableEq, Repr

/-- What holds or does not hold between two values. -/
inductive Relation
  | equal | unequal | less | atMost | greater | atLeast | isIn | notIn
  deriving DecidableEq, Repr

namespace Value

def fits (n : Int) : Bool := -Int.pow 2 127 ≤ n && n < Int.pow 2 127

/-- The integer as the result of an operation. -/
def checked (what : String) (n : Int) : Except Fault Value :=
  if fits n then .ok (.integer n) else .error (.unfit what)

/-- Two integers as operands. If both have more than 64 bits, they stand for what is left of them
in 128 bits with a sign. -/
def operands? (a b : Int) : Option (Int × Int) :=
  let left (n : Int) : Int := if fits n then n else n - Int.pow 2 128
  if fits a && fits b then some (a, b)
  else if Int.pow 2 64 ≤ a && Int.pow 2 64 ≤ b then some (left a, left b)
  else Option.none

/-- A value that should be a number and is none. -/
def isNotANumber : Value → Bool
  | .float x => x.isNaN
  | .lowest => true
  | _ => false

/-- The result of an operation on floating-point numbers. One that is not a number is the operand
that was none already, or else comes before all numbers. -/
def ofFloat (a b : Value) (x : Float) : Value :=
  if !x.isNaN then .float x
  else if a.isNotANumber then a
  else if b.isNotANumber then b
  else .lowest

/-- An operation on two integers or two floating-point numbers. -/
def arithmetic (what : String) (onIntegers : Int → Int → Except Fault Value)
    (onFloats : Float → Float → Float) (a b : Value) : Except Fault Value :=
  match pair? a b with
  | some (.integers m n) =>
    match operands? m n with
    | some (m, n) => onIntegers m n
    | Option.none => .error (.unfit what)
  | some (.floats x y) => .ok (ofFloat a b (onFloats x y))
  | _ => .error (.unfit what)

/-- An integer of 64 bits with a sign. -/
def asWord? (v : Value) : Option Int :=
  v.asIndex?.filter fun n => -Int.pow 2 63 ≤ n && n < Int.pow 2 63

/-- A number of 64 bits that counts something. -/
def asCount? (v : Value) : Option Nat :=
  v.asIndex?.bind fun n => if 0 ≤ n && n < Int.pow 2 64 then some n.toNat else Option.none

def repeated (items : List α) (count : Nat) : List α :=
  if items.isEmpty then [] else (List.replicate count items).flatten

/-! ## Arithmetic -/

def add (a b : Value) : Except Fault Value :=
  match a.sequence?, b.sequence? with
  | some items, some others =>
    .ok (.stream Option.none (a.length?.isSome && b.length?.isSome) (items ++ others))
  | _, _ =>
    match pair? a b with
    | some (.texts a b) => .ok (ofText (a ++ b))
    | _ => arithmetic "+" (fun a b => checked "+" (a + b)) (· + ·) a b

def subtract : Value → Value → Except Fault Value :=
  arithmetic "-" (fun a b => checked "-" (a - b)) (· - ·)

/-- A text, or a sequence that knows its length, is repeated by a number on either side. -/
def multiply (a b : Value) : Except Fault Value :=
  match a, b with
  | .text s _, n | n, .text s _ =>
    match n.asCount? with
    | some n => .ok (ofChars (repeated s.toList n))
    | Option.none => .error (.unfit "*")
  | a, b =>
    match a.sequence?, b.sequence? with
    | some items, Option.none => times a items b
    | Option.none, some items => times b items a
    | _, _ => arithmetic "*" (fun a b => checked "*" (a * b)) (· * ·) a b
where
  times (v : Value) (items : List Value) (count : Value) : Except Fault Value :=
    match v.length?, count.asCount? with
    | some _, some n => .ok (ofStream (repeated items n))
    | _, _ => .error (.unfit "*")

/-- The quotient always has a fraction. -/
def divide (a b : Value) : Except Fault Value :=
  match a.asFloat?, b.asFloat? with
  | some x, some y => .ok (ofFloat a b (x / y))
  | _, _ => .error (.unfit "/")

/-- The quotient that leaves no negative remainder. -/
def floorDivide : Value → Value → Except Fault Value :=
  arithmetic "//"
    (fun a b => if b == 0 then .error (.unfit "//") else checked "//" (a / b)) Number.quotient

def modulo : Value → Value → Except Fault Value :=
  arithmetic "%"
    (fun a b => if b == 0 then .error (.unfit "%") else checked "%" (a % b)) Number.remainder

def raise : Value → Value → Except Fault Value :=
  arithmetic "**" integers fun a b => a ^ b
where
  integers (a b : Int) : Except Fault Value :=
    if b < 0 || Int.pow 2 32 ≤ b then .error (.unfit "**")
    else if a == 0 || a == 1 then .ok (.integer (if b == 0 then 1 else a))
    else if a == -1 then .ok (.integer (if b % 2 == 0 then 1 else -1))
    else if 127 < b then .error (.unfit "**")
    else checked "**" (Int.pow a b.toNat)

/-- The least integer has no opposite of its own. -/
def negate : Value → Except Fault Value
  | .integer n => if n == Int.pow 2 127 then .ok (.integer n) else checked "-" (-n)
  | .float x => .ok (if x.isNaN then .lowest else .float (-x))
  | .lowest => .ok (.float Number.notANumber)
  | _ => .error (.unfit "-")

/-! ## Relations -/

/-- Whether a value is in a container: a piece of a text, a key of a map or an item of a list. -/
def contains (container value : Value) : Except Fault Bool :=
  match container with
  | .undefined _ | .builtin _ => .ok false
  | .text s _ => .ok (Text.occurs value.display.toList s.toList)
  | container =>
    match container.sequence?, container.entries? with
    | some items, _ => .ok (items.any (·.same value))
    | Option.none, some entries => .ok (lookup? value entries).isSome
    | Option.none, Option.none => .error (.unfit "in")

/-- Whether two values are related. -/
def relates : Relation → Value → Value → Except Fault Bool
  | .equal, a, b => .ok (a.same b)
  | .unequal, a, b => .ok (!a.same b)
  | .less, a, b => .ok (a.order b == .lt)
  | .atMost, a, b => .ok (a.order b != .gt)
  | .greater, a, b => .ok (a.order b == .gt)
  | .atLeast, a, b => .ok (a.order b != .lt)
  | .isIn, a, b => b.contains a
  | .notIn, a, b => (b.contains a).map (!·)

/-- A binary operator whose operands are both evaluated. -/
def operate : Operator → Value → Value → Except Fault Value
  | .or, a, b => .ok (if a.isTrue then a else b)
  | .and, a, b => .ok (if a.isTrue then b else a)
  | .plus, a, b => a.add b
  | .minus, a, b => a.subtract b
  | .concat, a, b => .ok (ofText (a.display ++ b.display))
  | .times, a, b => a.multiply b
  | .divided, a, b => a.divide b
  | .floorDivided, a, b => a.floorDivide b
  | .modulo, a, b => a.modulo b
  | .power, a, b => a.raise b

/-! ## Slices -/

/-- A position counted from the start, if it was counted from the end. -/
def fromStart (length : Nat) (position : Int) : Int :=
  if position < 0 then max 0 (length + position) else position

/-- The positions of a slice whose step goes forwards. Where the length is not known, an end that
hangs on it is at the start. -/
def positionsForwards (count : Nat) (length? : Option Nat) (start? stop? : Option Int)
    (step : Nat) : List Nat :=
  let length := length?.getD 0
  let first := min count (fromStart length (start?.getD 0)).toNat
  let last := min count (fromStart length (stop?.getD length)).toNat
  (List.range ((last - first + step - 1) / step)).map fun i => first + i * step

/-- The positions of a slice whose step goes backwards. An end at the very start is itself part of
the slice, as a missing end is. -/
def positionsBackwards (length : Nat) (start? stop? : Option Int) (step : Nat) : List Nat :=
  let first := min (length - 1) (fromStart length (start?.getD length)).toNat
  let last := (fromStart length (stop?.getD 0)).toNat
  let count := if last == 0 then (first + step) / step else (first - last + step - 1) / step
  (List.range count).map fun i => first - i * step

/-- An end or the step of a slice. -/
def sliceNumber : Value → Except Fault (Option Int)
  | .none => .ok Option.none
  | v =>
    match v.asWord? with
    | some n => .ok (some n)
    | Option.none => .error (.unfit "slice")

def slice (v start stop step : Value) : Except Fault Value := do
  let start ← sliceNumber start
  let stop ← sliceNumber stop
  let step := (← sliceNumber step).getD 1
  if step == 0 then throw (.unfit "slice")
  let pick {α : Type} (items : List α) : List α :=
    let all := items.toArray
    let positions :=
      if 0 < step then positionsForwards items.length v.length? start stop step.natAbs
      else positionsBackwards items.length start stop step.natAbs
    positions.filterMap fun i => all[i]?
  match v with
  | .text s _ => return ofChars (pick s.toList)
  | .undefined _ | .none => return ofList []
  | v =>
    match v.sequence? with
    | some items =>
      let sized := v.length?.isSome || step < 0 || takesNothing start stop
      return .stream Option.none sized (pick items)
    | Option.none => throw (.unfit "slice")
where
  /-- Whether a slice of something of unknown length is known to be empty. -/
  takesNothing (start? stop? : Option Int) : Bool :=
    fromStart 0 (stop?.getD 0) ≤ fromStart 0 (start?.getD 0)

end Value

end TagWeave.Template
