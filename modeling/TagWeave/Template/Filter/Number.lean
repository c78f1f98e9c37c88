import TagWeave.Number.Decimal
import TagWeave.Number.Integer
import TagWeave.Template.Filter.Text

/-!
# Filters on numbers
-/

namespace TagWeave.Template.Filter

/-- A product with a power of `base`, squaring as often as the power has binary digits: each square
and each product is rounded. -/
def timesPower (product base : Float) (power : Nat) : Float :=
  if power == 0 then product
  else
    let product := if power % 2 == 1 then product * base else product
    if power / 2 == 0 then product else timesPower product (base * base) (power / 2)
termination_by power
decreasing_by
  have : power ≠ 0 := by simp_all
  omega

/-- Ten to a power, rounded at each step of its calculation. -/
def tenTo (exponent : Int) : Float :=
  let size := timesPower 1.0 10.0 exponent.natAbs
  if exponent < 0 then 1.0 / size else size

/-- The number without its fraction, between the bounds of 128 bits. -/
def wholePart (x : Float) : Int :=
  if x.isNaN then 0
  else
    let (mantissa, exponent) := Number.binaryParts x
    let size := mantissa * Nat.pow 2 exponent.toNat / Nat.pow 2 (-exponent).toNat
    max (-Int.pow 2 127) (min (Int.pow 2 127 - 1) (if x < 0.0 then -(size : Int) else size))

def round (rules : Rules) (v : Value) (a : Arguments) : Outcome := do
  let places ← match ← Arguments.optional rules (← a.plain 1).head? with
    | none => pure 0
    | some places => places.asInteger
  if places < -Int.pow 2 31 || Int.pow 2 31 ≤ places then throw (.unfit "round")
  match v with
  | .integer _ => return v
  | .float x =>
    let scale := tenTo places
    return .ofFloat v v ((scale * x).round / scale)
  | .lowest => return v
  | _ => throw (.unfit "round")

def abs (_ : Rules) (v : Value) (a : Arguments) : Outcome := do
  a.none
  match v with
  | .integer n => if 0 ≤ n then return v else Value.checked "abs" (-n)
  | .float x => return .float x.abs
  | .lowest => return .float Number.notANumber
  | _ => throw (.unfit "abs")

def int (rules : Rules) (v : Value) (a : Arguments) : Outcome := do
  a.none
  v.usable rules
  match v with
  | .undefined _ | .none => return .integer 0
  | .boolean _ | .integer _ => return .integer (v.asInteger?.getD 0)
  | .float x => return .integer (wholePart x)
  | .lowest => return .integer 0
  | .text s _ =>
    match Number.readInteger (-Int.pow 2 127) (Int.pow 2 127 - 1) s, Number.read? s with
    | .ok n, _ => return .integer n
    | .error _, some x => return .integer (wholePart x.toFloat)
    | .error _, none => throw (.unfit "int")
  | _ => throw (.unfit "int")

def float (rules : Rules) (v : Value) (a : Arguments) : Outcome := do
  a.none
  v.usable rules
  match v with
  | .undefined _ | .none => return .float 0.0
  | .text s _ =>
    match Number.read? s with
    | some (.notANumber true) => return .lowest
    | some x => return .float x.toFloat
    | none => throw (.unfit "float")
  | .lowest => return v
  | v =>
    match v.asFloat? with
    | some x => return .float x
    | none => throw (.unfit "float")

def number? : String → Option Filter
  | "round" => some round
  | "abs" => some abs
  | "int" => some int
  | "float" => some float
  | "bool" => some fun _ v a => do
    a.none
    return .boolean v.isTrue
  | _ => none

end TagWeave.Template.Filter
