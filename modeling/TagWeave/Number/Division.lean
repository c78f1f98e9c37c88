/-!
# Division of floating-point numbers with remainder

The remainder of two doubles is a double, so it is found exactly, on integers.
-/

namespace TagWeave.Number

/-- The result of an operation that has none. -/
def notANumber : Float := 0.0 / 0.0

/-- Mantissa and exponent of the size of a finite number. -/
def binaryParts (x : Float) : Nat × Int :=
  let bits := x.abs.toBits.toNat
  let power : Nat := bits / Nat.pow 2 52
  if power == 0 then (bits, -1074) else (Nat.pow 2 52 + bits % Nat.pow 2 52, (power : Int) - 1075)

/-- What is left of `x` after taking away `y` as often as it goes; it has the sign of `x`. -/
def remainder (x y : Float) : Float :=
  if x.isFinite && y.isFinite && y != 0.0 then
    let (m, e) := binaryParts x
    let (n, f) := binaryParts y
    let least := min e f
    let rest := m * Nat.pow 2 (e - least).toNat % (n * Nat.pow 2 (f - least).toNat)
    let size := rest.toFloat.scaleB least
    if x < 0.0 then -size else size
  else if x.isFinite && y.isInf then x
  else notANumber

/-- The quotient without its fraction. -/
def truncate (x : Float) : Float := if x < 0.0 then x.ceil else x.floor

/-- The quotient that leaves no negative remainder. -/
def quotient (x y : Float) : Float :=
  let q := truncate (x / y)
  if remainder x y < 0.0 then (if 0.0 < y then q - 1.0 else q + 1.0) else q

end TagWeave.Number
