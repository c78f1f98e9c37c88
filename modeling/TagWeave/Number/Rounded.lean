import TagWeave.Number.Division
import TagWeave.Number.Shortest

/-!
# Floating-point numbers with a given number of digits

A finite double is a fraction, so its digits are found by dividing integers. Half-way between two
neighbours the even one is taken.
-/

namespace TagWeave.Number

/-- The integer nearest to a fraction. -/
def nearest (numerator denominator : Nat) : Nat :=
  let below := numerator / denominator
  match compare (2 * (numerator % denominator)) denominator with
  | .lt => below
  | .eq => below + below % 2
  | .gt => below + 1

/-- The size of a finite number as numerator and denominator. -/
def fraction (x : Float) : Nat × Nat :=
  let (mantissa, exponent) := binaryParts x
  (mantissa * Nat.pow 2 exponent.toNat, Nat.pow 2 (-exponent).toNat)

/-- Digits with a point between the first `whole` and the others. A point at the end is written only
if `pointed`. -/
def withPoint (pointed : Bool) (whole : Nat) (digits : List Char) : List Char :=
  let places := digits.drop whole
  digits.take whole ++ (if places.isEmpty && !pointed then [] else '.' :: places)

/-- The digits of the size of a finite number up to a place behind the point, at least one of them
before it, and how many stand before it. -/
def digitsUpTo (places : Nat) (x : Float) : List Char × Nat :=
  let (numerator, denominator) := fraction x
  let digits := (Nat.repr (nearest (numerator * Nat.pow 10 places) denominator)).toList
  let digits := List.replicate (places + 1 - digits.length) '0' ++ digits
  (digits, digits.length - places)

/-- The first digit of the size of a finite number and so many more, with the decimal exponent of
the first one. -/
def leadingDigits (more : Nat) (x : Float) : List Char × Int :=
  let (numerator, denominator) := fraction x
  if numerator == 0 then (List.replicate (more + 1) '0', 0)
  else
    let exponent := leading numerator denominator
    let shift := (more : Int) - exponent
    let rounded :=
      nearest (numerator * Nat.pow 10 shift.toNat) (denominator * Nat.pow 10 (-shift).toNat)
    let digits := (Nat.repr rounded).toList
    if more + 1 < digits.length then (digits.take (more + 1), exponent + 1) else (digits, exponent)

/-- The size of a finite number with so many digits behind the point. -/
def fixedText (pointed : Bool) (places : Nat) (x : Float) : List Char :=
  let (digits, whole) := digitsUpTo places x
  withPoint pointed whole digits

/-- Digits with the point behind the first one, and an exponent of two digits at least. -/
def withExponent (pointed : Bool) (digits : List Char) (exponent : Int) : List Char :=
  let size := (Nat.repr exponent.natAbs).toList
  withPoint pointed 1 digits ++ ['e', if exponent < 0 then '-' else '+'] ++
    List.replicate (2 - size.length) '0' ++ size

/-- The size of a finite number with one digit before the point and so many behind it. -/
def exponentText (pointed : Bool) (places : Nat) (x : Float) : List Char :=
  let (digits, exponent) := leadingDigits places x
  withExponent pointed digits exponent

/-- Drops the zeros at the end of what stands behind the first `whole` digits. -/
def withoutZeros (whole : Nat) (digits : List Char) : List Char :=
  digits.take whole ++ ((digits.drop whole).reverse.dropWhile (· == '0')).reverse

/-- The size of a finite number with so many digits, in the shorter of the two forms. Zeros at the
end are written only if `full`. -/
def generalText (full : Bool) (count : Nat) (x : Float) : List Char :=
  let count := max 1 count
  let (digits, exponent) := leadingDigits (count - 1) x
  let needed (whole : Nat) (digits : List Char) : List Char :=
    if full then digits else withoutZeros whole digits
  if x == 0.0 then ['0']
  else if -4 ≤ exponent && exponent < count then
    let (digits, whole) := digitsUpTo (count - 1 - exponent).toNat x
    withPoint false whole (needed whole digits)
  else withExponent false (needed 1 digits) exponent

/-! ## Integers -/

/-- The first digit of an integer and so many more, with the decimal exponent of the first one. The
first digit that is left out decides, and five goes up unless it is the only one and the digit
before it is even. -/
def leadingDigitsOf (more n : Nat) : List Char × Nat :=
  let digits := (Nat.repr n).toList
  let exponent := digits.length - 1
  if exponent ≤ more then (digits ++ List.replicate (more - exponent) '0', exponent)
  else
    let dropped := exponent - more
    let kept := n / Nat.pow 10 dropped
    let next := n / Nat.pow 10 (dropped - 1) % 10
    let goesUp := 5 < next || next == 5 && (kept % 2 == 1 || 1 < dropped)
    let digits := (Nat.repr (if goesUp then kept + 1 else kept)).toList
    if more + 1 < digits.length then (digits.take (more + 1), exponent + 1) else (digits, exponent)

def integerFixedText (pointed : Bool) (places n : Nat) : List Char :=
  let digits := (Nat.repr n).toList
  withPoint pointed digits.length (digits ++ List.replicate places '0')

def integerExponentText (pointed : Bool) (places n : Nat) : List Char :=
  let (digits, exponent) := leadingDigitsOf places n
  withExponent pointed digits exponent

def integerGeneralText (full : Bool) (count n : Nat) : List Char :=
  let digits := (Nat.repr n).toList
  if digits.length ≤ max 1 count then digits
  else
    let (digits, exponent) := leadingDigitsOf (count - 1) n
    withExponent false (if full then digits else withoutZeros 1 digits) exponent

end TagWeave.Number
