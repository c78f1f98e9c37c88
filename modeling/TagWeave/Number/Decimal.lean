import TagWeave.Number.Integer

/-!
# Numbers written with a point or an exponent

`Decimal` is the exact value of such a text; the names of the values that are not finite are read
in any case of letters.
-/

namespace TagWeave.Number

/-- The number `digits · 10 ^ exponent`. -/
structure Decimal where
  negative : Bool
  digits : Nat
  exponent : Int
  deriving DecidableEq, Repr

/-- What the text of a number stands for. -/
inductive Reading
  | finite (value : Decimal)
  | infinite (negative : Bool)
  | notANumber (negative : Bool)
  deriving DecidableEq, Repr

/-- The value of a run of digits. -/
def valueOfDigits (digits : List Char) : Nat :=
  digits.foldl (fun value c => value * 10 + (c.toNat - 48)) 0

/-- An exponent: `e`, an optional sign and digits, or nothing at all. -/
def readExponent? : List Char → Option Int
  | [] => some 0
  | c :: rest =>
    if c == 'e' || c == 'E' then
      match rest with
      | '-' :: digits => (digitsOnly? digits).map fun n => -(n : Int)
      | '+' :: digits => (digitsOnly? digits).map Int.ofNat
      | digits => (digitsOnly? digits).map Int.ofNat
    else none
where
  digitsOnly? (digits : List Char) : Option Nat :=
    if digits.isEmpty || !digits.all Char.isDigit then none else some (valueOfDigits digits)

/-- Digits with an optional point, at least one digit on either side of it, and an optional
exponent. -/
def readUnsigned? (negative : Bool) (text : List Char) : Option Decimal :=
  let whole := text.takeWhile Char.isDigit
  let (fraction, rest) :=
    match text.dropWhile Char.isDigit with
    | '.' :: rest => (rest.takeWhile Char.isDigit, rest.dropWhile Char.isDigit)
    | rest => ([], rest)
  if whole.isEmpty && fraction.isEmpty then none
  else
    (readExponent? rest).map fun exponent =>
      ⟨negative, valueOfDigits (whole ++ fraction), exponent - fraction.length⟩

/-- Reads a number: an optional sign, then digits or the name of a value that is not finite. -/
def read? (text : String) : Option Reading :=
  match text.toList with
  | '-' :: rest => unsigned true rest
  | '+' :: rest => unsigned false rest
  | rest => unsigned false rest
where
  unsigned (negative : Bool) (rest : List Char) : Option Reading :=
    let name := String.ofList (rest.map Char.toLower)
    if name == "inf" || name == "infinity" then some (.infinite negative)
    else if name == "nan" then some (.notANumber negative)
    else (readUnsigned? negative rest).map .finite

/-- The text of a number, finite or not. -/
def isNumeric (text : String) : Bool := (read? text).isSome

/-- The nearest floating-point number. -/
def Decimal.toFloat (d : Decimal) : Float :=
  let size :=
    if d.digits == 0 || d.exponent < -2000 - d.digits.log2 then 0.0
    else if 400 < d.exponent then 1.0 / 0.0
    else if d.exponent < 0 then Float.ofScientific d.digits true d.exponent.natAbs
    else Float.ofScientific d.digits false d.exponent.natAbs
  if d.negative then -size else size

def Reading.toFloat : Reading → Float
  | .finite d => d.toFloat
  | .infinite negative => if negative then -(1.0 / 0.0) else 1.0 / 0.0
  | .notANumber _ => 0.0 / 0.0

end TagWeave.Number
