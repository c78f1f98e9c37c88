import TagWeave.Number.Decimal
import TagWeave.Toml.Table

/-!
# Numbers, truth values and moments of TOML

None of them has a blank or a bracket in it, so each is read from a whole run of characters.
-/

namespace TagWeave.Toml

/-- The digits of a number, with single underscores between them taken away. -/
def digits? (isDigit : Char → Bool) (text : List Char) : Option (List Char) :=
  let runs := text.splitOn '_'
  if runs.all fun run => !run.isEmpty && run.all isDigit then some runs.flatten else none

def hexDigit? (c : Char) : Option Nat :=
  if c.isDigit then some (c.toNat - 48)
  else if 'a' ≤ c && c ≤ 'f' then some (c.toNat - 87)
  else if 'A' ≤ c && c ≤ 'F' then some (c.toNat - 55)
  else none

/-- The sign of a number and what follows it. -/
def signOf : List Char → Bool × List Char
  | '-' :: rest => (true, rest)
  | '+' :: rest => (false, rest)
  | text => (false, text)

/-- Digits in base ten of which the first is no zero, unless it is the only one. -/
def wholeDigits? (text : List Char) : Option (List Char) :=
  if text.head? == some '0' && text.length != 1 then none else digits? Char.isDigit text

/-- An integer of 64 bits. -/
def inRange (n : Int) : Option Int := if -Int.pow 2 63 ≤ n && n < Int.pow 2 63 then some n else none

def numberIn (base : Nat) (text : List Char) : Option Int := do
  let isDigit (c : Char) : Bool := (hexDigit? c).any fun d => d < base
  let digits ← digits? isDigit text
  inRange (digits.foldl (fun n c => n * base + ((hexDigit? c).getD 0)) 0 : Nat)

def integer? (text : List Char) : Option Int :=
  match text with
  | '0' :: 'x' :: rest => numberIn 16 rest
  | '0' :: 'o' :: rest => numberIn 8 rest
  | '0' :: 'b' :: rest => numberIn 2 rest
  | text => do
    let (negative, rest) := signOf text
    let n := Number.valueOfDigits (← wholeDigits? rest)
    inRange (if negative then -(n : Int) else n)

/-- A number with a fraction or an exponent, or one that is not finite. -/
def float? (text : List Char) : Option Float := do
  let (negative, rest) := signOf text
  let signed (x : Float) : Float := if negative then -x else x
  if rest == "inf".toList then return signed (1.0 / 0.0)
  if rest == "nan".toList then return 0.0 / 0.0
  let isE (c : Char) : Bool := c == 'e' || c == 'E'
  let body := rest.takeWhile (!isE ·)
  let exponent := rest.dropWhile (!isE ·)
  let whole ← wholeDigits? (body.takeWhile (· != '.'))
  let fraction ← match body.dropWhile (· != '.') with
    | [] => pure []
    | _ :: rest => digits? Char.isDigit rest
  if fraction.isEmpty && exponent.isEmpty then none
  let power ← match exponent with
    | [] => pure 0
    | _ :: rest => do
      let (negative, rest) := signOf rest
      let n := Number.valueOfDigits (← digits? Char.isDigit rest)
      pure (if negative then -(n : Int) else n)
  let digits := Number.valueOfDigits (whole ++ fraction)
  let x := (Number.Decimal.mk negative digits (power - fraction.length)).toFloat
  if x == 1.0 / 0.0 then none
  return x

/-! ## Moments -/

/-- A number of two digits within bounds, and what follows it. -/
def twoDigits? (lowest highest : Nat) : List Char → Option (Nat × List Char)
  | a :: b :: rest =>
    let n := Number.valueOfDigits [a, b]
    if a.isDigit && b.isDigit && lowest ≤ n && n ≤ highest then some (n, rest) else none
  | _ => none

def skip? (c : Char) : List Char → Option (List Char)
  | d :: rest => if c == d then some rest else none
  | [] => none

def daysIn (year month : Nat) : Nat :=
  let leap := year % 4 == 0 && (year % 100 != 0 || year % 400 == 0)
  if month == 2 then (if leap then 29 else 28)
  else if month == 4 || month == 6 || month == 9 || month == 11 then 30
  else 31

/-- What follows a date. -/
def afterDate? (text : List Char) : Option (List Char) := do
  let year := text.take 4
  if year.length != 4 || !year.all Char.isDigit then none
  let (month, rest) ← twoDigits? 1 12 (← skip? '-' (text.drop 4))
  let (_, rest) ← twoDigits? 1 (daysIn (Number.valueOfDigits year) month) (← skip? '-' rest)
  return rest

/-- What follows a time of the day. -/
def afterTime? (text : List Char) : Option (List Char) := do
  let (_, rest) ← twoDigits? 0 23 text
  let (_, rest) ← twoDigits? 0 59 (← skip? ':' rest)
  let (_, rest) ← twoDigits? 0 60 (← skip? ':' rest)
  match rest with
  | '.' :: fraction =>
    if (fraction.head?.map Char.isDigit).getD false then return fraction.dropWhile Char.isDigit
    else none
  | rest => return rest

/-- Whether the text is an offset from universal time, or empty. -/
def isOffset : List Char → Bool
  | [] | ['Z'] | ['z'] => true
  | c :: rest =>
    (c == '+' || c == '-') && ((do
      let (_, rest) ← twoDigits? 0 23 rest
      let (_, rest) ← twoDigits? 0 59 (← skip? ':' rest)
      return rest.isEmpty) : Option Bool).getD false

/-- Whether the text is a date, a time or a date with a time. -/
def isMoment (text : List Char) : Bool :=
  match afterDate? text with
  | some [] => true
  | some (c :: rest) =>
    (c == 'T' || c == 't' || c == ' ') && ((afterTime? rest).map isOffset).getD false
  | none => afterTime? text == some []

/-- Reads a number, a truth value or a moment. -/
def scalar? (text : List Char) : Option Item :=
  if text == "true".toList then some (.boolean true)
  else if text == "false".toList then some (.boolean false)
  else if isMoment text then some (.moment (.ofList text))
  else (integer? text).map .integer <|> (float? text).map .float

end TagWeave.Toml
