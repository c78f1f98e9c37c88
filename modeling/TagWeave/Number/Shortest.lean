/-!
# The fewest digits that read back

A finite double is the only one in an interval of reals around it, so a decimal that lies there
is read back as it. Among the decimals with the fewest digits that do, the nearest is written.
-/

namespace TagWeave.Number

/-- The number `digits · 10 ^ exponent`. -/
structure Digits where
  digits : Nat
  exponent : Int
  deriving DecidableEq, Repr

/-- A positive number `numerator / denominator` with the ends of the interval that rounds to it,
over the same denominator. -/
structure Interval where
  low : Nat
  value : Nat
  high : Nat
  denominator : Nat
  closed : Bool

/-- The interval of `mantissa · 2 ^ exponent`; below a power of two the spacing is halved. -/
def Interval.ofBinary (mantissa : Nat) (exponent : Int) (halved : Bool) : Interval :=
  let below := if halved then 4 * mantissa - 1 else 4 * mantissa - 2
  let scale := Nat.pow 2 exponent.toNat
  ⟨below * scale, 4 * mantissa * scale, (4 * mantissa + 2) * scale, 4 * Nat.pow 2 (-exponent).toNat,
    mantissa % 2 == 0⟩

/-- Whether `digits · 10 ^ exponent` lies in the interval. -/
def Interval.holds (i : Interval) (digits : Nat) (exponent : Int) : Bool :=
  let point := digits * Nat.pow 10 exponent.toNat * i.denominator
  let unit := Nat.pow 10 (-exponent).toNat
  if i.closed then i.low * unit ≤ point && point ≤ i.high * unit
  else i.low * unit < point && point < i.high * unit

/-- The decimal exponent of the leading digit. -/
def leading (numerator denominator : Nat) : Int :=
  let guess : Int := ((numerator.log2 : Int) - denominator.log2) * 30103 / 100000
  let reaches (e : Int) : Bool :=
    denominator * Nat.pow 10 e.toNat ≤ numerator * Nat.pow 10 (-e).toNat
  if reaches (guess + 2) then guess + 2
  else if reaches (guess + 1) then guess + 1
  else if reaches guess then guess
  else guess - 1

/-- The point of the grid of `10 ^ exponent` that reads back, the nearer one if both neighbours of
the value do. Half-way between them it is the upper one, or else the even one. -/
def Interval.onGrid? (i : Interval) (tieUp : Bool) (exponent : Int) : Option Digits :=
  let numerator := i.value * Nat.pow 10 (-exponent).toNat
  let denominator := i.denominator * Nat.pow 10 exponent.toNat
  let below := numerator / denominator
  let nearer :=
    match compare (2 * (numerator % denominator)) denominator with
    | .lt => below
    | .gt => below + 1
    | .eq => if tieUp || below % 2 == 1 then below + 1 else below
  let farther := if nearer == below then below + 1 else below
  if i.holds nearer exponent then some ⟨nearer, exponent⟩
  else if i.holds farther exponent then some ⟨farther, exponent⟩
  else none

/-- Seventeen digits always suffice. -/
def Interval.shortest (i : Interval) (tieUp : Bool) : Digits :=
  let lead := leading i.value i.denominator
  let found := (List.range 17).findSome? fun (places : Nat) => i.onGrid? tieUp (lead - places)
  found.getD ⟨0, 0⟩

/-- Drops the zeros at the end of the digits. -/
def Digits.normal (d : Digits) : Digits := go 20 d
where
  go : Nat → Digits → Digits
    | 0, d => d
    | steps + 1, d =>
      if d.digits != 0 && d.digits % 10 == 0 then go steps ⟨d.digits / 10, d.exponent + 1⟩ else d

/-- The shortest digits of a positive finite double, given by its bits. -/
def shortestOfBits (tieUp : Bool) (bits : Nat) : Digits :=
  let fraction : Nat := bits % Nat.pow 2 52
  let power : Nat := bits / Nat.pow 2 52 % Nat.pow 2 11
  let interval :=
    if power == 0 then Interval.ofBinary fraction (-1074) false
    else
      Interval.ofBinary (Nat.pow 2 52 + fraction) ((power : Int) - 1075)
        (fraction == 0 && 1 < power)
  (interval.shortest tieUp).normal

/-- Where the text of a number turns to an exponent, how that is written, and which of two equally
near decimals is taken. -/
structure Layout where
  /-- Positional if the point stands at most this far right of the first digit. -/
  longest : Option Nat
  /-- Positional if at most this many zeros stand between the point and the first digit. -/
  mostZeros : Option Nat
  /-- Whether an exponent that is not negative has a sign. -/
  signed : Bool
  tieUp : Bool

/-- Digits with the point where it belongs, at least one digit on either side of it. -/
def positional (digits : List Char) (point : Int) : List Char :=
  if point ≤ 0 then ['0', '.'] ++ List.replicate (-point).toNat '0' ++ digits
  else
    let whole := digits.take point.toNat
    let zeros := List.replicate (point.toNat - whole.length) '0'
    let fraction := digits.drop point.toNat
    whole ++ zeros ++ ['.'] ++ (if fraction.isEmpty then ['0'] else fraction)

/-- One digit, the others after a point, and an exponent. -/
def scientific (signed : Bool) (digits : List Char) (point : Int) : List Char :=
  let fraction := digits.drop 1
  digits.take 1 ++ (if fraction.isEmpty then [] else '.' :: fraction) ++ ['e'] ++
    (if signed && 1 ≤ point then ['+'] else []) ++ (toString (point - 1)).toList

/-- The text of a double. -/
def Layout.text (layout : Layout) (x : Float) : String :=
  if x.isNaN then "NaN"
  else
    let sign := if x.toBits.toNat / Nat.pow 2 63 == 1 then ['-'] else []
    let size := x.abs
    if size == 1.0 / 0.0 then .ofList (sign ++ ['i', 'n', 'f'])
    else if size == 0.0 then .ofList (sign ++ ['0', '.', '0'])
    else
      let d := shortestOfBits layout.tieUp size.toBits.toNat
      let digits := (Nat.repr d.digits).toList
      let point := d.exponent + digits.length
      let fits := (layout.longest.all fun (n : Nat) => point ≤ n) &&
        layout.mostZeros.all fun (n : Nat) => -(n : Int) ≤ point
      .ofList (sign ++ if fits then positional digits point
        else scientific layout.signed digits point)

/-- Numbers in a rendered template are always positional. -/
def plain : Layout := ⟨none, none, false, true⟩

/-- Numbers inside lists are positional from `0.0001` up to sixteen digits before the point. -/
def nested : Layout := ⟨some 16, some 3, false, true⟩

/-- Numbers in data are positional from `0.00001` up to sixteen digits before the point. -/
def compact : Layout := ⟨some 16, some 4, true, false⟩

end TagWeave.Number
