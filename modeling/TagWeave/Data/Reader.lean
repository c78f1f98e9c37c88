import TagWeave.Data
import TagWeave.Number.Decimal
import TagWeave.Text.Find

/-!
# Reading data from JSON text

A whole number that fits 64 bits is an integer; any other number is a double. Of two fields of one
name the later counts. Lists and objects nest at most 127 deep.
-/

namespace TagWeave.Data

def isJsonBlank (c : Char) : Bool := c == ' ' || c == '\n' || c == '\t' || c == '\r'

def skipBlanks (text : List Char) : List Char := text.dropWhile isJsonBlank

def hexDigit? (c : Char) : Option Nat :=
  if c.isDigit then some (c.toNat - 48)
  else if 'a' ≤ c && c ≤ 'f' then some (c.toNat - 87)
  else if 'A' ≤ c && c ≤ 'F' then some (c.toNat - 55)
  else none

/-- Four digits of base 16. -/
def readUnit : List Char → Option (Nat × List Char)
  | a :: b :: c :: d :: rest => do
    let a ← hexDigit? a
    let b ← hexDigit? b
    let c ← hexDigit? c
    let d ← hexDigit? d
    some (((a * 16 + b) * 16 + c) * 16 + d, rest)
  | _ => none

/-- What follows a backslash and `u`: a code point, or two halves of one. -/
def readEscapedCode (text : List Char) : Option (Char × List Char) := do
  let (high, rest) ← readUnit text
  if high < 0xD800 || 0xDFFF < high then some (Char.ofNat high, rest)
  else if 0xDC00 ≤ high then none
  else
    match rest with
    | '\\' :: 'u' :: rest => do
      let (low, rest) ← readUnit rest
      if low < 0xDC00 || 0xDFFF < low then none
      else some (Char.ofNat (0x10000 + (high - 0xD800) * 0x400 + (low - 0xDC00)), rest)
    | _ => none

/-- One character of a text in quotes, escaped or not. -/
def readCharacter : List Char → Option (Char × List Char)
  | '\\' :: c :: rest =>
    match c with
    | '"' | '\\' | '/' => some (c, rest)
    | 'b' => some ('\x08', rest)
    | 'f' => some ('\x0c', rest)
    | 'n' => some ('\n', rest)
    | 'r' => some ('\r', rest)
    | 't' => some ('\t', rest)
    | 'u' => readEscapedCode rest
    | _ => none
  | c :: rest => if c.toNat < 0x20 || c == '\\' then none else some (c, rest)
  | [] => none

/-- The rest of a text after its opening quote, `found` being its characters in reverse. -/
def readQuoted : (steps : Nat) → (found : List Char) → List Char → Option (String × List Char)
  | _, found, '"' :: rest => some (.ofList found.reverse, rest)
  | 0, _, _ => none
  | steps + 1, found, text => do
    let (c, rest) ← readCharacter text
    readQuoted steps (c :: found) rest

/-- The double for `digits · 10 ^ exponent`, one power of ten being multiplied in or divided out. -/
def scaled? : (steps : Nat) → (size : Float) → (exponent : Int) → Option Float
  | 0, _, _ => none
  | steps + 1, size, exponent =>
    let power := Float.ofScientific 1 false exponent.natAbs
    if 308 < exponent then if size == 0.0 then some size else none
    else if exponent < -308 then
      if size == 0.0 then some size else scaled? steps (size / 1e308) (exponent + 308)
    else if exponent < 0 then some (size / power)
    else if (size * power).isInf then none
    else some (size * power)

/-- As many leading digits as a number of 64 bits holds, with the count of those left out. -/
def leadingDigits : (digits : List Char) → (value : Nat) → Nat × Nat
  | [], value => (value, 0)
  | c :: rest, value =>
    let next := value * 10 + (c.toNat - 48)
    if Nat.pow 2 64 ≤ next then (value, rest.length + 1) else leadingDigits rest next

/-- A number from its parts. -/
def number? (negative : Bool) (whole : List Char) (fraction exponent : Option (List Char)) :
    Option Data :=
  let value := Number.valueOfDigits whole
  let float (exponent : Int) : Option Data :=
    let digits := whole ++ fraction.getD []
    let (kept, dropped) := leadingDigits digits 0
    let places : Int := (fraction.getD []).length
    (scaled? (exponent.natAbs / 308 + digits.length + 4) (Float.ofNat kept)
      (exponent + dropped - places)).map fun size => .float (if negative then -size else size)
  match fraction, exponent with
  | none, none =>
    if negative then
      if value == 0 || Nat.pow 2 63 < value then float 0 else some (.integer (-(value : Int)))
    else if value < Nat.pow 2 64 then some (.integer value)
    else float 0
  | _, none => float 0
  | _, some ('-' :: digits) => float (-(Number.valueOfDigits digits : Int))
  | _, some digits => float (Number.valueOfDigits digits)

/-- A run of at least one digit. -/
def readDigitRun (text : List Char) : Option (List Char × List Char) :=
  let digits := text.takeWhile Char.isDigit
  if digits.isEmpty then none else some (digits, text.dropWhile Char.isDigit)

def readNumber (text : List Char) : Option (Data × List Char) := do
  let (negative, text) :=
    match text with
    | '-' :: rest => (true, rest)
    | rest => (false, rest)
  let (whole, text) ← readDigitRun text
  if whole.length != 1 && whole.head? == some '0' then none
  let (fraction, text) ←
    match text with
    | '.' :: rest => (readDigitRun rest).map fun (digits, rest) => (some digits, rest)
    | rest => some (none, rest)
  let (exponent, text) ←
    match text with
    | c :: rest =>
      if c == 'e' || c == 'E' then
        match rest with
        | '-' :: rest => (readDigitRun rest).map fun (digits, rest) => (some ('-' :: digits), rest)
        | '+' :: rest => (readDigitRun rest).map fun (digits, rest) => (some digits, rest)
        | rest => (readDigitRun rest).map fun (digits, rest) => (some digits, rest)
      else some (none, c :: rest)
    | [] => some (none, [])
  let value ← number? negative whole fraction exponent
  some (value, text)

def readWord (word : String) (value : Data) (text : List Char) : Option (Data × List Char) :=
  (Text.after? word.toList text).map (value, ·)

/-- The items of a list after its opening bracket, each read by `item`. -/
def readItems (item : List Char → Option (α × List Char)) (close : Char) :
    (steps : Nat) → (found : List α) → List Char → Option (List α × List Char)
  | 0, _, _ => none
  | steps + 1, found, text => do
    let (value, rest) ← item (skipBlanks text)
    match skipBlanks rest with
    | ',' :: rest => readItems item close steps (value :: found) rest
    | c :: rest => if c == close then some ((value :: found).reverse, rest) else none
    | [] => none

/-- A bracketed sequence, empty or not, after its opening bracket. -/
def readSequence (item : List Char → Option (α × List Char)) (close : Char) (text : List Char) :
    Option (List α × List Char) :=
  match skipBlanks text with
  | [] => none
  | c :: rest =>
    if c == close then some ([], rest) else readItems item close (text.length + 1) [] text

def readField (value : List Char → Option (Data × List Char)) :
    List Char → Option ((String × Data) × List Char)
  | '"' :: text => do
    let (name, rest) ← readQuoted text.length [] text
    match skipBlanks rest with
    | ':' :: rest => do
      let (data, rest) ← value (skipBlanks rest)
      some ((name, data), rest)
    | _ => none
  | _ => none

/-- A value that begins at the front of the text, with lists and objects nested less deep than
`depth`. -/
def readValue : (depth : Nat) → List Char → Option (Data × List Char)
  | _, 'n' :: text => readWord "ull" .null text
  | _, 't' :: text => readWord "rue" (.boolean true) text
  | _, 'f' :: text => readWord "alse" (.boolean false) text
  | _, '"' :: text => (readQuoted text.length [] text).map fun (t, rest) => (.string t, rest)
  | depth + 1, '[' :: text =>
    (readSequence (readValue depth) ']' text).map fun (items, rest) => (.list items, rest)
  | depth + 1, '\x7b' :: text =>
    (readSequence (readField (readValue depth)) '\x7d' text).map fun (fields, rest) =>
      (ofFields fields, rest)
  | 0, '[' :: _ => none
  | 0, '\x7b' :: _ => none
  | _, text => readNumber text

/-- The data that a whole text stands for. -/
def read? (text : String) : Option Data := do
  let (value, rest) ← readValue 127 (skipBlanks text.toList)
  if (skipBlanks rest).isEmpty then some value else none

end TagWeave.Data
