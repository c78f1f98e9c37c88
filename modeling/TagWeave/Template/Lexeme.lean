import TagWeave.Number.Decimal
import TagWeave.Template.Fault
import TagWeave.Text.Blank
import TagWeave.Text.Find

/-!
# Lexemes of templates

A template is literal text with prints, tags and comments in it. A minus sign inside a delimiter
takes away the blanks on its side; nothing inside a raw block is looked at.
-/

namespace TagWeave.Template

inductive Lexeme
  | literal (text : String)
  | printStart | printEnd
  | tagStart | tagEnd
  | word (name : String)
  | quoted (text : String)
  | whole (value : Nat)
  | decimal (value : Number.Decimal)
  /-- An operator or a bracket. -/
  | mark (symbol : String)
  deriving DecidableEq, Repr

namespace Lexeme

/-! ## Inside a delimiter -/

def isWordStart (c : Char) : Bool := c.isAlpha || c == '_'

def isWordChar (c : Char) : Bool := c.isAlphanum || c == '_'

/-- The longer of two marks that begin alike comes first. -/
def marks : List String :=
  ["//", "**", "==", "!=", ">=", "<=", "+", "-", "*", "/", "%", ".", ",", ":", "~", "|", "=", ">",
    "<", "(", ")", "[", "]", "\x7b", "\x7d"]

def hexDigit? (c : Char) : Option Nat :=
  if c.isDigit then some (c.toNat - 48)
  else if 'a' ≤ c && c ≤ 'f' then some (c.toNat - 87)
  else if 'A' ≤ c && c ≤ 'F' then some (c.toNat - 55)
  else none

/-- The number of some digits in a base. -/
def digits? (base : Nat) (text : List Char) : Option Nat :=
  if text.isEmpty then none
  else text.foldlM (fun value c => do
    let d ← hexDigit? c
    if d < base then some (value * base + d) else none) 0

/-- The number of some hexadecimal digits, which a plus sign may precede. -/
def hexDigits? : List Char → Option Nat
  | '+' :: digits => digits? 16 digits
  | digits => digits? 16 digits

def isOctal (c : Char) : Bool := '0' ≤ c && c ≤ '7'

/-- The octal digits of an escape, as many as three, and what follows them. -/
def cutOctal : List Char → List Char × List Char
  | a :: b :: c :: rest =>
    if !isOctal a then ([], a :: b :: c :: rest)
    else if !isOctal b then ([a], b :: c :: rest)
    else if !isOctal c then ([a, b], c :: rest)
    else ([a, b, c], rest)
  | text => (text.takeWhile isOctal, text.dropWhile isOctal)

/-- The character above sixteen bits that has the two halves. -/
def joinUnits? (high low : Nat) : Option Char :=
  if high < 0xDC00 && 0xDC00 ≤ low && low < 0xE000 then
    some (Char.ofNat (0x10000 + (high - 0xD800) * 0x400 + (low - 0xDC00)))
  else none

/-- The character of a one-letter escape. -/
def simpleEscape? (c : Char) : Option Char :=
  if c == '"' || c == '\\' || c == '/' || c == '\'' then some c
  else if c == 'b' then some '\x08'
  else if c == 'f' then some '\x0c'
  else if c == 'n' then some '\n'
  else if c == 'r' then some '\r'
  else if c == 't' then some '\t'
  else none

/-- A part of a quoted text. -/
inductive Piece
  | char (c : Char)
  /-- One half of a character above sixteen bits. -/
  | half (unit : Nat)

/-- Reads the escape that follows a backslash. A backslash before a character that it does not
escape stands for itself. -/
def escape? : List Char → Option (List Piece × List Char)
  | 'u' :: a :: b :: c :: d :: rest => do
    let unit ← hexDigits? [a, b, c, d]
    return ([if 0xD800 ≤ unit && unit < 0xE000 then .half unit else .char (Char.ofNat unit)], rest)
  | 'x' :: a :: b :: rest => do return ([.char (Char.ofNat (← hexDigits? [a, b]))], rest)
  | text =>
    match cutOctal text, text with
    | ([], _), [] | ([], _), 'u' :: _ | ([], _), 'x' :: _ => none
    | ([], _), c :: rest =>
      some (((simpleEscape? c).map fun d => [.char d]).getD [.char '\\', .char c], rest)
    | (digits, rest), _ => do
      let code ← digits? 8 digits
      if code < 256 then some ([.char (Char.ofNat code)], rest) else none

/-- The parts of a quoted text. Every step takes a character of the text. -/
def pieces? : (steps : Nat) → List Char → Option (List Piece)
  | 0, _ => none
  | _ + 1, [] => some []
  | steps + 1, '\\' :: text => do
    let (pieces, rest) ← escape? text
    return pieces ++ (← pieces? steps rest)
  | steps + 1, c :: text => do return .char c :: (← pieces? steps text)

/-- The characters of a quoted text. A half goes with the half behind it. -/
def joinPieces? : List Piece → Option (List Char)
  | [] => some []
  | .char c :: rest => (joinPieces? rest).map (c :: ·)
  | .half high :: .half low :: rest => do return (← joinUnits? high low) :: (← joinPieces? rest)
  | .half _ :: _ => none

def unescape? (text : List Char) : Option (List Char) :=
  (pieces? (text.length + 1) text).bind joinPieces?

/-- Cuts a text at its closing quote. -/
def cutQuoted? (quote : Char) : List Char → Option (List Char × List Char)
  | [] => none
  | '\\' :: c :: rest => (cutQuoted? quote rest).map fun (s, rest) => ('\\' :: c :: s, rest)
  | c :: rest =>
    if c == quote then some ([], rest)
    else (cutQuoted? quote rest).map fun (s, rest) => (c :: s, rest)

/-- Where the digits of a number have got to. -/
inductive NumberPart
  | whole | fraction | exponent | exponentDigits

/-- Cuts off what belongs to a number in base ten. A point before a name does not. -/
def cutNumber : NumberPart → List Char → NumberPart × List Char × List Char
  | part, [] => (part, [], [])
  | part, c :: rest =>
    let next? : Option NumberPart :=
      match part with
      | .whole =>
        if c == '.' then (if beginsName rest then none else some .fraction)
        else if isE c then some .exponent
        else same part c
      | .fraction => if isE c then some .exponent else same part c
      | .exponent =>
        if c == '+' || c == '-' || c.isDigit then some .exponentDigits else same part c
      | .exponentDigits => same part c
    match next? with
    | none => (part, [], c :: rest)
    | some next =>
      let (part, digits, rest) := cutNumber next rest
      (part, c :: digits, rest)
where
  isE (c : Char) : Bool := c == 'e' || c == 'E'
  /-- Whether a text goes on as an exponent does behind its letter. -/
  endsExponent : List Char → Bool
    | [] => false
    | c :: rest => c.isDigit || (c == '+' || c == '-') && rest.head?.any Char.isDigit
  beginsName : List Char → Bool
    | [] => false
    | c :: rest => isWordStart c && !(isE c && endsExponent rest)
  same (part : NumberPart) (c : Char) : Option NumberPart :=
    if c.isDigit || c == '_' then some part else none

/-- The base of a number that begins with `0` and a letter. -/
def base? (c : Char) : Option Nat :=
  if c == 'b' || c == 'B' then some 2
  else if c == 'o' || c == 'O' then some 8
  else if c == 'x' || c == 'X' then some 16
  else none

def wholeOf (base : Nat) (digits : List Char) : Except Fault Lexeme :=
  match digits? base (digits.filter (· != '_')) with
  | some n =>
    if digits.getLast? == some '_' || Nat.pow 2 128 ≤ n then .error (.malformed "number")
    else .ok (.whole n)
  | none => .error (.malformed "number")

/-- Reads a number without a fraction; an underscore may stand between its digits. -/
def wholeNumber (text : List Char) : Except Fault (Lexeme × List Char) :=
  let inBase (base : Nat) (text : List Char) : Except Fault (Lexeme × List Char) :=
    let belongs (c : Char) : Bool := c.isDigit || c == '_' || (base == 16 && (hexDigit? c).isSome)
    (wholeOf base (text.takeWhile belongs)).map (·, text.dropWhile belongs)
  match text with
  | '0' :: c :: rest =>
    match base? c with
    | some base => inBase base rest
    | none => inBase 10 text
  | _ => inBase 10 text

/-- Reads a number, with a fraction or an exponent if it has any. -/
def number (text : List Char) : Except Fault (Lexeme × List Char) :=
  match cutNumber .whole text with
  | (.whole, _, _) => wholeNumber text
  | (_, digits, rest) =>
    match Number.readUnsigned? false (digits.filter (· != '_')) with
    | some value =>
      if digits.getLast? == some '_' then .error (.malformed "number")
      else .ok (.decimal value, rest)
    | none => .error (.malformed "number")

/-- Reads the lexeme that a text inside a delimiter begins with. Behind a point, a number has no
fraction. -/
def first (behindPoint : Bool) (text : List Char) : Except Fault (Lexeme × List Char) :=
  match text with
  | [] => .error (.malformed "end of tag")
  | c :: rest =>
    if c == '"' || c == '\'' then
      match cutQuoted? c rest with
      | none => .error (.malformed "end of string")
      | some (s, rest) =>
        match unescape? s with
        | some s => .ok (.quoted (.ofList s), rest)
        | none => .error (.malformed "escape")
    else if c.isDigit then if behindPoint then wholeNumber text else number text
    else if isWordStart c then
      .ok (.word (.ofList (text.takeWhile isWordChar)), text.dropWhile isWordChar)
    else
      match marks.findSome? fun m => (Text.after? m.toList text).map fun rest => (m, rest) with
      | some (m, rest) => .ok (.mark m, rest)
      | none => .error (.malformed "expression")

/-! ## Between delimiters -/

/-- What follows an optional sign at the inner side of a delimiter, and whether blanks beyond it
are to be taken away. -/
def skipSign : List Char → Bool × List Char
  | '-' :: rest => (true, rest)
  | '+' :: rest => (false, rest)
  | text => (false, text)

/-- What follows a closing delimiter, with an optional sign before it. -/
def closing? (delimiter text : List Char) : Option (Bool × List Char) :=
  let (trims, rest) := skipSign text
  (Text.after? delimiter rest).map (trims, ·)

/-- A tag that consists of one word, read from behind `\x7b%`: whether it takes away blanks before
and after it, and what follows. -/
def bareTag? (name : String) (text : List Char) : Option (Bool × Bool × List Char) :=
  let (before, text) := skipSign text
  (Text.after? name.toList (text.dropWhile Text.isAsciiBlank)).bind fun text =>
    (closing? ['%', '\x7d'] (text.dropWhile Text.isAsciiBlank)).map (before, ·)

/-- Cuts a text where the raw block that it stands in ends; the blanks before and after the closing
tag may have to be taken away. -/
def cutRaw? : List Char → Option (List Char × Bool × Bool × List Char)
  | [] => none
  | c :: rest =>
    let ending :=
      match c, rest with
      | '\x7b', '%' :: tag => bareTag? "endraw" tag
      | _, _ => none
    match ending with
    | some ending => some ([], ending)
    | none => (cutRaw? rest).map fun (text, ending) => (c :: text, ending)

/-- Cuts a text before the first opening delimiter, and tells the second character of that. -/
def cutAtOpening : List Char → List Char × Option (Char × List Char)
  | [] => ([], none)
  | '\x7b' :: c :: rest =>
    if c == '\x7b' || c == '%' || c == '#' then ([], some (c, rest))
    else
      let (before, found?) := cutAtOpening (c :: rest)
      ('\x7b' :: before, found?)
  | c :: rest =>
    let (before, found?) := cutAtOpening rest
    (c :: before, found?)

def trimIf (trims : Bool) (trim : List Char → List Char) (text : List Char) : List Char :=
  if trims then trim text else text

/-- A literal, unless it is empty, before what follows it. -/
def withLiteral (text : List Char) (following : List Lexeme) : List Lexeme :=
  if text.isEmpty then following else literal (.ofList text) :: following

/-- What a lexer stands in. -/
inductive Place
  /-- Literal text, the blanks at its start taken away or not. -/
  | outside (trims : Bool)
  /-- A print or a tag, with some brackets open, right behind a point or not. -/
  | inside (isTag : Bool) (brackets : Nat) (behindPoint : Bool)

/-- Reads the lexemes of a text. Every step takes a character of the text. -/
def readFrom : (steps : Nat) → Place → List Char → Except Fault (List Lexeme)
  | 0, _, _ => .error .tooDeep
  | steps + 1, .outside trims, text => do
    let (before, found?) := cutAtOpening (trimIf trims Text.trimStart text)
    match found? with
    | none => return withLiteral before []
    | some (kind, rest) =>
      let (trimsBefore, behindSign) := skipSign rest
      let before := trimIf trimsBefore Text.trimEnd before
      if kind == '#' then
        match Text.splitOnce? ['#', '\x7d'] behindSign with
        | none => throw (.malformed "end of comment")
        | some (comment, rest) =>
          let following ← readFrom steps (.outside (comment.getLast? == some '-')) rest
          return withLiteral before following
      else if kind == '%' then
        match bareTag? "raw" rest with
        | some (_, trimsStart, rest) =>
          match cutRaw? rest with
          | none => throw (.malformed "end of raw block")
          | some (raw, trimsEnd, trimsAfter, rest) =>
            let raw := trimIf trimsEnd Text.trimEnd (trimIf trimsStart Text.trimStart raw)
            let following ← readFrom steps (.outside trimsAfter) rest
            return withLiteral before (withLiteral raw following)
        | none =>
          let following ← readFrom steps (.inside true 0 false) behindSign
          return withLiteral before (tagStart :: following)
      else
        let following ← readFrom steps (.inside false 0 false) behindSign
        return withLiteral before (printStart :: following)
  | steps + 1, .inside isTag brackets behindPoint, text => do
    let text := text.dropWhile Text.isAsciiBlank
    let delimiter := if isTag then ['%', '\x7d'] else ['\x7d', '\x7d']
    match if brackets == 0 then closing? delimiter text else none with
    | some (trims, rest) =>
      let following ← readFrom steps (.outside trims) rest
      return (if isTag then tagEnd else printEnd) :: following
    | none =>
      let (lexeme, rest) ← first behindPoint text
      let brackets :=
        if [mark "(", mark "[", mark "\x7b"].contains lexeme then brackets + 1
        else if [mark ")", mark "]", mark "\x7d"].contains lexeme then brackets - 1
        else brackets
      return lexeme :: (← readFrom steps (.inside isTag brackets (lexeme == mark ".")) rest)

end Lexeme

/-- The lexemes of a template. -/
def lexemes (template : String) : Except Fault (List Lexeme) :=
  let text := template.toList
  Lexeme.readFrom (text.length + 1) (.outside false) text

end TagWeave.Template
