import TagWeave.Toml.Scalar
import TagWeave.Text.Find

/-!
# Reading TOML
-/

namespace TagWeave.Toml

/-- Reads from the start of a text and leaves what follows. -/
abbrev Read := StateT (List Char) Option

namespace Read

def peek? : Read (Option Char) := return (← get).head?

def advance : Read Unit := modify List.tail

/-- Takes a piece of text if it is what follows. -/
def skip (piece : String) : Read Bool := do
  match Text.after? piece.toList (← get) with
  | some rest =>
    set rest
    return true
  | none => return false

def take (piece : String) : Read Unit := do
  unless ← skip piece do failure

/-- Takes the longest run of characters that satisfy `p`. -/
def takeWhile (p : Char → Bool) : Read (List Char) := do
  let text ← get
  set (text.dropWhile p)
  return text.takeWhile p

def isBlank (c : Char) : Bool := c == ' ' || c == '\t'

def skipBlanks : Read Unit := do
  let _ ← takeWhile isBlank

def isControl (c : Char) : Bool := (c.toNat < 0x20 && c != '\t') || c.toNat == 0x7F

def skipComment : Read Unit := do
  if ← skip "#" then
    let _ ← takeWhile fun c => !isControl c

def skipNewline : Read Bool := do
  if ← skip "\n" then return true
  skip "\x0d\n"

/-- Takes blanks, comments and line ends. -/
def skipFiller : (steps : Nat) → Read Unit
  | 0 => failure
  | steps + 1 => do
    skipBlanks
    skipComment
    if ← skipNewline then skipFiller steps

/-! ## Texts -/

/-- The character with a number in base 16. -/
def codePoint? (digits : List Char) : Option Char := do
  let n ← digits.foldlM (fun n c => do return n * 16 + (← hexDigit? c)) 0
  if n.isValidChar then some (Char.ofNat n) else none

def escape : Read Char := do
  let c ← (← peek?)
  advance
  let numbered (count : Nat) : Read Char := do
    let text ← get
    let digits := text.take count
    if digits.length != count then failure
    set (text.drop count)
    codePoint? digits
  if c == '"' || c == '\\' then return c
  else if c == 'b' then return '\x08'
  else if c == 't' then return '\t'
  else if c == 'n' then return '\n'
  else if c == 'f' then return '\x0c'
  else if c == 'r' then return '\r'
  else if c == 'u' then numbered 4
  else if c == 'U' then numbered 8
  else failure

/-- Whether a character may stand for itself in a text. -/
def isPlain (c : Char) : Bool := !isControl c

/-- Reads a text on one line with escapes, up to its closing quote. -/
def basicText : (steps : Nat) → Read (List Char)
  | 0 => failure
  | steps + 1 => do
    if ← skip "\"" then return []
    if ← skip "\\" then
      let c ← escape
      return c :: (← basicText steps)
    let c ← (← peek?)
    if !isPlain c then failure
    advance
    return c :: (← basicText steps)

/-- Reads a text on one line without escapes, up to its closing quote. -/
def literalText : Read (List Char) := do
  let text ← takeWhile fun c => isPlain c && c != '\''
  take "'"
  return text

/-- Takes the quotes that end a text on several lines; up to two more belong to the text. -/
def closingQuotes? (quote : Char) : Read (Option (List Char)) := do
  let text ← get
  let quotes := min 5 (text.takeWhile (· == quote)).length
  if quotes < 3 then return none
  set (text.drop quotes)
  return some (List.replicate (quotes - 3) quote)

/-- Takes the line end behind a backslash, with the blanks around it and the empty lines after
it. -/
def skipJoin : (steps : Nat) → Read Unit
  | 0 => failure
  | steps + 1 => do
    skipBlanks
    if ← skipNewline then skipJoin steps

/-- Reads a text on several lines. A line end is a line feed, however it is written. -/
def blockText (quote : Char) (escapes : Bool) : (steps : Nat) → Read (List Char)
  | 0 => failure
  | steps + 1 => do
    if let some quotes ← closingQuotes? quote then return quotes
    if ← skipNewline then return '\n' :: (← blockText quote escapes steps)
    if ← (if escapes then skip "\\" else pure false) then
      if ((← peek?).map fun c => isBlank c || c == '\n' || c == '\r').getD false then
        skipBlanks
        unless ← skipNewline do failure
        skipJoin steps
        blockText quote escapes steps
      else
        let c ← escape
        return c :: (← blockText quote escapes steps)
    else
      let c ← (← peek?)
      if !isPlain c then failure
      advance
      return c :: (← blockText quote escapes steps)

/-- Reads a text in quotes, whichever they are. -/
def quotedText : Read String := do
  let steps := (← get).length + 1
  let text ←
    if ← skip "\"\"\"" then
      let _ ← skipNewline
      blockText '"' true steps
    else if ← skip "'''" then
      let _ ← skipNewline
      blockText '\'' false steps
    else if ← skip "\"" then basicText steps
    else do
      take "'"
      literalText
  return .ofList text

/-! ## Keys -/

def isBare (c : Char) : Bool := c.isAlphanum || c == '_' || c == '-'

/-- Reads one name of a key. -/
def name : Read String := do
  let steps := (← get).length + 1
  if ← skip "\"" then return .ofList (← basicText steps)
  if ← skip "'" then return .ofList (← literalText)
  let text ← takeWhile isBare
  if text.isEmpty then failure
  return .ofList text

/-- How deep arrays and tables may nest, and how many names a key may have. -/
def mostNested : Nat := 79

/-- Reads the names of a key, with blanks around its dots, up to the last one. -/
def key : (names : Nat) → Read (Path × String)
  | 0 => failure
  | names + 1 => do
    skipBlanks
    let first ← name
    skipBlanks
    if ← skip "." then
      let (path, last) ← key names
      return (first :: path, last)
    return ([], first)

/-! ## Values -/

/-- The characters of numbers, truth values and moments. -/
def isScalar (c : Char) : Bool := isBare c || c == '+' || c == '.' || c == ':'

/-- Reads a number, a truth value or a moment. A blank may stand between a date and a time. -/
def scalar : Read Item := do
  let text ← takeWhile isScalar
  let rest ← get
  let startsTime := rest.head? == some ' ' && ((rest[1]?).map Char.isDigit).getD false
  if afterDate? text == some [] && startsTime then
    advance
    scalar? (text ++ ' ' :: (← takeWhile isScalar))
  else scalar? text

mutual

/-- Reads a value. `steps` bounds what may follow one another, `depth` how many arrays and tables
may still be opened. -/
def value : (steps depth : Nat) → Read Item
  | 0, _ => failure
  | steps + 1, depth => do
    let next ← peek?
    if next == some '"' || next == some '\'' then return .text (← quotedText)
    else if ← skip "[" then
      if depth == 0 then failure
      return .array (← items steps (depth - 1))
    else if ← skip "\x7b" then
      if depth == 0 then failure
      skipBlanks
      if ← skip "\x7d" then return .table .inline []
      return .table .inline (← entries steps (depth - 1) [])
    else scalar

/-- Reads the items of an array up to its bracket. -/
def items : (steps depth : Nat) → Read (List Item)
  | 0, _ => failure
  | steps + 1, depth => do
    skipFiller (steps + 1)
    if ← skip "]" then return []
    let item ← value steps depth
    skipFiller (steps + 1)
    if ← skip "," then return item :: (← items steps depth)
    take "]"
    return [item]

/-- Reads the entries of a table in braces up to its end. -/
def entries : (steps depth : Nat) → Table → Read Table
  | 0, _, _ => failure
  | steps + 1, depth, before => do
    let (path, last) ← key mostNested
    take "="
    skipBlanks
    let item ← value steps depth
    skipBlanks
    let after ← before.assign path last item .inline
    if ← skip "," then entries steps depth after
    else
      take "\x7d"
      return after

end

/-! ## Documents -/

/-- Takes the rest of a line. -/
def endOfLine : Read Unit := do
  skipBlanks
  skipComment
  unless (← skipNewline) || (← get).isEmpty do failure

/-- Reads the lines of a document, `header` being that of the table that they add to. -/
def lines : (steps : Nat) → (header : Path) → Table → Read Table
  | 0, _, _ => failure
  | steps + 1, header, t => do
    skipBlanks
    match ← peek? with
    | none => return t
    | some c =>
      if c == '#' || c == '\n' || c == '\r' then
        endOfLine
        lines steps header t
      else if ← skip "[[" then
        let (path, last) ← key mostNested
        take "]]"
        endOfLine
        lines steps (path ++ [last]) (← t.openNext path last)
      else if ← skip "[" then
        let (path, last) ← key mostNested
        take "]"
        endOfLine
        lines steps (path ++ [last]) (← t.openTable path last)
      else
        let (path, last) ← key mostNested
        take "="
        skipBlanks
        let item ← value (2 * (← get).length + 2) mostNested
        endOfLine
        lines steps header (← t.assignUnder header path last item)

end Read

/-- Reads a document, which may begin with a byte order mark. -/
def read? (text : String) : Option Table :=
  let text := text.toList
  let text := if text.head? == some '\uFEFF' then text.tail else text
  ((Read.lines (text.length + 1) [] []).run text).map (·.1)

end TagWeave.Toml
