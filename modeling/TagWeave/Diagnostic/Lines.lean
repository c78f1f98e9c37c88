import TagWeave.Text.Blank
import TagWeave.Text.Width

/-!
# Lines of a text that is shown

A line includes its terminator. Places are counted in characters here.
-/

namespace TagWeave.Diagnostic

/-- The characters that end a line; a carriage return takes a line feed behind it along. -/
def isLineEnd (c : Char) : Bool :=
  ['\r', '\n', '\x0b', '\x0c', '\u0085', '\u2028', '\u2029'].contains c

/-- The lines of a text, `line` being the one begun, in reverse. -/
def splitFrom (line : List Char) : List Char → List (List Char)
  | [] => if line.isEmpty then [] else [line.reverse]
  | '\r' :: '\n' :: rest => ('\n' :: '\r' :: line).reverse :: splitFrom [] rest
  | c :: rest =>
    if isLineEnd c then (c :: line).reverse :: splitFrom [] rest else splitFrom (c :: line) rest

structure Line where
  /-- The number of the line, the first being 0. -/
  index : Nat
  /-- The place of its first character. -/
  offset : Nat
  chars : List Char
  deriving DecidableEq, Repr

/-- Numbers lines and gives them their places. -/
def place (index offset : Nat) : List (List Char) → List Line
  | [] => []
  | chars :: rest => ⟨index, offset, chars⟩ :: place (index + 1) (offset + chars.length) rest

def lines (text : List Char) : List Line := place 0 0 (splitFrom [] text)

/-- The line of a place; the end of the text belongs to the last line. -/
def lineAt? (lines : List Line) (offset : Nat) : Option Line :=
  (lines.takeWhile (·.offset ≤ offset)).getLast?

namespace Line

/-- The characters that are shown: blanks at the end are not. -/
def shown (line : Line) : List Char := Text.trimEnd line.chars

/-- The columns that a character takes; a tab reaches to the next multiple of four. -/
def columns (c : Char) (index : Nat) : Nat :=
  if c == '\t' then (index / 4 + 1) * 4 - index
  else if Text.isBlank c then 1
  else Text.width c

/-- The columns of the character with an index in the line; behind what is shown there is one. -/
def columnsAt (line : Line) (index : Nat) : Nat :=
  match line.shown[index]? with
  | some c => columns c index
  | none => 1

end Line

end TagWeave.Diagnostic
