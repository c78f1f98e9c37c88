/-!
# Places in a text

Places are counted in bytes of UTF-8. Where characters are counted instead, a place that does not
lie between two characters goes back to the beginning of its character.
-/

namespace TagWeave.Text

/-- The bytes from `start` to before `stop`. -/
structure Span where
  start : Nat
  stop : Nat
  deriving DecidableEq, Repr

/-- The number of bytes of a text. -/
def byteSize : List Char → Nat
  | [] => 0
  | c :: rest => c.utf8Size + byteSize rest

/-- The characters before and behind a place; nothing if it lies inside a character or behind the
end. -/
def cutAtByte? : (place : Nat) → List Char → Option (List Char × List Char)
  | 0, text => some ([], text)
  | _ + 1, [] => none
  | place + 1, c :: rest =>
    if c.utf8Size ≤ place + 1 then
      (cutAtByte? (place + 1 - c.utf8Size) rest).map fun (before, behind) => (c :: before, behind)
    else none

/-- Whether a place lies between two characters or at an end of the text. -/
def isBoundary (text : List Char) (place : Nat) : Bool := (cutAtByte? place text).isSome

/-- Goes back, byte by byte, to a place between two characters. At the beginning there is nothing to
go back to. -/
def boundaryUpTo? (text : List Char) : (place : Nat) → Option Nat
  | 0 => if isBoundary text 0 then some 0 else none
  | place + 1 =>
    if isBoundary text (place + 1) then some (place + 1) else boundaryUpTo? text place

/-- The number of characters before a place. One behind the end counts as the end. -/
def charsBefore? (offset : Nat) (text : List Char) : Option Nat := do
  let place ← boundaryUpTo? text (min offset (byteSize text))
  let (before, _) ← cutAtByte? place text
  return before.length

/-- A span of bytes as a span of characters, if a place between two characters is found for both
ends. -/
def Span.inChars? (span : Span) (text : List Char) : Option Span := do
  let start ← charsBefore? span.start text
  let stop ← charsBefore? span.stop text
  return ⟨start, stop⟩

/-- A span of bytes as a span of characters. -/
def Span.inChars (span : Span) (text : List Char) : Span := (span.inChars? text).getD ⟨0, 0⟩

end TagWeave.Text
