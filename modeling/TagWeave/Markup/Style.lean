import TagWeave.Text.Blank

/-!
# Inline style

Pieces of style text are put one after the other; which of two declarations counts is left to the
reader of the style.
-/

namespace TagWeave

structure Style where
  text : String
  deriving DecidableEq, Repr

namespace Style

def empty : Style := ⟨""⟩

instance : Inhabited Style := ⟨empty⟩

def isEmpty (style : Style) : Bool := style.text.isEmpty

/-- Appends a piece without the blanks at its ends, after a semicolon if the text so far needs
one. -/
def push (style : Style) (piece : String) : Style :=
  let piece := Text.trimmed piece
  if piece.isEmpty then style
  else if style.isEmpty || style.text.toList.getLast? == some ';' then ⟨style.text ++ piece⟩
  else ⟨style.text ++ ";" ++ piece⟩

def ofText (text : String) : Style := empty.push text

end Style

end TagWeave
