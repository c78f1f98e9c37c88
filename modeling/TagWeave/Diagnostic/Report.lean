import TagWeave.Composition.Basic
import TagWeave.Diagnostic.Lines

/-!
# Reports of malformed tags

A report shows the lines of a text that an error is about, coloured for a terminal, with the
faulty part marked and the message beside it. A part on one line is underlined; one over several
lines is bracketed in the margin.
-/

namespace TagWeave.Diagnostic

open Text (Span)

/-- A text in a colour. -/
def paint (colour text : String) : String := "\x1b[" ++ colour ++ "m" ++ text ++ "\x1b[0m"

def red : String := "31"
def margin : String := "38;5;246"
def fadedMargin : String := "38;5;240"
def faded : String := "38;5;249"

def spaces (n : Nat) : String := .ofList (List.replicate n ' ')

/-- As many copies of a red character. -/
def redRun (n : Nat) (c : String) : String := String.join (List.replicate n (paint red c))

/-- What a report is made from. -/
structure Mark where
  message : String
  /-- The faulty part, in characters. -/
  span : Span
  /-- The digits of the last line's number. -/
  digits : Nat

/-- The margin of a line with its number. -/
def numberMargin (m : Mark) (line : Line) : String :=
  let number := toString (line.index + 1)
  " " ++ paint margin (spaces (m.digits - number.length) ++ number ++ " │") ++ " "

/-- The margin of a row without a number. -/
def rowMargin (m : Mark) (bar : String) : String :=
  " " ++ paint fadedMargin (spaces (m.digits + 1) ++ bar) ++ " "

/-- The text of a line, one piece a character, red within the faulty part. -/
def lineText (m : Mark) (line : Line) : String :=
  String.join (line.shown.zipIdx.map fun (c, index) =>
    let offset := line.offset + index
    let colour := if m.span.start ≤ offset && offset < m.span.stop then red else faded
    if Text.isBlank c then
      String.join (List.replicate (Line.columns c index) (paint colour " "))
    else paint colour (.ofList [c]))

/-- A drawing of `width` columns: `first`, and `others` behind it. -/
def drawn (width : Nat) (first others : String) : String :=
  if width = 0 then "" else first ++ String.join (List.replicate (width - 1) others)

/-- The rows below a line that holds the whole faulty part. -/
def underline (m : Mark) (line : Line) : List String :=
  let first := m.span.start - line.offset
  let stop := m.span.stop - line.offset
  let middle := max ((m.span.start + m.span.stop) / 2) m.span.start - line.offset
  let indices := List.range (stop + 2)
  let bar := String.join (indices.map fun index =>
    let width := line.columnsAt index
    if first ≤ index && index < stop then
      drawn width (paint red (if index == middle then "┬" else "─")) (paint red "─")
    else if index == middle then drawn width (paint red "│") (paint red " ")
    else spaces width)
  let hook := String.join (indices.map fun index =>
    let width := line.columnsAt index
    if index < middle then spaces width
    else drawn width (paint red (if index == middle then "╰" else "─")) (paint red "─"))
  [rowMargin m "│" ++ bar, rowMargin m "│" ++ hook ++ " " ++ m.message]

/-- A line at an end of a bracket. -/
def bracketed (m : Mark) (line : Line) (corner : String) : String :=
  numberMargin m line ++ paint red corner ++ paint red "─" ++ paint red "▶" ++ paint red " " ++
    lineText m line

/-- The rows of a faulty part that goes over several lines. -/
def bracket (m : Mark) (first last : Line) : List String :=
  let columns := ((List.range (last.chars.length + 2)).map last.columnsAt).foldl (· + ·) 0
  let gap :=
    if first.index + 1 < last.index then [rowMargin m "┆" ++ paint red "┆" ++ spaces 3] else []
  [bracketed m first "╭"] ++ gap ++
    [bracketed m last "├", rowMargin m "│" ++ paint red "│" ++ spaces (3 + columns),
      rowMargin m "│" ++ paint red "╰" ++ redRun (3 + columns) "─" ++ " " ++ m.message]

/-- The report of a message about a part of a text. -/
def report (message : String) (span : Span) (text : List Char) (filename : String) : String :=
  let title := paint red "Error:" ++ " " ++ message
  let span := span.inChars text
  let lines := lines text
  let rows :=
    match lineAt? lines span.start, lineAt? lines (max (span.stop - 1) span.start) with
    | some first, some last =>
      let digits := (toString (last.index + 1)).length
      let m : Mark := ⟨message, span, digits⟩
      let place := filename ++ ":" ++ toString (first.index + 1) ++ ":" ++
        toString (span.start - first.offset + 1)
      let head := spaces (digits + 2) ++ paint margin "╭" ++ paint margin "─" ++ paint margin "[" ++
        place ++ paint margin "]"
      let body :=
        if first.index = last.index then
          (numberMargin m first ++ lineText m first) :: underline m first
        else bracket m first last
      [head, spaces (digits + 2) ++ paint margin "│"] ++ body ++
        [paint margin (.ofList (List.replicate (digits + 2) '─') ++ "╯")]
    | _, _ => []
  String.join ((title :: rows).map (· ++ "\n"))

end TagWeave.Diagnostic

namespace TagWeave

/-- The report of a malformed tag, `text` being what was scanned. -/
def TagError.report (e : TagError) (text filename : String) : String :=
  Diagnostic.report e.message e.span text.toList filename

/-- The report of a failed composition: a malformed tag is shown in its text. -/
def ComposeError.report (e : ComposeError) (filename : String) : String :=
  match e with
  | .tagSyntax error text => error.report text filename
  | e => "Error: " ++ e.message

end TagWeave
