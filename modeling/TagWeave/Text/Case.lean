import TagWeave.Text.CaseTable

/-!
# Small and capital letters

The mappings are those of Unicode without any language's rules. The only one that looks at the
neighbours is the small form of capital sigma, which is another letter at the end of a word.
-/

namespace TagWeave.Text

/-- The form of a code point under a table of several-character forms and one of runs. -/
def caseForm (special : List (Nat × List Nat)) (runs : List CaseRun) (c : Char) : List Char :=
  match special.lookup c.toNat with
  | some form => form.map Char.ofNat
  | none =>
    match runs.find? (·.covers c.toNat) with
    | some run => [Char.ofNat (c.toNat + run.shift).toNat]
    | none => [c]

/-- The small form of a character that stands alone. -/
def lowerForm (c : Char) : List Char :=
  if c.toNat < 0x80 then [c.toLower] else caseForm lowerSpecial lowerRuns c

def upperForm (c : Char) : List Char :=
  if c.toNat < 0x80 then [c.toUpper] else caseForm upperSpecial upperRuns c

/-- Whether a character is a capital: it has another small form, or it is among those that stand
alone. -/
def isCapital (c : Char) : Bool :=
  !titlecase.contains c && (lowerForm c != [c] || loneCapitals.contains c)

/-- Whether a character is a small letter, also one that has no capital. -/
def isSmall (c : Char) : Bool := cased.contains c && !titlecase.contains c && !isCapital c

/-- The text, read away from a sigma, goes on with a letter of the same word. -/
def meetsLetter (text : List Char) : Bool :=
  match text.dropWhile caseIgnorable.contains with
  | [] => false
  | c :: _ => cased.contains c

/-- `before` is what stands in front of the text, nearest character first. -/
def lowerFrom (before : List Char) : List Char → List Char
  | [] => []
  | c :: rest =>
    let form :=
      if c == 'Σ' then if meetsLetter before && !meetsLetter rest then ['ς'] else ['σ']
      else lowerForm c
    form ++ lowerFrom (c :: before) rest

/-- The text in small letters. -/
def lowercase (text : String) : String := .ofList (lowerFrom [] text.toList)

/-- The text in capitals. -/
def uppercase (text : String) : String := .ofList (text.toList.flatMap upperForm)

/-- Equal up to the case of ASCII letters. -/
def sameIgnoringAsciiCase (a b : String) : Bool :=
  a.toList.map Char.toLower == b.toList.map Char.toLower

end TagWeave.Text
