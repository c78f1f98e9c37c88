import TagWeave.Template.Arguments
import TagWeave.Text.Blank
import TagWeave.Text.Case

/-!
# Filters on texts

What is made from a safe text by changing its case or taking pieces of it is safe as well.
-/

namespace TagWeave.Template

/-- A filter, given its subject and its arguments. -/
abbrev Filter := Rules → Value → Arguments → Outcome

namespace Filter

/-- How a character is written in markup that is escaped. -/
def escapedForm (c : Char) : List Char :=
  if c == '<' then "&lt;".toList
  else if c == '>' then "&gt;".toList
  else if c == '&' then "&amp;".toList
  else if c == '"' then "&quot;".toList
  else if c == '\'' then "&#x27;".toList
  else if c == '/' then "&#x2f;".toList
  else [c]

def escaped (text : String) : String := .ofList (text.toList.flatMap escapedForm)

/-- The text of a value as it is written where texts are escaped. -/
def escapedDisplay : Value → String
  | .text s true => s
  | .undefined _ => ""
  | v => if v.isNumber then v.display else escaped v.display

def escape (_ : Rules) (v : Value) (a : Arguments) : Outcome := do
  a.none
  return .text (escapedDisplay v) true

def isSafe : Value → Bool
  | .text _ safe => safe
  | _ => false

/-- A text made from a value, as safe as that. -/
def madeFrom (v : Value) (text : List Char) : Value := .text (.ofList text) (isSafe v)

/-- A filter without arguments on the text of its subject. -/
def onText (f : String → String) (rules : Rules) (v : Value) (a : Arguments) : Outcome := do
  a.none
  return madeFrom v (f (← v.asText rules)).toList

def isAsciiPunctuation (c : Char) : Bool :=
  c.toNat < 0x7F && 0x20 < c.toNat && !c.isAlphanum

/-- Capitals at the beginnings of words, small letters elsewhere. -/
def titleFrom : (atStart : Bool) → List Char → List Char
  | _, [] => []
  | atStart, c :: rest =>
    if isAsciiPunctuation c || Text.isBlank c then c :: titleFrom true rest
    else (if atStart then Text.upperForm c else Text.lowerForm c) ++ titleFrom false rest

def capitalized (text : String) : String :=
  match text.toList with
  | [] => ""
  | c :: rest => .ofList (Text.upperForm c) ++ Text.lowercase (.ofList rest)

/-- Where texts are escaped, what is put into a safe subject is escaped; a subject that is not safe
is, if what is looked for or what is put there is safe. -/
def replace (rules : Rules) (v : Value) (a : Arguments) : Outcome := do
  match ← a.plain 2 with
  | [old, new] =>
    let text ← v.asText rules
    let oldText ← old.asText rules
    let newText ← new.asText rules
    let replaced (new text : String) : String :=
      .ofList (Text.replace oldText.toList new.toList text.toList)
    if rules.escapes && [v, old, new].any isSafe then
      return .text (replaced (escapedDisplay new) (escapedDisplay v)) true
    else return .ofText (replaced newText text)
  | _ => throw (.unfit "replace")

def trim (rules : Rules) (v : Value) (a : Arguments) : Outcome := do
  let text := (← v.asText rules).toList
  match ← Arguments.optional rules (← a.plain 1).head? with
  | none => return madeFrom v (Text.trim text)
  | some chars =>
    let chars := (← chars.asText rules).toList
    return madeFrom v (Text.strip chars.contains text)

/-- The pieces between the occurrences of a separator, at most as many as given. -/
def pieces (separator : List Char) : (most : Nat) → (text : List Char) → List (List Char)
  | 0, text | 1, text => [text]
  | most + 2, text =>
    match Text.splitOnce? separator text with
    | none => [text]
    | some (piece, rest) => piece :: pieces separator (most + 1) rest

/-- The pieces between the occurrences of nothing, which are those before, between and behind all
characters. -/
def characterPieces (most : Nat) (text : List Char) : List (List Char) :=
  if most ≤ 1 then [text]
  else [] :: (text.take (most - 2)).map ([·]) ++ [text.drop (most - 2)]

/-- The words of a text, the last of at most as many as given being all the rest. Blanks that no
word follows are a piece as well. -/
def someWords : (most : Nat) → (text : List Char) → List (List Char)
  | 0, _ => []
  | most + 1, text =>
    let words := Text.trimStart text
    if text.isEmpty then []
    else if words.isEmpty then [text]
    else if most == 0 then [words]
    else words.takeWhile (!Text.isBlank ·) :: someWords most (words.dropWhile (!Text.isBlank ·))

/-- Both the subject and the separator have to be texts. -/
def split (rules : Rules) (v : Value) (a : Arguments) : Outcome := do
  let text := (← v.asName).toList
  let given ← a.plain 2
  let separator? ← (← Arguments.optional rules given[0]?).mapM Value.asName
  let most? ← (← Arguments.optional rules given[1]?).mapM Value.asInteger
  let most? := (most?.filter (0 ≤ ·)).map fun most => min (most.toNat + 1) (text.length + 2)
  let most := most?.getD (text.length + 2)
  let found := match separator?, most? with
    | none, none => Text.words text
    | none, some most => someWords most text
    | some separator, _ =>
      if separator.isEmpty then characterPieces most text
      else pieces separator.toList most text
  return .ofList (found.map (madeFrom v))

/-- Drops a line end at the end of a text. -/
def dropLineEnd (text : List Char) : List Char :=
  let cut (c : Char) (text : List Char) : List Char :=
    if text.getLast? == some c then text.dropLast else text
  cut '\r' (cut '\n' text)

def lines (_ : Rules) (v : Value) (a : Arguments) : Outcome := do
  a.none
  let text := (← v.asName).toList
  let lines := text.splitOn '\n'
  let ended := lines.dropLast.map fun line =>
    if line.getLast? == some '\r' then line.dropLast else line
  return .ofList ((ended ++ (lines.getLast?.filter (!·.isEmpty)).toList).map (madeFrom v))

/-- Puts blanks before the lines of a text. What is not given by its place may be given by name. -/
def indent (rules : Rules) (v : Value) (a : Arguments) : Outcome := do
  let text := dropLineEnd (← v.asText rules).toList
  let given ← Arguments.atMost 3 a.positional
  a.namedOf (["width", "first", "blank"].drop given.length)
  let part (position : Nat) (name : String) : Except Fault (Option Value) :=
    match given[position]? with
    | some value => Arguments.optional rules (some value)
    | none => .ok (a.named? name)
  let width? ← (← part 0 "width").mapM Value.asCount
  let indentsFirst? ← (← part 1 "first").mapM Value.asFlag
  let indentsBlank? ← (← part 2 "blank").mapM Value.asFlag
  let blanks := List.replicate (width?.getD 4) ' '
  let indented (line : List Char) : List Char :=
    if line.isEmpty && indentsBlank? != some true then [] else blanks ++ line
  let lines := match text.splitOn '\n' with
    | [] => []
    | first :: others =>
      (if indentsFirst? == some true then indented first else first) :: others.map indented
  return madeFrom v (dropLineEnd (['\n'].intercalate lines ++ ['\n']))

def text? : String → Option Filter
  | "safe" => some fun rules v a => do
    a.none
    return .text (← v.asText rules) true
  | "escape" | "e" => some escape
  | "lower" => some (onText Text.lowercase)
  | "upper" => some (onText Text.uppercase)
  | "title" => some fun rules v a => do
    a.none
    return .ofChars (titleFrom true (← v.asText rules).toList)
  | "capitalize" => some (onText capitalized)
  | "replace" => some replace
  | "trim" => some trim
  | "split" => some split
  | "lines" => some lines
  | "indent" => some indent
  | "pprint" => some fun _ v a => do
    a.none
    return .ofText (v.spread 0)
  | "string" => some fun rules v a => do
    a.none
    v.usable rules
    match v with
    | .text .. => return v
    | v => return .ofText v.display
  | _ => none

end Filter

end TagWeave.Template
