import TagWeave.Data
import TagWeave.Number.Division
import TagWeave.Number.Shortest
import TagWeave.Text.Quoted

/-!
# Values of templates

What the expressions of a template stand for: the data handed in and what is made from it, with a
text, a truth value, an order and an equality for all of them.
-/

namespace TagWeave.Template

/-- The functions that every template knows. -/
inductive Builtin
  | range
  | dictionary
  | namespace_
  | debug
  deriving DecidableEq, Repr

inductive Value where
  /-- `expected` values may be used as nothing even where undefined values are refused. -/
  | undefined (expected : Bool)
  | none
  | boolean (value : Bool)
  | integer (value : Int)
  | float (value : Float)
  /-- What is not a number but comes before all of them; a `float` that is none comes after them. -/
  | lowest
  /-- A text that is `safe` is not escaped again. -/
  | text (value : String) (safe : Bool)
  /-- A container that was given a name has a mark, which tells it apart from its likes. -/
  | list (mark? : Option Nat) (items : List Value)
  /-- Items that an operation hands out one after the other; `sized` if it knows how many. -/
  | stream (mark? : Option Nat) (sized : Bool) (items : List Value)
  /-- Entries in increasing order of their keys, each key once. -/
  | map (mark? : Option Nat) (entries : List (Value × Value))
  /-- The members of a list that have one key. -/
  | group (mark? : Option Nat) (key : Value) (members : List Value)
  /-- The loop in a cell, with its pass when last looked at. The number of passes may be unknown,
  and the neighbours are undefined at the ends. -/
  | loop (cell index : Nat) (length? : Option Nat) (depth : Nat) (previous next : Value)
  /-- The names that a cell holds, with what they stood for when last looked at. -/
  | space (cell : Nat) (entries : List (Value × Value))
  /-- A macro, by its number. -/
  | routine (name : String) (number : Nat) (parameters : List String) (callsBack : Bool)
  | builtin (function : Builtin)
  /-- What a stream hands out in place of the items of something that has none, by its kind. -/
  | invalid (kind : String)
  deriving Inhabited

namespace Value

def ofText (text : String) : Value := .text text false

def ofChars (text : List Char) : Value := ofText (.ofList text)

def ofList (items : List Value) : Value := .list Option.none items

/-- A stream of as many items as it has. -/
def ofStream (items : List Value) : Value := .stream Option.none true items

def isUndefined : Value → Bool
  | .undefined _ => true
  | _ => false

def isFloat : Value → Bool
  | .float _ | .lowest => true
  | _ => false

def isNumber : Value → Bool
  | .integer _ => true
  | v => v.isFloat

def isSequence : Value → Bool
  | .list .. | .group .. => true
  | _ => false

/-! ## Views -/

/-- A number that may be unknown. -/
def ofCount? (n? : Option Nat) : Value := n?.elim (.undefined false) fun n => .integer n

/-- What a pass of a loop tells. -/
def loopEntries (index : Nat) (length? : Option Nat) (depth : Nat) (previous next : Value) :
    List (Value × Value) :=
  [(ofText "index0", .integer index), (ofText "index", .integer (index + 1)),
    (ofText "length", ofCount? length?), (ofText "revindex", ofCount? (length?.map (· - index))),
    (ofText "revindex0", ofCount? (length?.map (· - index - 1))),
    (ofText "first", .boolean (index == 0)),
    (ofText "last", .boolean (length?.any (index + 1 == ·))),
    (ofText "depth", .integer (depth + 1)), (ofText "depth0", .integer depth),
    (ofText "previtem", previous), (ofText "nextitem", next)]

/-- What a macro tells. -/
def routineEntries (name : String) (parameters : List String) (callsBack : Bool) :
    List (Value × Value) :=
  [(ofText "name", ofText name), (ofText "arguments", ofList (parameters.map ofText)),
    (ofText "caller", .boolean callsBack)]

/-- The entries of a value that is like a map. -/
def entries? : Value → Option (List (Value × Value))
  | .map _ entries | .space _ entries => some entries
  | .loop _ index length? depth previous next =>
    some (loopEntries index length? depth previous next)
  | .routine name _ parameters callsBack => some (routineEntries name parameters callsBack)
  | _ => Option.none

/-- The items of a value that is like a list. -/
def sequence? : Value → Option (List Value)
  | .list _ items | .stream _ _ items => some items
  | .group _ key members => some [key, ofStream members]
  | _ => Option.none

/-- What a loop over the value runs through. -/
def items? : Value → Option (List Value)
  | .undefined _ | .none => some []
  | .text s _ => some (s.toList.map fun c => ofChars [c])
  | v => v.sequence?.orElse fun _ => v.entries?.map fun entries => entries.map (·.1)

/-- How many items a value has, if that is known beforehand. -/
def length? : Value → Option Nat
  | .undefined _ | .none | .stream _ false _ => Option.none
  | v => v.items?.map List.length

/-! ## From data -/

mutual

def ofData : Data → Value
  | .null => .none
  | .boolean b => .boolean b
  | .integer n => .integer n
  | .float x => .float x
  | .string s => .text s false
  | .list items => .ofList (ofItems items)
  | .object fields => .map Option.none (ofFields fields)

def ofItems : List Data → List Value
  | [] => []
  | item :: rest => ofData item :: ofItems rest

def ofFields : List (String × Data) → List (Value × Value)
  | [] => []
  | (name, value) :: rest => (.text name false, ofData value) :: ofFields rest

end

/-! ## Text -/

/-- Texts between brackets, each on a line of its own. -/
def spreadWithin (margin : Nat) (opening closing : String) (texts : List String) : String :=
  let blanks (count : Nat) : String := .ofList (List.replicate count ' ')
  if texts.isEmpty then opening ++ closing
  else
    let lines := texts.map fun text => blanks (margin + 4) ++ text ++ ",\n"
    opening ++ "\n" ++ String.join lines ++ blanks margin ++ closing

mutual

/-- The text of a value inside another one. -/
def inner : Value → String
  | .undefined _ => "undefined"
  | .none => "None"
  | .boolean b => if b then "True" else "False"
  | .integer n => toString n
  | .float x => Number.nested.text x
  | .lowest => Number.nested.text Number.notANumber
  | .text s _ => Text.quoted s
  | .stream _ false _ => "<iterator>"
  | .list _ items | .stream _ _ items => "[" ++ ", ".intercalate (innerItems items) ++ "]"
  | .map _ entries | .space _ entries =>
    "\x7b" ++ ", ".intercalate (innerEntries entries) ++ "\x7d"
  | .group _ key members =>
    "[" ++ key.inner ++ ", [" ++ ", ".intercalate (innerItems members) ++ "]]"
  | .loop _ index length? _ _ _ =>
    "<loop " ++ toString index ++ "/" ++ length?.elim "?" toString ++ ">"
  | .routine name _ _ _ => "<macro " ++ name ++ ">"
  | .builtin _ => "<function>"
  | .invalid kind => "<invalid value: invalid operation: " ++ kind ++ " is not iterable>"

def innerItems : List Value → List String
  | [] => []
  | item :: rest => item.inner :: innerItems rest

def innerEntries : List (Value × Value) → List String
  | [] => []
  | (key, value) :: rest => (key.inner ++ ": " ++ value.inner) :: innerEntries rest

end

mutual

/-- The text of a value with each item on a line of its own, further in than the `margin`. -/
def spread (margin : Nat) : Value → String
  | .list _ items | .stream _ true items =>
    spreadWithin margin "[" "]" (spreadItems (margin + 4) items)
  | .map _ entries | .space _ entries =>
    spreadWithin margin "\x7b" "\x7d" (spreadEntries (margin + 4) entries)
  | .group _ key members =>
    let members := spreadWithin (margin + 4) "[" "]" (spreadItems (margin + 8) members)
    spreadWithin margin "[" "]" [key.spread (margin + 4), members]
  | v => v.inner

def spreadItems (margin : Nat) : List Value → List String
  | [] => []
  | item :: rest => item.spread margin :: spreadItems margin rest

def spreadEntries (margin : Nat) : List (Value × Value) → List String
  | [] => []
  | (key, value) :: rest =>
    (key.spread margin ++ ": " ++ value.spread margin) :: spreadEntries margin rest

end

/-- The text that is written for a value. -/
def display : Value → String
  | .text s _ => s
  | .undefined _ => ""
  | .float x => Number.plain.text x
  | .lowest => Number.plain.text Number.notANumber
  | v => v.inner

/-! ## Truth -/

def isTrue : Value → Bool
  | .undefined _ | .none | .invalid _ => false
  | .boolean b => b
  | .integer n => n != 0
  | .float x => x != 0.0
  | .text s _ => !s.isEmpty
  | .list _ items | .stream _ true items => !items.isEmpty
  | .map _ entries | .space _ entries => !entries.isEmpty
  | _ => true

end Value

end TagWeave.Template
