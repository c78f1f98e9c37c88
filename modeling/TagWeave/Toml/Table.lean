/-!
# TOML tables

A document is a table. Its lines add to it, and how a table came about decides what may still be
added: nothing is ever defined twice.
-/

namespace TagWeave.Toml

/-- How a table came about. -/
inductive Origin
  /-- By its own header. -/
  | header
  /-- By the header of a table inside it. -/
  | implied
  /-- By keys with dots. -/
  | dotted
  /-- As a value, which is complete. -/
  | inline
  deriving DecidableEq, Repr

inductive Item where
  | text (value : String)
  | integer (value : Int)
  | float (value : Float)
  | boolean (value : Bool)
  /-- A date, a time or both. -/
  | moment (value : String)
  | array (items : List Item)
  | table (origin : Origin) (entries : List (String × Item))
  /-- Tables that each have a header of their own. -/
  | tables (items : List (List (String × Item)))
  deriving Inhabited

/-- The entries of a table, in the order in which they were added. -/
abbrev Table := List (String × Item)

/-- A header or a key: names with dots between them. -/
abbrev Path := List String

namespace Table

def replace (key : String) (item : Item) (t : Table) : Table :=
  t.map fun e => if e.1 == key then (key, item) else e

/-- Changes the table at a path, the last one of several, and makes the tables that are missing.
`dotted` tells that the path is a key, which cannot lead through a table with a header. -/
def changeAt (dotted : Bool) (change : Origin → Table → Option Table) :
    Path → Origin → Table → Option Table
  | [], origin, t => change origin t
  | key :: path, _, t =>
    match t.lookup key with
    | none => do
      let origin : Origin := if dotted then .dotted else .implied
      let inner ← changeAt dotted change path origin []
      return t ++ [(key, .table origin inner)]
    | some (.table origin inner) => do
      if origin == .inline || (dotted && origin == .header) then none
      let inner ← changeAt dotted change path origin inner
      return t.replace key (.table origin inner)
    | some (.tables items) => do
      let last ← changeAt dotted change path .header (← items.getLast?)
      return t.replace key (.tables (items.dropLast ++ [last]))
    | some _ => none

/-- Adds an entry. Its key may make tables and add to those that such keys have made. -/
def assign (path : Path) (key : String) (item : Item) (origin : Origin) (t : Table) :
    Option Table :=
  changeAt true
    (fun origin t =>
      if (!path.isEmpty && origin != .dotted) || (t.lookup key).isSome then none
      else some (t ++ [(key, item)]))
    path origin t

/-- Adds a table under its header. -/
def openTable (path : Path) (key : String) (t : Table) : Option Table :=
  changeAt false
    (fun _ t =>
      match t.lookup key with
      | none => some (t ++ [(key, .table .header [])])
      | some (.table .implied inner) => some (t.replace key (.table .header inner))
      | some _ => none)
    path .header t

/-- Adds one more table under a header that several share. -/
def openNext (path : Path) (key : String) (t : Table) : Option Table :=
  changeAt false
    (fun _ t =>
      match t.lookup key with
      | none => some (t ++ [(key, .tables [[]])])
      | some (.tables items) => some (t.replace key (.tables (items ++ [[]])))
      | some _ => none)
    path .header t

/-- Adds an entry to the table under a header. -/
def assignUnder (header path : Path) (key : String) (item : Item) (t : Table) : Option Table :=
  changeAt false (assign path key item) header .header t

end Table

end TagWeave.Toml
