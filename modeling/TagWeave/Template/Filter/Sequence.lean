import TagWeave.Template.Filter.Format
import TagWeave.Template.Test

/-!
# Filters on lists and maps
-/

namespace TagWeave.Template.Filter

/-! ## Parts -/

def length (_ : Rules) (v : Value) (a : Arguments) : Outcome := do
  a.none
  match v.length? with
  | some length => return .integer length
  | none => throw (.unfit "length")

/-- An entry as a list of key and value. -/
def pair (entry : Value × Value) : Value := .ofList [entry.1, entry.2]

/-- The entries of what is like a map. -/
def items (_ : Rules) (v : Value) (a : Arguments) : Outcome := do
  a.none
  match v.entries? with
  | some entries => return .ofStream (entries.map pair)
  | none => throw (.unfit "items")

def first (_ : Rules) (v : Value) (a : Arguments) : Outcome := do
  a.none
  match v with
  | .undefined _ | .none => throw (.unfit "first")
  | v =>
    match v.items? with
    | some items => return items.headD (.undefined false)
    | none => throw (.unfit "first")

def last (_ : Rules) (v : Value) (a : Arguments) : Outcome := do
  a.none
  match v with
  | .text s _ => return (s.toList.getLast?.map fun c => madeFrom v [c]).getD (.undefined false)
  | v =>
    match v.sequence? with
    | some items => return items.getLastD (.undefined false)
    | none => throw (.unfit "last")

/-- The keys of a map keep their order. -/
def reverse (_ : Rules) (v : Value) (a : Arguments) : Outcome := do
  a.none
  match v with
  | .text s _ => return madeFrom v s.toList.reverse
  | .undefined _ | .none => return v
  | .map _ entries => return .ofStream (entries.map (·.1))
  | v =>
    match v.items? with
    | some items => return .ofStream items.reverse
    | none => throw (.unfit "reverse")

def attr (_ : Rules) (v : Value) (a : Arguments) : Outcome := do
  v.item (← a.one)

/-! ## Joining and adding up -/

/-- Where texts are escaped, one safe text among the items and the separator has the others
escaped. -/
def join (rules : Rules) (v : Value) (a : Arguments) : Outcome := do
  let separator := (Arguments.given? (← a.plain 1).head?).getD (.ofText "")
  match v.items? with
  | some items =>
    if rules.escapes && (separator :: items).any isSafe then
      return .text ((escapedDisplay separator).intercalate (items.map escapedDisplay)) true
    else return .ofText (separator.display.intercalate (items.map Value.display))
  | none => throw (.unfit "join")

/-- Adds up numbers; what is undefined does not count. -/
def sum (rules : Rules) (v : Value) (a : Arguments) : Outcome := do
  a.none
  (← v.items rules).foldlM (fun total item =>
    if item.isUndefined then .ok total
    else if item.isNumber then total.add item
    else .error (.unfit "sum")) (.integer 0)

/-! ## Order -/

/-- The order of two values, texts being compared without the case of ASCII letters unless
`sensitive` is set. -/
def orderOf (sensitive : Bool) (a b : Value) : Ordering :=
  match a, b with
  | .text s _, .text t _ =>
    if sensitive then compare s t
    else compare (String.ofList (s.toList.map Char.toLower))
      (String.ofList (t.toList.map Char.toLower))
  | a, b => a.order b

/-- Up to how many items are sorted by insertion. -/
def mostInserted : Nat := 20

/-- Puts an item before the items that are greater at the end of some that are in reverse. -/
def inserted (order : α → α → Ordering) (item : α) : List α → List α
  | [] => [item]
  | last :: before =>
    if order item last == .lt then last :: inserted order item before else item :: last :: before

/-- Sorts items; what comes first among equals stays first. An order that contradicts itself decides
as few items are inserted one by one. -/
def sortedBy (order : α → α → Ordering) (items : List α) : List α :=
  if items.length ≤ mostInserted then
    (items.foldl (fun sorted item => inserted order item sorted) []).reverse
  else items.mergeSort fun a b => order a b != .gt

/-- The order, or its reverse. -/
def directed (reversed : Bool) (order : Ordering) : Ordering :=
  if reversed then order.swap else order

/-- What an item has under a path, if there is one. -/
def keyOf (path? : Option String) (v : Value) : Outcome :=
  match path? with
  | none => .ok v
  | some path => v.path path

/-- What an item has under a path, or something else if that is missing. -/
def keyOr (path? : Option String) (default v : Value) : Value :=
  match keyOf path? v with
  | .ok key => if key.isUndefined then default else key
  | .error _ => default

/-- The paths in a text with commas between them; without a text, the one to the item itself. -/
def pathsIn (text? : Option String) : List (Option String) :=
  match text? with
  | none => [none]
  | some text => (text.toList.splitOn ',').map fun path => some (.ofList (Text.trim path))

/-- The order by what comes first in it. A key that is missing on either side does not count. -/
def orderByKeys (sensitive : Bool) (a b : List (Except Fault Value)) : Ordering :=
  (a.zip b).foldl (fun before keys =>
    match keys with
    | (.ok key, .ok other) => before.then (orderOf sensitive key other)
    | _ => before) .eq

/-- Sorts by what is under one or more paths. -/
def sort (rules : Rules) (v : Value) (a : Arguments) : Outcome := do
  a.namedOnly ["attribute", "case_sensitive", "reverse"]
  let items ← v.items rules
  let paths := pathsIn (← a.name? "attribute")
  let sensitive ← a.flag "case_sensitive"
  let reversed ← a.flag "reverse"
  let keyed := items.map fun item => (paths.map (keyOf · item), item)
  let sorted := sortedBy (fun a b => directed reversed (orderByKeys sensitive a.1 b.1)) keyed
  return .ofList (sorted.map (·.2))

/-- The entries of a map by their values, if asked, or else by their keys. -/
def dictsort (_ : Rules) (v : Value) (a : Arguments) : Outcome := do
  a.namedOnly ["by", "case_sensitive", "reverse"]
  match v.entries? with
  | some entries =>
    let byValue := (← a.name? "by") == some "value"
    let sensitive ← a.flag "case_sensitive"
    let reversed ← a.flag "reverse"
    let key (e : Value × Value) : Value := if byValue then e.2 else e.1
    let order (a b : Value × Value) : Ordering :=
      directed reversed (orderOf sensitive (key a) (key b))
    return .ofList ((sortedBy order entries).map pair)
  | none => throw (.unfit "dictsort")

/-- The item that is left when each one takes the place of the one before it if it is better. -/
def best (better : Ordering → Bool) : List Value → Value
  | [] => .undefined false
  | v :: rest => rest.foldl (fun best v => if better (v.order best) then v else best) v

/-- Drops the items whose key occurred before. -/
def distinct : (seen : List Value) → List (Value × Value) → List Value
  | _, [] => []
  | seen, (key, item) :: rest =>
    if seen.any fun other => other.order key == .eq then distinct seen rest
    else item :: distinct (key :: seen) rest

def unique (rules : Rules) (v : Value) (a : Arguments) : Outcome := do
  a.namedOnly ["attribute", "case_sensitive"]
  let path? ← a.name? "attribute"
  let sensitive ← a.flag "case_sensitive"
  let key (item : Value) : Value :=
    match keyOr path? (.undefined false) item with
    | .text s _ => .ofText (if sensitive then s else Text.lowercase s)
    | key => key
  return .ofList (distinct [] ((← v.items rules).map fun item => (key item, item)))

/-- Groups neighbours with one key, each group under the key of its last member. -/
def grouped (sensitive : Bool) : List (Value × Value) → List (Value × List Value)
  | [] => []
  | (key, item) :: rest =>
    match rest, grouped sensitive rest with
    | (next, _) :: _, (last, members) :: groups =>
      if orderOf sensitive key next == .eq then (last, item :: members) :: groups
      else (key, [item]) :: (last, members) :: groups
    | _, _ => [(key, [item])]

/-- Groups by what is under a path, which may be given by its place or by name. -/
def groupby (rules : Rules) (v : Value) (a : Arguments) : Outcome := do
  let place? ← Arguments.optional rules (← Arguments.atMost 1 a.positional).head?
  a.namedOf (["attribute", "default", "case_sensitive"].drop place?.toList.length)
  let path? ← match place? with
    | some name => some <$> name.asName
    | none => a.name? "attribute"
  if path?.isNone then throw (.unfit "groupby")
  let default := (a.named? "default").getD (.undefined false)
  let sensitive ← a.flag "case_sensitive"
  let keyed := (← v.lenientItems).map fun item => (keyOr path? default item, item)
  let sorted := sortedBy (fun a b => orderOf sensitive a.1 b.1) keyed
  return .ofList ((grouped sensitive sorted).map fun (key, members) => .group none key members)

/-! ## Cutting and joining -/

/-- Runs of a length, the last one shorter. -/
def runs (length : Nat) : (steps : Nat) → List Value → List (List Value)
  | 0, _ => []
  | steps + 1, items =>
    if items.isEmpty then []
    else items.take length :: runs length steps (items.drop length)

def batch (rules : Rules) (v : Value) (a : Arguments) : Outcome := do
  let items ← v.items rules
  match ← a.upTo 2 with
  | count :: filler =>
    let count ← count.asCount
    let filler? := Arguments.given? filler.head?
    if count == 0 then throw (.unfit "batch")
    let filled (run : List Value) : List Value :=
      match filler? with
      | none => run
      | some filler => run ++ List.replicate (count - run.length) filler
    return .ofList ((runs count items.length items).map fun run => .ofList (filled run))
  | [] => throw (.unfit "batch")

/-- Runs of lengths that differ by one at most, the longer ones first. -/
def slice (rules : Rules) (v : Value) (a : Arguments) : Outcome := do
  let items ← v.items rules
  match ← a.upTo 2 with
  | count :: filler =>
    let count ← count.asCount
    let filler? := Arguments.given? filler.head?
    if count == 0 then throw (.unfit "slice")
    let short := items.length / count
    let longer := items.length % count
    let run (i : Nat) : List Value :=
      if i < longer then (items.drop (i * (short + 1))).take (short + 1)
      else (items.drop (i * short + longer)).take short ++ filler?.toList
    return .ofList ((List.range count).map fun i => .ofList (run i))
  | [] => throw (.unfit "slice")

/-- The items of a part of a chain. A part that has none is noticed by whoever uses its item. -/
def chainedItems (v : Value) : List Value :=
  v.items?.getD [.invalid (match v with
    | .boolean _ => "bool"
    | .integer _ | .float _ | .lowest => "number"
    | .invalid _ => "invalid value"
    | _ => "plain object")]

/-- All entries of some maps, the later of two of one key counting, or all items one after the
other, whose number only lists know beforehand. -/
def chain (_ : Rules) (v : Value) (a : Arguments) : Outcome := do
  let parts := v :: a.all
  match parts.mapM Value.entries? with
  | some entries => return .ofEntries entries.flatten
  | none =>
    let items := parts.flatMap chainedItems
    return if parts.all Value.isSequence then .ofList items else .stream none false items

/-- The items at one position of several lists, as long as all of them have one. -/
def zip (_ : Rules) (v : Value) (a : Arguments) : Outcome := do
  let parts := v :: a.all
  let columns := (← parts.mapM Value.lenientItems).map List.toArray
  let length := (columns.map Array.size).min?.getD 0
  let row (i : Nat) : Value := .ofList (columns.filterMap (·[i]?))
  return .stream none (parts.all (·.length?.isSome)) ((List.range length).map row)

/-! ## Choosing -/

/-- Keeps the items that pass a test, or that are true if there is none, or else the others. -/
def choose (isFilter : String → Bool) (byField keeps : Bool) (rules : Rules) (v : Value)
    (a : Arguments) : Outcome := do
  let (path?, given) ← match byField, a.positional with
    | false, given => pure (none, given)
    | true, path :: given => do pure (some (← path.asText rules), given)
    | true, [] => throw (.unfit "arguments")
  if given.isEmpty && a.entries?.isSome then throw (.unfit "arguments")
  let passes ← match ← Arguments.optional rules given.head? with
    | none => pure fun (v : Value) => .ok v.isTrue
    | some name => do
      let name ← name.asText rules
      match Test.find? isFilter name with
      | some test => pure fun v => test rules v { a with positional := given.drop 1 }
      | none => throw (.unknownTest name)
  let kept ← (← v.items rules).filterM fun item => do
    return (← passes (← keyOf path? item)) == keeps
  return .ofList kept

/-- The part of every item under a name, or what a filter makes of every item. -/
def map (find? : String → Option Filter) (rules : Rules) (v : Value) (a : Arguments) :
    Outcome := do
  match a.named? "attribute" with
  | some key =>
    if !a.positional.isEmpty then throw (.unfit "map")
    a.namedOf ["attribute", "default"]
    let default := (a.named.lookup "default").getD (.undefined false)
    let part (item : Value) : Outcome :=
      match key with
      | .text name _ => item.path name
      | key => item.item key
    return .ofList (← (← v.items rules).mapM fun item =>
      match part item with
      | .ok found => .ok (if found.isUndefined then default else found)
      | .error e => if default.isUndefined then .error e else .ok default)
  | none =>
    match a.positional with
    | .text name _ :: rest =>
      match find? name with
      | some filter =>
        return .ofList (← (← v.items rules).mapM fun item =>
          filter rules item ⟨rest, none⟩)
      | none => throw (.unknownFilter name)
    | _ => throw (.unfit "map")

/-! ## All filters -/

/-- Puts another value in place of an undefined one or, if asked, of one that is not true. -/
def default (rules : Rules) (v : Value) (a : Arguments) : Outcome := do
  let given ← a.upTo 2
  let other := given[0]?.getD (.ofText "")
  let lax ← (given[1]?.getD (Value.boolean false)).truth rules
  return if v.isUndefined || (lax && !v.isTrue) then other else v

def sequence? : String → Option Filter
  | "length" | "count" => some length
  | "items" => some items
  | "first" => some first
  | "last" => some last
  | "reverse" => some reverse
  | "attr" => some attr
  | "join" => some join
  | "sum" => some sum
  | "sort" => some sort
  | "dictsort" => some dictsort
  | "min" => some fun rules v a => do
    a.none
    return best (· == .lt) (← v.items rules)
  | "max" => some fun rules v a => do
    a.none
    return best (· != .lt) (← v.items rules)
  | "unique" => some unique
  | "groupby" => some groupby
  | "batch" => some batch
  | "slice" => some slice
  | "chain" => some chain
  | "zip" => some zip
  | "list" => some fun rules v a => do
    a.none
    return .ofList (← v.items rules)
  | "default" | "d" => some default
  | _ => none

/-- The names of the filters that call other filters or tests. -/
def higherNames : List String := ["map", "select", "reject", "selectattr", "rejectattr"]

/-- The filters that call no others. -/
def plain? (name : String) : Option Filter :=
  if name == "format" then some format else text? name <|> number? name <|> sequence? name

def isName (name : String) : Bool := (plain? name).isSome || higherNames.contains name

/-- The filter under a name. Filters that call filters may nest to a depth. -/
def findWithin? : (depth : Nat) → String → Option Filter
  | 0, _ => none
  | depth + 1, name =>
    match plain? name with
    | some filter => some filter
    | none =>
      match name with
      | "map" => some (map (findWithin? depth))
      | "select" => some (choose isName false true)
      | "reject" => some (choose isName false false)
      | "selectattr" => some (choose isName true true)
      | "rejectattr" => some (choose isName true false)
      | _ => none

/-- The deepest nesting that a template may ask for. -/
def mostNested : Nat := 64

def find? (name : String) : Option Filter := findWithin? mostNested name

end TagWeave.Template.Filter
