import TagWeave.Template.Value.Identity

/-!
# Order and equality of values, and their parts

Numbers are compared by their exact values, and containers by what is in them: the order of a map
does not count, and all that is like a map may equal one. A container equals itself, whatever is in
it. Values of different kinds are ordered by their kinds.
-/

namespace TagWeave.Template.Value

/-! ## Numbers -/

/-- Truth values count as zero and one. -/
def asInteger? : Value → Option Int
  | .boolean b => some (if b then 1 else 0)
  | .integer n => some n
  | _ => Option.none

def asFloat? : Value → Option Float
  | .float x => some x
  | .lowest => some Number.notANumber
  | v => v.asInteger?.map Float.ofInt

/-- Two operands of one kind. -/
inductive Pair
  | integers (a b : Int)
  | floats (a b : Float)
  | texts (a b : String)

/-- The two values as operands of one kind: floating-point numbers if one of them is. -/
def pair? (a b : Value) : Option Pair :=
  match a, b with
  | .text a _, .text b _ => some (.texts a b)
  | a, b =>
    if a.isFloat || b.isFloat then a.asFloat?.bind fun a => b.asFloat?.map (.floats a)
    else a.asInteger?.bind fun a => b.asInteger?.map (.integers a)

/-- A number that orders floating-point numbers. Both zeros have the same, and what is not a number
has the greatest. -/
def floatKey (x : Float) : Int :=
  let bits := x.toBits.toNat
  if Nat.pow 2 63 ≤ bits then Int.pow 2 63 - (bits : Int) else bits

/-- The order of an integer and a floating-point number. What is not finite lies beyond all
integers. -/
def orderMixed (n : Int) (x : Float) : Ordering :=
  if x.isFinite then
    let (mantissa, exponent) := Number.binaryParts x
    let signed : Int := if x < 0.0 then -(mantissa : Int) else mantissa
    compare (n * Int.pow 2 (-exponent).toNat) (signed * Int.pow 2 exponent.toNat)
  else if floatKey x < 0 then .gt
  else .lt

/-- The order of two numbers or truth values. -/
def orderNumbers (a b : Value) : Ordering :=
  match a, b with
  | .lowest, .lowest => .eq
  | .lowest, _ => .lt
  | _, .lowest => .gt
  | .float x, .float y => compare (floatKey x) (floatKey y)
  | .float x, b => (b.asInteger?.map fun n => (orderMixed n x).swap).getD .eq
  | a, .float y => (a.asInteger?.map (orderMixed · y)).getD .eq
  | a, b => (a.asInteger?.bind fun n => b.asInteger?.map (compare n)).getD .eq

/-- Whether two values are numbers or truth values with one value. -/
def sameNumber (a b : Value) : Bool :=
  match a, b with
  | .float x, .float y => x == y
  | .float x, b => b.asInteger?.any (orderMixed · x == .eq)
  | a, .float y => a.asInteger?.any (orderMixed · y == .eq)
  | a, b => (a.asInteger?.bind fun n => b.asInteger?.map (n == ·)).getD false

/-! ## All values -/

mutual

/-- The value with all that is like a map as a map, and groups as lists. -/
def expanded : Value → Value
  | .list mark? items => .list mark? (expandedItems items)
  | .stream mark? sized items => .stream mark? sized (expandedItems items)
  | .map mark? entries => .map mark? (expandedEntries entries)
  | .space _ entries => .map Option.none (expandedEntries entries)
  | .group mark? key members => .list mark? [key.expanded, ofStream (expandedItems members)]
  | .loop _ index length? depth previous next =>
    .map Option.none (loopEntries index length? depth previous.expanded next.expanded)
  | .routine name _ parameters callsBack =>
    .map Option.none (routineEntries name parameters callsBack)
  | v => v

def expandedItems : List Value → List Value
  | [] => []
  | item :: rest => item.expanded :: expandedItems rest

def expandedEntries : List (Value × Value) → List (Value × Value)
  | [] => []
  | (key, value) :: rest => (key.expanded, value.expanded) :: expandedEntries rest

end

/-- The place of a kind among all kinds. -/
def rank : Value → Nat
  | .undefined _ => 0
  | .none => 1
  | .boolean _ => 2
  | .integer _ | .float _ | .lowest => 3
  | .text .. => 4
  | .list .. | .group .. => 5
  | .map .. | .space .. | .loop .. | .routine .. => 6
  | .stream .. => 7
  | .builtin _ => 8
  | .invalid _ => 9

mutual

/-- The order of expanded values. -/
def orderExpanded : Value → Value → Ordering
  | .list _ a, .list _ b | .stream _ _ a, .stream _ _ b => orderItems a b
  | .map _ a, .map _ b => orderEntries a b
  | .text a _, .text b _ => compare a b
  | a, b => (compare a.rank b.rank).then (orderNumbers a b)

def orderItems : List Value → List Value → Ordering
  | [], [] => .eq
  | [], _ => .lt
  | _, [] => .gt
  | a :: as, b :: bs => (orderExpanded a b).then (orderItems as bs)

def orderEntries : List (Value × Value) → List (Value × Value) → Ordering
  | [], [] => .eq
  | [], _ => .lt
  | _, [] => .gt
  | (k, a) :: as, (l, b) :: bs =>
    ((orderExpanded k l).then (orderExpanded a b)).then (orderEntries as bs)

end

def order (a b : Value) : Ordering := orderExpanded a.expanded b.expanded

/-- The value of a key. -/
def lookup? (key : Value) (entries : List (Value × Value)) : Option Value :=
  (entries.find? fun e => e.1.order key == .eq).map (·.2)

mutual

/-- Equality of expanded values. -/
def sameExpanded : Value → Value → Bool
  | .undefined _, .undefined _ => true
  | .none, .none => true
  | .text a _, .text b _ => a == b
  | .builtin a, .builtin b => a == b
  | .list m a, .list n b | .list m a, .stream n _ b | .stream m _ a, .list n b
  | .stream m _ a, .stream n _ b => m.isSome && m == n || sameItems a b
  | .map m a, .map n b => m.isSome && m == n || a.length == b.length && agree a b
  | a, b => sameNumber a b

def sameItems : List Value → List Value → Bool
  | [], [] => true
  | a :: as, b :: bs => sameExpanded a b && sameItems as bs
  | _, _ => false

/-- Whether every entry has an equal one under its key. -/
def agree : List (Value × Value) → List (Value × Value) → Bool
  | [], _ => true
  | (key, value) :: rest, others =>
    (match lookup? key others with
      | some other => sameExpanded value other
      | Option.none => false) && agree rest others

end

def same (a b : Value) : Bool := a.isIdentical b || sameExpanded a.expanded b.expanded

/-- Whether two lists have equal items. -/
def sameLists (a b : List Value) : Bool := (ofList a).same (ofList b)

/-! ## Maps -/

/-- Writes an entry at its place, or a value under a key that is there already. -/
def putEntry (key value : Value) : List (Value × Value) → List (Value × Value)
  | [] => [(key, value)]
  | (k, v) :: rest =>
    match k.order key with
    | .lt => (k, v) :: putEntry key value rest
    | .eq => (k, value) :: rest
    | .gt => (key, value) :: (k, v) :: rest

/-- Entries in order, the last one counting of those with one key. -/
def sortEntries (entries : List (Value × Value)) : List (Value × Value) :=
  entries.foldl (fun m (key, value) => putEntry key value m) []

def ofEntries (entries : List (Value × Value)) : Value := .map Option.none (sortEntries entries)

/-! ## Parts -/

/-- An integer, also one written as another kind of number. -/
def asIndex? : Value → Option Int
  | .float x =>
    if x == Number.truncate x && x.abs ≤ 9223372036854775808.0 then
      let (mantissa, exponent) := Number.binaryParts x
      let size := mantissa * Nat.pow 2 exponent.toNat / Nat.pow 2 (-exponent).toNat
      some (if x < 0.0 then -(size : Int) else min size (Nat.pow 2 63 - 1))
    else Option.none
  | v => v.asInteger?

/-- The item at a position; negative positions count from the end. -/
def at? (items : List α) (position : Int) : Option α :=
  if position < 0 then
    if items.length < position.natAbs then Option.none else items[items.length - position.natAbs]?
  else items[position.toNat]?

/-- The part of a value under a name. -/
def field? (name : String) : Value → Option Value
  | .group _ key members =>
    if name == "grouper" then some key
    else if name == "list" then some (ofStream members)
    else Option.none
  | v => v.entries?.bind (lookup? (ofText name))

/-- The part of a value under a key. -/
def item? (v key : Value) : Option Value :=
  match v, key with
  | .text s _, key => key.asIndex?.bind fun i => (at? s.toList i).map fun c => ofChars [c]
  | .group .., .text name _ => v.field? name
  | .stream _ false items, key => (key.asIndex?.filter (0 ≤ ·)).bind (at? items)
  | v, key =>
    match v.sequence? with
    | some items => key.asIndex?.bind (at? items)
    | Option.none => v.entries?.bind (lookup? key)

end TagWeave.Template.Value
