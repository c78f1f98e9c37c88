import TagWeave.Template.Value

/-!
# Which values are the same

Loops and namespaces change after they were put into other values, so what those hold of them has to
be looked at again. Containers do not change, but a mark tells each one that was given a name apart
from all others.
-/

namespace TagWeave.Template.Value

/-! ## Looking again -/

mutual

/-- The value with the loops and namespaces in it as `now` has them. -/
def refreshed (now : Value → Value) : Value → Value
  | .list mark? items => .list mark? (refreshedItems now items)
  | .stream mark? sized items => .stream mark? sized (refreshedItems now items)
  | .map mark? entries => .map mark? (refreshedEntries now entries)
  | .group mark? key members => .group mark? (key.refreshed now) (refreshedItems now members)
  | .loop cell index length? depth previous next =>
    now (.loop cell index length? depth previous next)
  | .space cell entries => now (.space cell entries)
  | v => v

def refreshedItems (now : Value → Value) : List Value → List Value
  | [] => []
  | item :: rest => item.refreshed now :: refreshedItems now rest

def refreshedEntries (now : Value → Value) : List (Value × Value) → List (Value × Value)
  | [] => []
  | (key, value) :: rest =>
    (key.refreshed now, value.refreshed now) :: refreshedEntries now rest

end

/-! ## Marks -/

/-- A mark that was not given before. -/
def newMark : StateM Nat (Option Nat) := modifyGet fun next => (some next, next + 1)

mutual

/-- The value with a mark on every container in it. What has one has been marked throughout. -/
def marked : Value → StateM Nat Value
  | .list Option.none items => do return .list (← newMark) (← markedItems items)
  | .stream Option.none sized items => do return .stream (← newMark) sized (← markedItems items)
  | .map Option.none entries => do return .map (← newMark) (← markedEntries entries)
  | .group Option.none key members => do
    return .group (← newMark) (← key.marked) (← markedItems members)
  | v => return v

def markedItems : List Value → StateM Nat (List Value)
  | [] => return []
  | item :: rest => do return (← item.marked) :: (← markedItems rest)

def markedEntries : List (Value × Value) → StateM Nat (List (Value × Value))
  | [] => return []
  | (key, value) :: rest => do
    return (← key.marked, ← value.marked) :: (← markedEntries rest)

end

/-- The mark of a container. -/
def mark? : Value → Option Nat
  | .list mark? _ | .stream mark? _ _ | .map mark? _ | .group mark? _ _ => mark?
  | _ => Option.none

/-- Whether two values are the same one, which no two containers without a mark are. -/
def isIdentical : Value → Value → Bool
  | .loop cell .., .loop other .. | .space cell _, .space other _ => cell == other
  | .routine _ number _ _, .routine _ other _ _ => number == other
  | .builtin function, .builtin other => function == other
  | a, b => a.mark?.isSome && a.mark? == b.mark?

end TagWeave.Template.Value
