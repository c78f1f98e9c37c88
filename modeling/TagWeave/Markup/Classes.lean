import TagWeave.Markup.Attributes

/-!
# Classes of an element

Distinct tokens in the order in which they were added.
-/

namespace TagWeave

structure ClassSet where
  tokens : List String
  nodup : tokens.Nodup
  deriving DecidableEq

namespace ClassSet

def empty : ClassSet := ⟨[], .nil⟩

instance : Inhabited ClassSet := ⟨empty⟩

def size (classes : ClassSet) : Nat := classes.tokens.length

def isEmpty (classes : ClassSet) : Bool := classes.tokens.isEmpty

def contains (classes : ClassSet) (token : String) : Bool := classes.tokens.contains token

def get? (classes : ClassSet) (index : Nat) : Option String := classes.tokens[index]?

/-- Adds a token at the end unless it is there. -/
def insert (classes : ClassSet) (token : String) : ClassSet :=
  if h : token ∈ classes.tokens then classes
  else
    ⟨classes.tokens ++ [token], by
      refine List.nodup_append.mpr ⟨classes.nodup, by simp, ?_⟩
      rintro a ha b hb rfl
      exact h (List.mem_singleton.mp hb ▸ ha)⟩

/-- Takes a token out; the others keep their order. -/
def erase (classes : ClassSet) (token : String) : ClassSet :=
  ⟨classes.tokens.erase token, classes.nodup.erase token⟩

/-- Takes out the token at a place. -/
def eraseAt (classes : ClassSet) (index : Nat) : ClassSet :=
  ⟨classes.tokens.eraseIdx index, classes.nodup.eraseIdx index⟩

/-- Moves the token at a place to another one. -/
def move (classes : ClassSet) (source target : Nat) : ClassSet :=
  if h : source < classes.tokens.length ∧ target < classes.tokens.length then
    ⟨(classes.tokens.eraseIdx source).insertIdx target classes.tokens[source], by
      have hle : target ≤ (classes.tokens.eraseIdx source).length := by
        rw [List.length_eraseIdx_of_lt h.1]
        omega
      refine (List.perm_insertIdx classes.tokens[source] _ hle).nodup_iff.mpr
        (List.nodup_cons.mpr ⟨fun hmem => ?_, classes.nodup.eraseIdx source⟩)
      obtain ⟨other, hne, hother⟩ := List.mem_eraseIdx_iff_getElem?.mp hmem
      have hsame := (List.getElem?_eq_getElem h.1).trans hother.symm
      exact hne ((List.getElem?_inj h.1 classes.nodup).mp hsame).symm⟩
  else classes

def union (classes other : ClassSet) : ClassSet := other.tokens.foldl insert classes

/-- Adds tokens one by one. A token that is no name ends it with an error, and those before it
stay. -/
def addTokens (classes : ClassSet) : List String → Except AttributeError Unit × ClassSet
  | [] => (.ok (), classes)
  | token :: rest =>
    let token := Text.trimmed token
    if isName token then (classes.insert token).addTokens rest
    else (.error (.invalidClass token), classes)

/-- Adds the words of a text as tokens. -/
def addWords (classes : ClassSet) (text : String) : Except AttributeError ClassSet :=
  match classes.addTokens ((Text.words text.toList).map String.ofList) with
  | (.ok (), classes) => .ok classes
  | (.error e, _) => .error e

def parse (text : String) : Except AttributeError ClassSet := empty.addWords text

def removeTokens (classes : ClassSet) (tokens : List String) : ClassSet :=
  tokens.foldl (fun classes token => classes.erase (Text.trimmed token)) classes

/-- Takes a token out if it is there as written, else adds it. Tells whether it was added. -/
def toggle (classes : ClassSet) (token : String) : Except AttributeError Bool × ClassSet :=
  if classes.contains token then (.ok false, classes.erase token)
  else
    match classes.addTokens [token] with
    | (.ok (), classes) => (.ok true, classes)
    | (.error e, classes) => (.error e, classes)

/-- Puts `new` in the place of `old`, and tells whether `old` is there: `new` is added, moved to the
place, and then `old` stands behind it and is taken out. If `new` is there already, `old` is only
taken out. -/
def replace (classes : ClassSet) (old new : String) : Except AttributeError Bool × ClassSet :=
  let new := Text.trimmed new
  if !isName new then (.error (.invalidClass new), classes)
  else
    match classes.tokens.idxOf? old with
    | none => (.ok false, classes)
    | some index =>
      if classes.contains new then (.ok true, classes.eraseAt index)
      else
        let added := classes.insert new
        (.ok true, (added.move (added.size - 1) index).eraseAt (index + 1))

/-- The tokens with a space between them. -/
def write (classes : ClassSet) : String := " ".intercalate classes.tokens

end ClassSet

end TagWeave
