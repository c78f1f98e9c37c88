/-!
# Dictionaries

Texts with a value each, ordered by text. The order is part of the type, so two dictionaries with
the same entries are equal and are written alike.
-/

namespace TagWeave

/-- Entries with strictly increasing keys. -/
def Increasing (entries : List (String × α)) : Prop := entries.Pairwise (·.1 < ·.1)

structure Dictionary (α : Type u) where
  entries : List (String × α)
  increasing : Increasing entries

namespace Dictionary

theorem lt_of_not_lt_of_ne {a b : String} (h : ¬a < b) (hne : a ≠ b) : b < a := by
  apply Classical.byContradiction
  intro h'
  exact hne (String.le_antisymm (String.not_lt.mp h') (String.not_lt.mp h))

/-- Writes an entry at its place in a list of entries, over one of the same key. -/
def put (key : String) (value : α) : List (String × α) → List (String × α)
  | [] => [(key, value)]
  | (k, v) :: rest =>
    if k < key then (k, v) :: put key value rest
    else if k = key then (key, value) :: rest
    else (key, value) :: (k, v) :: rest

theorem mem_put {e : String × α} {key value} {entries : List (String × α)}
    (h : e ∈ put key value entries) : e = (key, value) ∨ e ∈ entries := by
  induction entries with
  | nil => simpa [put] using h
  | cons x rest ih =>
    obtain ⟨k, v⟩ := x
    unfold put at h
    split at h
    · rcases List.mem_cons.mp h with h | h
      · exact .inr (h ▸ List.mem_cons_self)
      · exact (ih h).imp_right (List.mem_cons_of_mem _)
    · split at h
      · exact (List.mem_cons.mp h).imp_right (List.mem_cons_of_mem _)
      · exact List.mem_cons.mp h

theorem increasing_put {key value} {entries : List (String × α)} (h : Increasing entries) :
    Increasing (put key value entries) := by
  induction entries with
  | nil => simp [put, Increasing]
  | cons x rest ih =>
    obtain ⟨k, v⟩ := x
    obtain ⟨head, tail⟩ := List.pairwise_cons.mp h
    unfold put
    split
    · rename_i hk
      refine List.pairwise_cons.mpr ⟨fun e he => ?_, ih tail⟩
      rcases mem_put he with rfl | he
      · exact hk
      · exact head e he
    · rename_i hk
      split
      · rename_i heq
        subst heq
        exact List.pairwise_cons.mpr ⟨head, tail⟩
      · rename_i hne
        have hlt : key < k := lt_of_not_lt_of_ne hk hne
        refine List.pairwise_cons.mpr ⟨fun e he => ?_, h⟩
        rcases List.mem_cons.mp he with rfl | he
        · exact hlt
        · exact String.lt_trans hlt (head e he)

def empty : Dictionary α := ⟨[], .nil⟩

instance : Inhabited (Dictionary α) := ⟨empty⟩

/-- Equal entries make equal dictionaries. -/
theorem eq_of_entries {a b : Dictionary α} (h : a.entries = b.entries) : a = b := by
  cases a; cases b; cases h; rfl

def insert (d : Dictionary α) (key : String) (value : α) : Dictionary α :=
  ⟨put key value d.entries, increasing_put d.increasing⟩

def get? (d : Dictionary α) (key : String) : Option α := d.entries.lookup key

def contains (d : Dictionary α) (key : String) : Bool := (d.get? key).isSome

def filter (d : Dictionary α) (p : String × α → Bool) : Dictionary α :=
  ⟨d.entries.filter p, d.increasing.filter p⟩

def erase (d : Dictionary α) (key : String) : Dictionary α := d.filter (·.1 != key)

def size (d : Dictionary α) : Nat := d.entries.length

def isEmpty (d : Dictionary α) : Bool := d.entries.isEmpty

/-- The later of two entries of one key counts. -/
def ofList (entries : List (String × α)) : Dictionary α :=
  entries.foldl (fun d (key, value) => d.insert key value) empty

/-- Takes over the entries of `other`; those whose key is taken only if `overwrite` is set. -/
def merge (d other : Dictionary α) (overwrite : Bool) : Dictionary α :=
  other.entries.foldl
    (fun d (key, value) => if overwrite || !d.contains key then d.insert key value else d) d

end Dictionary

end TagWeave
