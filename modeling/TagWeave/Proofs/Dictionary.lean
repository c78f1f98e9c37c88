import Mathlib.Data.List.Sort
import TagWeave.Dictionary

/-!
# Laws of dictionaries

What the operations do to the entries and to single values. A dictionary is put together again from
its entries (`ofList_entries`), and it is known from its values (`ext_get?`). Of several entries
written under one key the last one counts (`get?_ofList`).
-/

namespace TagWeave.Dictionary

variable {α : Type u} {β : Type v} {d other : Dictionary α} {key name : String} {value : α}
  {entries : List (String × α)} {P : String × α → Prop}

instance [DecidableEq α] : DecidableEq (Dictionary α) := fun a b =>
  decidable_of_iff (a.entries = b.entries) ⟨eq_of_entries, congrArg _⟩

/-! ## All entries -/

theorem forall_insert (h : ∀ e ∈ d.entries, P e) (hnew : P (key, value)) :
    ∀ e ∈ (d.insert key value).entries, P e := by
  intro e he
  rcases mem_put he with rfl | he
  · exact hnew
  · exact h e he

theorem forall_foldl_insert {entries : List (String × α)} (h : ∀ e ∈ d.entries, P e)
    (hnew : ∀ e ∈ entries, P e) :
    ∀ e ∈ (entries.foldl (fun d (key, value) => d.insert key value) d).entries, P e := by
  induction entries generalizing d with
  | nil => exact h
  | cons entry entries ih =>
    obtain ⟨hentry, hnew⟩ := List.forall_mem_cons.mp hnew
    exact ih (forall_insert h hentry) hnew

theorem forall_filter {p : String × α → Bool} (h : ∀ e ∈ d.entries, P e) :
    ∀ e ∈ (d.filter p).entries, P e := fun e he => h e (List.mem_filter.mp he).1

theorem forall_merge {overwrite : Bool} (h : ∀ e ∈ d.entries, P e)
    (hother : ∀ e ∈ other.entries, P e) : ∀ e ∈ (d.merge other overwrite).entries, P e := by
  unfold merge
  generalize other.entries = entries at hother
  induction entries generalizing d with
  | nil => exact h
  | cons entry entries ih =>
    obtain ⟨hentry, hentries⟩ := List.forall_mem_cons.mp hother
    refine ih ?_ hentries
    dsimp only
    split
    · exact forall_insert h hentry
    · exact h

/-! ## Single values -/

theorem lookup_put : (put key value entries).lookup key = some value := by
  induction entries with
  | nil => simp [put]
  | cons entry entries ih =>
    obtain ⟨k, v⟩ := entry
    unfold put
    split
    · rename_i hlt
      have hne : key ≠ k := fun h => String.lt_irrefl k (h ▸ hlt)
      rw [List.lookup_cons, beq_false_of_ne hne]
      exact ih
    · split <;> simp

theorem lookup_put_of_ne (h : name ≠ key) :
    (put key value entries).lookup name = entries.lookup name := by
  induction entries with
  | nil => simp [put, List.lookup_cons, beq_false_of_ne h]
  | cons entry entries ih =>
    obtain ⟨k, v⟩ := entry
    unfold put
    split
    · rw [List.lookup_cons, List.lookup_cons, ih]
    · split
      · rename_i heq
        rw [List.lookup_cons, List.lookup_cons, heq, beq_false_of_ne h]
      · rw [List.lookup_cons, beq_false_of_ne h]

@[simp] theorem get?_insert : (d.insert key value).get? key = some value := lookup_put

theorem get?_insert_of_ne (h : name ≠ key) : (d.insert key value).get? name = d.get? name :=
  lookup_put_of_ne h

@[simp] theorem get?_erase : (d.erase key).get? key = none := by
  have hout : ∀ e ∈ (d.erase key).entries, e.1 ≠ key := fun e he =>
    bne_iff_ne.mp (List.mem_filter.mp he).2
  unfold get?
  generalize (d.erase key).entries = entries at hout
  induction entries with
  | nil => rfl
  | cons entry entries ih =>
    obtain ⟨hne, hrest⟩ := List.forall_mem_cons.mp hout
    rw [List.lookup_cons, beq_false_of_ne hne.symm]
    exact ih hrest

theorem get?_erase_of_ne (h : name ≠ key) : (d.erase key).get? name = d.get? name := by
  show (d.entries.filter (·.1 != key)).lookup name = d.entries.lookup name
  induction d.entries with
  | nil => rfl
  | cons entry entries ih =>
    rw [List.filter_cons, List.lookup_cons]
    split
    · rw [List.lookup_cons, ih]
    · rename_i heq
      have hne : name ≠ entry.1 := fun hname => heq (bne_iff_ne.mpr (hname ▸ h))
      rw [ih, beq_false_of_ne hne]

/-- An entry is found under its key, which no other entry has. -/
theorem lookup_eq_some_iff_mem (h : Increasing entries) :
    entries.lookup key = some value ↔ (key, value) ∈ entries := by
  induction entries with
  | nil => simp
  | cons entry entries ih =>
    obtain ⟨k, v⟩ := entry
    obtain ⟨hfirst, hrest⟩ := List.pairwise_cons.mp h
    rw [List.lookup_cons, List.mem_cons, Prod.mk.injEq]
    by_cases hkey : key = k
    · have hout : (key, value) ∉ entries := by
        intro hmem
        exact String.lt_irrefl k (hkey ▸ hfirst _ hmem)
      rw [beq_iff_eq.mpr hkey, or_iff_left hout, and_iff_right hkey]
      exact Option.some_inj.trans eq_comm
    · rw [beq_false_of_ne hkey, or_iff_right fun h => hkey h.1]
      exact ih hrest

theorem get?_eq_some_iff_mem : d.get? key = some value ↔ (key, value) ∈ d.entries :=
  lookup_eq_some_iff_mem d.increasing

theorem ext_get? (h : ∀ key, d.get? key = other.get? key) : d = other := by
  let below (a b : String × α) : Prop := a.1 < b.1
  have hirrefl : Std.Irrefl below := ⟨fun e => String.lt_irrefl e.1⟩
  have hantisymm : Std.Antisymm below :=
    ⟨fun a _ hab hba => absurd (String.lt_trans hab hba) (String.lt_irrefl a.1)⟩
  refine eq_of_entries (List.Pairwise.eq_of_mem_iff (r := below) d.increasing other.increasing ?_)
  intro (key, value)
  rw [← get?_eq_some_iff_mem, ← get?_eq_some_iff_mem, h]

/-- Values that are taken over count before those that are there. -/
theorem get?_merge_overwrite : (d.merge other true).get? name =
    (other.get? name).or (d.get? name) := by
  have hincreasing := other.increasing
  have hother : other.get? name = other.entries.lookup name := rfl
  unfold merge
  rw [hother]
  generalize other.entries = entries at hincreasing
  induction entries generalizing d with
  | nil => rfl
  | cons entry entries ih =>
    obtain ⟨hfirst, hrest⟩ := List.pairwise_cons.mp hincreasing
    rw [List.foldl_cons, ih hrest, List.lookup_cons]
    dsimp only
    rw [Bool.true_or, if_pos rfl]
    by_cases hname : name = entry.1
    · have hout : entries.lookup name = none := by
        refine List.lookup_eq_none_iff.mpr fun e he => bne_iff_ne.mpr ?_
        intro heq
        have hlt := hfirst e he
        rw [← hname, ← heq] at hlt
        exact String.lt_irrefl name hlt
      rw [hout, ← hname, beq_self_eq_true, get?_insert]
      rfl
    · rw [beq_false_of_ne hname, get?_insert_of_ne hname]

/-- Values that are there count before those that are taken over. -/
theorem get?_merge_keep : (d.merge other false).get? name =
    (d.get? name).or (other.get? name) := by
  have hother : other.get? name = other.entries.lookup name := rfl
  unfold merge
  rw [hother]
  induction other.entries generalizing d with
  | nil => exact Option.or_none.symm
  | cons entry entries ih =>
    rw [List.foldl_cons, ih, List.lookup_cons]
    dsimp only
    rw [Bool.false_or, contains]
    by_cases hname : name = entry.1
    · rw [← hname, beq_self_eq_true]
      cases hget : d.get? name with
      | none => simp
      | some value => simp [hget]
    · rw [beq_false_of_ne hname]
      split
      · rw [get?_insert_of_ne hname]
      · rfl

/-! ## Other values under the same keys -/

/-- The dictionary with a function applied to each value. -/
def mapValues (f : α → β) (d : Dictionary α) : Dictionary β :=
  ⟨d.entries.map fun (key, value) => (key, f value), by
    rw [Increasing, List.pairwise_map]
    exact d.increasing⟩

theorem entries_mapValues {f : α → β} :
    (d.mapValues f).entries = d.entries.map fun (key, value) => (key, f value) := rfl

@[simp] theorem get?_mapValues {f : α → β} : (d.mapValues f).get? key = (d.get? key).map f := by
  unfold get?
  rw [entries_mapValues]
  induction d.entries with
  | nil => rfl
  | cons entry entries ih =>
    rw [List.map_cons, List.lookup_cons, List.lookup_cons, ih]
    split <;> rfl

/-! ## One value under several keys -/

theorem get?_foldl_insert_const {names : List String} :
    ((names.map fun name => (name, value)).foldl (fun d (key, value) => d.insert key value) d).get?
      key = if key ∈ names then some value else d.get? key := by
  induction names generalizing d with
  | nil => simp
  | cons first names ih =>
    rw [List.map_cons, List.foldl_cons, ih]
    by_cases hrest : key ∈ names
    · simp [hrest]
    · by_cases hfirst : key = first
      · simp [hfirst]
      · simp [hrest, hfirst, get?_insert_of_ne hfirst]

/-- A dictionary with the same value under several keys. -/
theorem get?_ofList_const {names : List String} :
    (ofList (names.map fun name => (name, value))).get? key =
      if key ∈ names then some value else none :=
  get?_foldl_insert_const

/-! ## Entries one after the other -/

theorem put_last (h : ∀ e ∈ entries, e.1 < key) :
    put key value entries = entries ++ [(key, value)] := by
  induction entries with
  | nil => rfl
  | cons entry entries ih =>
    obtain ⟨hlt, hrest⟩ := List.forall_mem_cons.mp h
    rw [put, if_pos hlt, ih hrest, List.cons_append]

theorem entries_foldl_insert (hd : ∀ e ∈ d.entries, ∀ e' ∈ entries, e.1 < e'.1)
    (hentries : Increasing entries) :
    (entries.foldl (fun d (key, value) => d.insert key value) d).entries =
      d.entries ++ entries := by
  induction entries generalizing d with
  | nil => exact (List.append_nil _).symm
  | cons entry entries ih =>
    obtain ⟨hfirst, hrest⟩ := List.pairwise_cons.mp hentries
    have hlast : (d.insert entry.1 entry.2).entries = d.entries ++ [entry] :=
      put_last fun e he => hd e he entry List.mem_cons_self
    have hbelow : ∀ e ∈ (d.insert entry.1 entry.2).entries, ∀ e' ∈ entries, e.1 < e'.1 :=
      forall_insert (fun e he e' he' => hd e he e' (List.mem_cons_of_mem entry he')) hfirst
    rw [List.foldl_cons, ih hbelow hrest, hlast, List.append_assoc, List.cons_append,
      List.nil_append]

theorem ofList_entries : ofList d.entries = d :=
  eq_of_entries (entries_foldl_insert (d := empty) (List.forall_mem_nil _) d.increasing)

theorem contains_of_below (h : ∀ e ∈ d.entries, e.1 < key) : d.contains key = false := by
  have hnone : d.get? key = none := by
    refine List.lookup_eq_none_iff.mpr fun e he => bne_iff_ne.mpr ?_
    intro heq
    exact String.lt_irrefl key (heq ▸ h e he)
  rw [contains, hnone]
  rfl

theorem merge_of_below {overwrite : Bool} (h : ∀ e ∈ d.entries, ∀ e' ∈ other.entries, e.1 < e'.1) :
    d.merge other overwrite =
      other.entries.foldl (fun d (key, value) => d.insert key value) d := by
  have hincreasing := other.increasing
  unfold merge
  generalize other.entries = entries at h hincreasing
  induction entries generalizing d with
  | nil => rfl
  | cons entry entries ih =>
    obtain ⟨hfirst, hrest⟩ := List.pairwise_cons.mp hincreasing
    have hbelow : ∀ e ∈ (d.insert entry.1 entry.2).entries, ∀ e' ∈ entries, e.1 < e'.1 :=
      forall_insert (fun e he e' he' => h e he e' (List.mem_cons_of_mem entry he')) hfirst
    have hfree : d.contains entry.1 = false :=
      contains_of_below fun e he => h e he entry List.mem_cons_self
    rw [List.foldl_cons, List.foldl_cons, ← ih hbelow hrest]
    simp [hfree]

/-- A dictionary without entries takes over everything. -/
theorem empty_merge {overwrite : Bool} : empty.merge d overwrite = d :=
  (merge_of_below (List.forall_mem_nil _)).trans ofList_entries

/-- Of two values put under one key the second counts. -/
theorem put_put {value' : α} :
    put key value' (put key value entries) = put key value' entries := by
  induction entries with
  | nil => simp [put]
  | cons entry entries ih =>
    obtain ⟨k, v⟩ := entry
    by_cases hlt : k < key
    · simp [put, hlt, ih]
    · by_cases heq : k = key
      · simp [put, heq]
      · simp [put, hlt, heq]

theorem insert_insert {value' : α} :
    (d.insert key value).insert key value' = d.insert key value' := eq_of_entries put_put

end TagWeave.Dictionary

namespace TagWeave

/-! ## Several values under one key -/

/-- The last value written for a name. -/
def lastWritten (attributes : List (String × String)) (name : String) : Option String :=
  attributes.reverse.lookup name

variable {attributes : List (String × String)} {key raw name : String}

theorem lastWritten_cons : lastWritten ((key, raw) :: attributes) name =
    (lastWritten attributes name).or (if name = key then some raw else none) := by
  rw [lastWritten, lastWritten, List.reverse_cons, List.lookup_append]
  by_cases h : name = key
  · simp [h]
  · simp [List.lookup_cons, beq_false_of_ne h, h]

namespace Dictionary

theorem get?_foldl_insert {d : Dictionary String} :
    (attributes.foldl (fun d (key, value) => d.insert key value) d).get? name =
      (lastWritten attributes name).or (d.get? name) := by
  induction attributes generalizing d with
  | nil => rfl
  | cons entry attributes ih =>
    rw [List.foldl_cons, ih, lastWritten_cons, Option.or_assoc]
    by_cases hname : name = entry.1
    · rw [hname, get?_insert, if_pos rfl, Option.some_or]
    · rw [get?_insert_of_ne hname, if_neg hname, Option.none_or]

theorem mem_of_lastWritten {value : String} (h : lastWritten attributes name = some value) :
    (name, value) ∈ attributes := by
  obtain ⟨_, _, hsplit, -⟩ := List.lookup_eq_some_iff.mp h
  rw [← List.mem_reverse, hsplit]
  exact List.mem_append_cons_self

theorem get?_ofList : (ofList attributes).get? name = lastWritten attributes name :=
  get?_foldl_insert.trans Option.or_none

/-- A dictionary of the last values is the one that the entries make. -/
theorem eq_ofList_iff {d : Dictionary String} :
    d = ofList attributes ↔ ∀ name, d.get? name = lastWritten attributes name := by
  constructor
  · rintro rfl name
    exact get?_ofList
  · intro h
    exact ext_get? fun name => (h name).trans get?_ofList.symm

end Dictionary

end TagWeave
