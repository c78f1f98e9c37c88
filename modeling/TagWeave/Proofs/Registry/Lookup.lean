import TagWeave.Component.Element
import TagWeave.Proofs.Text.Lowercase
import TagWeave.Registry

/-!
# Looking up registered types

A type is found under its own name (`name_of_lookup?`), whatever its counter says
(`find?_mapCounts`), and under the name of a new type that type is found (`find?_insert`). When a
component gets an id, nothing but a counter changes (`uncounted_identify`).
-/

namespace TagWeave.Registry

variable {r r' : Registry} {name n css : String} {d : Descriptor} {c : Component} {setup : Setup}
  {blueprint : Blueprint}

theorem mem_entries_of_find? (h : r.find? name = some d) : (name, d) ∈ r.entries := by
  obtain ⟨⟨key, found⟩, hfind, rfl⟩ := Option.map_eq_some_iff.mp h
  obtain rfl : key = name := by simpa using List.find?_some hfind
  exact List.mem_of_find?_eq_some hfind

theorem mem_descriptors_of_find? (h : r.find? name = some d) : d ∈ r.descriptors :=
  List.mem_map_of_mem (mem_entries_of_find? h)

/-- A registered type is stored under its own name. -/
theorem mem_entries_of_mem_descriptors (h : d ∈ r.descriptors) : (d.name, d) ∈ r.entries := by
  obtain ⟨⟨key, d⟩, hentry, rfl⟩ := List.mem_map.mp h
  obtain rfl : d.name = key := r.keyed _ hentry
  exact hentry

theorem name_of_find? (h : r.find? name = some d) : d.name = name :=
  r.keyed _ (mem_entries_of_find? h)

theorem lookup?_normalName : r.lookup? (normalName name) = r.find? (normalName name) := by
  rw [lookup?, normalName_normalName]

/-- A tag is looked up under the name of its type. -/
theorem name_of_lookup? (h : r.lookup? (normalName name) = some d) : d.name = normalName name :=
  name_of_find? (lookup?_normalName.symm.trans h)

theorem find?_mapCounts {step : String → Nat → Nat} : (r.mapCounts step).find? name =
    (r.find? name).map fun d => { d with count := step name d.count } := by
  show ((r.entries.map _).find? _).map Prod.snd = _
  rw [List.find?_map, find?, Option.map_map, Option.map_map]
  show (r.entries.find? fun entry => entry.1 == name).map _ = _
  refine Option.map_congr fun entry hentry => ?_
  have hkey : entry.1 = name := by simpa using List.find?_some hentry
  rw [← hkey]
  rfl

/-- What is stored last is found under its key unless something is found before it. -/
theorem find?_of_entries {key : String} (h : r'.entries = r.entries ++ [(key, d)]) :
    r'.find? n = (r.find? n).or (if key = n then some d else none) := by
  have hlast : ([(key, d)].find? (·.1 == n)).map Prod.snd = if key = n then some d else none := by
    by_cases hkey : key = n
    · simp [hkey]
    · simp [hkey]
  rw [find?, h, List.find?_append, Option.map_or, hlast, ← find?]

theorem entries_insert (h : r.find? name = none) : (r.insert name css blueprint).entries =
    r.entries ++ [(name, ⟨name, css, blueprint, 0⟩)] := by
  unfold insert
  rw [if_neg (by simp [h])]

theorem find?_insert (h : r.find? name = none) : (r.insert name css blueprint).find? n =
    if n = name then some ⟨name, css, blueprint, 0⟩ else r.find? n := by
  rw [find?_of_entries (entries_insert h)]
  by_cases hn : n = name
  · rw [hn, h, Option.none_or, if_pos rfl]
  · rw [if_neg hn, if_neg (Ne.symm hn), Option.or_none]

theorem insert_of_taken (h : (r.find? name).isSome) : r.insert name css blueprint = r := if_pos h

/-! ## Counting -/

theorem find?_countId : (r.countId name).find? n = (r.find? n).map fun d =>
    { d with count := if n = name then d.count + 1 else d.count } := find?_mapCounts

/-- The id of a component made from a tag: the one that it asks for, else the next of its type. -/
def identify (r : Registry) (d : Descriptor) (setup : Setup) : String × Registry :=
  match setup.chosenId? with
  | some id => (id, r)
  | none => r.nextId d

/-- The id of a component that is composed by itself. -/
def identifyRoot (r : Registry) (c : Component) : String × Registry :=
  match c.setup.chosenId? with
  | some id => (id, r)
  | none => r.nextIdFor c

/-- The registry with all counters at zero. -/
def uncounted (r : Registry) : Registry := { r.mapCounts fun _ _ => 0 with anonymous := 0 }

theorem find?_uncounted :
    r.uncounted.find? name = (r.find? name).map fun d => { d with count := 0 } := by
  show (r.mapCounts fun _ _ => 0).find? name = _
  exact find?_mapCounts

theorem reserved_of_uncounted (h : r'.uncounted = r.uncounted) : r'.reserved = r.reserved := by
  show r'.uncounted.reserved = r.uncounted.reserved
  rw [h]

theorem uncounted_countId : (r.countId name).uncounted = r.uncounted := by
  unfold uncounted countId mapCounts
  simp only [List.map_map, Registry.mk.injEq, true_and, and_true]
  exact List.map_congr_left fun _ _ => rfl

theorem uncounted_identify : (r.identify d setup).2.uncounted = r.uncounted := by
  unfold identify
  split
  · rfl
  · exact uncounted_countId

theorem uncounted_nextIdFor : (r.nextIdFor c).2.uncounted = r.uncounted := by
  unfold nextIdFor
  split
  · exact uncounted_countId
  · rfl

theorem uncounted_identifyRoot : (r.identifyRoot c).2.uncounted = r.uncounted := by
  unfold identifyRoot
  split
  · rfl
  · exact uncounted_nextIdFor

end TagWeave.Registry
