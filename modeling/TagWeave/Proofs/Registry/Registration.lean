import TagWeave.Proofs.Registry.Lookup

/-!
# Registering components

What a registration does to a registry, and what no registration and no counting changes: a
registered type stays under its name (`Registry.Extends`), and all names begin with the reserved
characters (`Registry.Named`).
-/

namespace TagWeave.Registry

variable {r r' r'' : Registry} {raw name n css : String} {d : Descriptor} {blueprint : Blueprint}

/-! ## Registering -/

/-- A name that is registered is in normal form: the reserved characters and something more. -/
theorem validate_eq_ok (h : r.validate raw = .ok name) : name = normalName raw ∧
    isName name = true ∧ ∃ suffix, suffix ≠ [] ∧ name.toList = r.reserved.toList ++ suffix := by
  unfold validate at h
  dsimp only at h
  split at h
  · cases h
  rename_i suffix hafter
  split at h
  · cases h
  rename_i hne
  split at h
  · rename_i hname
    obtain rfl := Except.ok.inj h
    exact ⟨rfl, hname, suffix, by simpa using hne, Text.after?_eq_some_iff.mp hafter⟩
  · cases h

theorem registerAs_of_error {e : RegistryError} (h : r.validate raw = .error e) :
    r.registerAs raw css blueprint = (.error e, r) := by
  rw [registerAs, h]

theorem registerAs_of_validate (h : r.validate raw = .ok name) :
    r.registerAs raw css blueprint = (.ok (), r.insert name css blueprint) := by
  rw [registerAs, h]

/-- A registration adds a type under a name that may be registered, or it changes nothing. -/
theorem registerAs_induction {P : Registry → Prop} (hr : P r)
    (hinsert : ∀ name, r.validate raw = .ok name → P (r.insert name css blueprint)) :
    P (r.registerAs raw css blueprint).2 := by
  cases hname : r.validate raw with
  | error e =>
    rw [registerAs_of_error hname]
    exact hr
  | ok name =>
    rw [registerAs_of_validate hname]
    exact hinsert name hname

/-- More types are known by a name. -/
def know (r : Registry) (types : List (String × String)) : Registry :=
  { r with nameOfType := r.nameOfType ++ types }

/-- The types that become known by a name when one is registered under it. -/
def newlyKnown (r : Registry) (name : String) (blueprint : Blueprint) : List (String × String) :=
  if (r.find? name).isSome || (r.nameOfType.lookup blueprint.typeName).isSome then []
  else [(blueprint.typeName, name)]

theorem register_of_error {e : RegistryError} (h : r.validate raw = .error e) :
    r.register raw css blueprint = (.error e, r) := by
  rw [register, h]

theorem register_of_validate (h : r.validate raw = .ok name) :
    r.register raw css blueprint =
      (.ok (), (r.insert name css blueprint).know (r.newlyKnown name blueprint)) := by
  unfold register
  rw [h]
  dsimp only [know, newlyKnown]
  split
  · rw [List.append_nil]
  · unfold insert
    split <;> rfl

/-- So does a registration of a type that is to be known by its name. -/
theorem register_induction {P : Registry → Prop} (hr : P r)
    (hinsert : ∀ name, r.validate raw = .ok name →
      P ((r.insert name css blueprint).know (r.newlyKnown name blueprint))) :
    P (r.register raw css blueprint).2 := by
  cases hname : r.validate raw with
  | error e =>
    rw [register_of_error hname]
    exact hr
  | ok name =>
    rw [register_of_validate hname]
    exact hinsert name hname

/-- The first registration of a type, under a name that is free. -/
theorem register_first (css : String) (hname : r.validate raw = .ok name)
    (hfree : r.find? name = none) (hfirst : r.nameOfType.lookup blueprint.typeName = none) :
    ∃ r', r.register raw css blueprint = (.ok (), r') ∧
      r'.find? name = some ⟨name, css, blueprint, 0⟩ ∧
      r'.nameOfType.lookup blueprint.typeName = some name := by
  refine ⟨_, register_of_validate hname, ?_, ?_⟩
  · show (r.insert name css blueprint).find? name = _
    rw [find?_insert hfree, if_pos rfl]
  · have hknown : (r.insert name css blueprint).nameOfType = r.nameOfType := by
      unfold insert
      split <;> rfl
    simp [know, newlyKnown, hknown, hfree, hfirst, List.lookup_append]

/-! ## What is kept -/

/-- A registry that has gone on from another. -/
structure Extends (r r' : Registry) : Prop where
  reserved : r'.reserved = r.reserved
  find? : ∀ name d, r.find? name = some d →
    ∃ count, r'.find? name = some { d with count := count }
  nameOfType : ∀ typeName name, r.nameOfType.lookup typeName = some name →
    r'.nameOfType.lookup typeName = some name

namespace Extends

theorem trans (h : r.Extends r') (h' : r'.Extends r'') : r.Extends r'' where
  reserved := h'.reserved.trans h.reserved
  find? name d hd := by
    obtain ⟨count, hcount⟩ := h.find? name d hd
    exact h'.find? name { d with count := count } hcount
  nameOfType typeName name hname := h'.nameOfType typeName name (h.nameOfType typeName name hname)

/-- Counting is no change. -/
theorem of_uncounted (h : r'.uncounted = r.uncounted) : r.Extends r' where
  reserved := reserved_of_uncounted h
  find? name d hd := by
    have hfind : r'.uncounted.find? name = _ := find?_uncounted
    rw [h, find?_uncounted, hd] at hfind
    obtain ⟨d', hd', heq⟩ := Option.map_eq_some_iff.mp hfind.symm
    obtain ⟨name', css, blueprint, count⟩ := d'
    cases heq
    exact ⟨count, hd'⟩
  nameOfType typeName name hname := by
    show r'.uncounted.nameOfType.lookup typeName = some name
    rw [h]
    exact hname

theorem refl : r.Extends r := of_uncounted rfl

theorem insert : r.Extends (r.insert name css blueprint) := by
  cases htaken : r.find? name with
  | some taken =>
    rw [insert_of_taken (Option.isSome_of_mem htaken)]
    exact refl
  | none =>
    refine ⟨?_, fun n d hd => ⟨d.count, ?_⟩, fun typeName n hn => ?_⟩
    · unfold Registry.insert
      split <;> rfl
    · have hne : n ≠ name := by
        rintro rfl
        cases hd.symm.trans htaken
      rw [find?_insert htaken, if_neg hne]
      exact hd
    · unfold Registry.insert
      split
      · exact hn
      · exact hn

theorem know (types : List (String × String)) : r.Extends (r.know types) where
  reserved := rfl
  find? _ d hd := ⟨d.count, hd⟩
  nameOfType typeName name hname := by
    show (r.nameOfType ++ types).lookup typeName = _
    rw [List.lookup_append, hname, Option.some_or]

theorem registerAs : r.Extends (r.registerAs raw css blueprint).2 :=
  registerAs_induction (P := r.Extends) refl fun _ _ => insert

theorem register : r.Extends (r.register raw css blueprint).2 :=
  register_induction (P := r.Extends) refl fun _ _ => insert.trans (know _)

end Extends

/-- Every name begins with the reserved characters. -/
def Named (r : Registry) : Prop := ∀ entry ∈ r.entries, r.reserved.toList <+: entry.1.toList

namespace Named

theorem of_find? (hr : r.Named) (h : r.find? name = some d) :
    r.reserved.toList <+: name.toList :=
  hr _ (mem_entries_of_find? h)

theorem of_uncounted (hr : r.Named) (h : r'.uncounted = r.uncounted) : r'.Named := by
  have huncounted {r : Registry} : r.uncounted.Named ↔ r.Named := List.forall_mem_map
  rw [← huncounted, h, huncounted]
  exact hr

theorem insert (hr : r.Named) (hname : r.validate raw = .ok name) :
    (r.insert name css blueprint).Named := by
  obtain ⟨-, -, suffix, -, htext⟩ := validate_eq_ok hname
  unfold Registry.insert
  split
  · exact hr
  · exact List.forall_mem_append.mpr ⟨hr, List.forall_mem_singleton.mpr ⟨suffix, htext.symm⟩⟩

theorem registerAs (hr : r.Named) : (r.registerAs raw css blueprint).2.Named :=
  registerAs_induction (P := Named) hr fun _ hname => hr.insert hname

theorem register (hr : r.Named) : (r.register raw css blueprint).2.Named :=
  register_induction (P := Named) hr fun _ hname => hr.insert hname

theorem withReserved {reserved : String} : (withReserved reserved).Named := List.forall_mem_nil _

end Named

end TagWeave.Registry
