import Mathlib.Logic.Function.Basic
import TagWeave.Proofs.Registry.Registration
import TagWeave.Proofs.Text.Runs

/-!
# Counters and the ids that they number

An id is generated from a counter: that of a registered name, or the one that all types without a
name share. Whatever has been done, the ids of one counter have the next numbers in turn
(`Numbered.ids_eq`). Two generated ids are equal only if they come from two counters and have
the same text in front of the number (`Numbered.pairwise`); as no two names are equal, one of the
two counters is the shared one (`Origin.clashes_of_stem`).
-/

namespace TagWeave

/-! ## Numbered ids -/

theorem isDigit_of_mem_repr {n : Nat} : ∀ c ∈ n.repr.toList.reverse, c.isDigit = true := by
  intro c hc
  rw [List.mem_reverse, Nat.toList_repr] at hc
  exact Nat.isDigit_of_mem_toDigits (by decide) (by decide) hc

theorem eq_of_repr {n n' : Nat} (h : n.repr.toList = n'.repr.toList) : n = n' := by
  have hread (k : Nat) : Nat.ofDigitChars 10 k.repr.toList 0 = k := by
    rw [Nat.toList_repr]
    exact Nat.ofDigitChars_toDigits (by decide) (by decide)
  rw [← hread n, h, hread]

theorem reverse_numberedId (name : String) (n : Nat) :
    (numberedId name n).toList.reverse = n.repr.toList.reverse ++ '-' :: name.toList.reverse := by
  have hnumber : toString n = n.repr := rfl
  have hhyphen : "-".toList = ['-'] := rfl
  rw [numberedId, hnumber, String.toList_append, String.toList_append, hhyphen, List.reverse_append,
    List.reverse_append, List.reverse_singleton, List.singleton_append]

/-- The number is what stands behind the last hyphen. -/
theorem numberedId_inj {name name' : String} {n n' : Nat} :
    numberedId name n = numberedId name' n' ↔ name = name' ∧ n = n' := by
  constructor
  · intro h
    have hlist := congrArg (fun id => id.toList.reverse) h
    rw [reverse_numberedId, reverse_numberedId] at hlist
    have hstop (text : List Char) : Text.Stops Char.isDigit ('-' :: text) :=
      Text.stops_cons.mpr (by decide)
    obtain ⟨hdigits, hnames⟩ := Text.run_unique hlist isDigit_of_mem_repr (hstop _)
      isDigit_of_mem_repr (hstop _)
    have hname := List.reverse_inj.mp (List.cons.inj hnames).2
    exact ⟨String.toList_inj.mp hname, eq_of_repr (List.reverse_inj.mp hdigits)⟩
  · rintro ⟨rfl, rfl⟩
    rfl

/-! ## Generated ids -/

/-- What an id is generated for: a registered name, or a type that is known by no name. -/
inductive Origin
  | registered (name : String)
  | unnamed (typeName : String)
  deriving DecidableEq

namespace Origin

/-- The name whose counter is used; the types without a name share a counter. -/
def name? : Origin → Option String
  | registered name => some name
  | unnamed _ => none

/-- What stands in front of the number. -/
def stem : Origin → String
  | registered name => name
  | unnamed typeName => Text.lowercase (shortTypeName typeName)

/-- A registered name, and a type without a name whose ids begin like those of the name. -/
def Clashes (a b : Origin) : Prop :=
  ∃ name typeName, name = Text.lowercase (shortTypeName typeName) ∧
    (a = registered name ∧ b = unnamed typeName ∨ a = unnamed typeName ∧ b = registered name)

theorem clashes_of_stem {a b : Origin} (hstem : a.stem = b.stem) (hname : a.name? ≠ b.name?) :
    a.Clashes b := by
  cases a with
  | registered name =>
    cases b with
    | registered name' => exact absurd (congrArg some hstem) hname
    | unnamed typeName => exact ⟨name, typeName, hstem, .inl ⟨rfl, rfl⟩⟩
  | unnamed typeName =>
    cases b with
    | registered name => exact ⟨name, typeName, hstem.symm, .inr ⟨rfl, rfl⟩⟩
    | unnamed typeName' => exact absurd rfl hname

theorem name?_eq_some_iff {o : Origin} {name : String} :
    o.name? = some name ↔ o = .registered name := by
  cases o with
  | registered name' => simp [name?]
  | unnamed typeName => simp [name?]

end Origin

structure GeneratedId where
  origin : Origin
  id : String

/-- The ids of a registered name. -/
def idsOf (name : String) (ids : List GeneratedId) : List GeneratedId :=
  ids.filter (·.origin = .registered name)

/-- The counters of all names, and the one without a name. -/
abbrev Counters := Option String → Nat

/-- One more id is counted. -/
def Counters.advance (c : Counters) (name? : Option String) : Counters :=
  Function.update c name? (c name? + 1)

/-- Ids generated one after the other, with the counters before and after. -/
inductive Numbered : Counters → List GeneratedId → Counters → Prop
  | nil : Numbered c [] c
  | cons {g : GeneratedId} : g.id = numberedId g.origin.stem (c g.origin.name?) →
    Numbered (c.advance g.origin.name?) gs c' → Numbered c (g :: gs) c'

namespace Counters
variable {c : Counters} {k k' : Option String}

theorem advance_self : c.advance k k = c k + 1 := Function.update_self ..

theorem advance_of_ne (h : k' ≠ k) : c.advance k k' = c k' := Function.update_of_ne h ..

theorem le_advance : c k' ≤ c.advance k k' := by
  by_cases h : k' = k
  · rw [h, advance_self]
    exact Nat.le_succ _
  · exact Nat.le_of_eq (advance_of_ne h).symm

end Counters

namespace Numbered
variable {c c' c'' : Counters} {gs more : List GeneratedId} {g : GeneratedId}

theorem single (h : g.id = numberedId g.origin.stem (c g.origin.name?)) :
    Numbered c [g] (c.advance g.origin.name?) := .cons h .nil

theorem append (h : Numbered c gs c') (hmore : Numbered c' more c'') :
    Numbered c (gs ++ more) c'' := by
  induction h with
  | nil => exact hmore
  | cons hid _ ih => exact .cons hid (ih hmore)

/-- The counter of a name rises by the number of its ids. -/
theorem counter_eq (h : Numbered c gs c') (name : String) :
    c' (some name) = c (some name) + (idsOf name gs).length := by
  induction h with
  | nil => rfl
  | @cons c gs c' g _ _ ih =>
    rw [ih, idsOf, idsOf, List.filter_cons]
    by_cases hname : g.origin = .registered name
    · rw [if_pos (decide_eq_true hname), hname, Origin.name?, Counters.advance_self,
        List.length_cons]
      omega
    · have hne : some name ≠ g.origin.name? := fun h =>
        hname (Origin.name?_eq_some_iff.mp h.symm)
      rw [if_neg (by simpa using hname), Counters.advance_of_ne hne]

/-- The ids of a name have the numbers from its counter on, without gap or repetition. -/
theorem ids_eq (h : Numbered c gs c') (name : String) :
    (idsOf name gs).map GeneratedId.id =
      (List.range' (c (some name)) (idsOf name gs).length).map (numberedId name) := by
  induction h with
  | nil => rfl
  | @cons c gs c' g hid _ ih =>
    rw [idsOf] at ih ⊢
    rw [List.filter_cons]
    by_cases hname : g.origin = .registered name
    · rw [hname] at hid ih
      rw [if_pos (decide_eq_true hname), List.map_cons, ih, List.length_cons, List.range'_succ,
        List.map_cons, hid, Origin.name?, Origin.stem, Counters.advance_self]
    · have hne : some name ≠ g.origin.name? := fun h =>
        hname (Origin.name?_eq_some_iff.mp h.symm)
      rw [if_neg (by simpa using hname), ih, Counters.advance_of_ne hne]

/-- No counter goes back. -/
theorem le (h : Numbered c gs c') (k : Option String) : c k ≤ c' k := by
  induction h with
  | nil => exact Nat.le_refl _
  | cons _ _ ih => exact Nat.le_trans Counters.le_advance ih

/-- Later ids have later numbers. -/
theorem exists_number (h : Numbered c gs c') :
    ∀ g ∈ gs, ∃ n, c g.origin.name? ≤ n ∧ g.id = numberedId g.origin.stem n := by
  induction h with
  | nil => exact List.forall_mem_nil _
  | cons hid _ ih =>
    refine List.forall_mem_cons.mpr ⟨⟨_, Nat.le_refl _, hid⟩, fun b hb => ?_⟩
    obtain ⟨n, hle, hn⟩ := ih b hb
    exact ⟨n, Nat.le_trans Counters.le_advance hle, hn⟩

theorem pairwise (h : Numbered c gs c') :
    gs.Pairwise fun a b => a.id = b.id → a.origin.Clashes b.origin := by
  induction h with
  | nil => exact .nil
  | @cons c gs c' a hid hrest ih =>
    refine List.pairwise_cons.mpr ⟨fun b hb heq => ?_, ih⟩
    obtain ⟨n, hle, hn⟩ := hrest.exists_number b hb
    rw [hid, hn, numberedId_inj] at heq
    obtain ⟨hstem, hnumber⟩ := heq
    refine Origin.clashes_of_stem hstem fun hsame => ?_
    -- The counter of the first id has gone on before the second is generated.
    rw [← hsame, Counters.advance_self] at hle
    omega

end Numbered

/-! ## Counters of a registry -/

namespace Registry
variable {r r' : Registry} {name n css : String} {d : Descriptor} {c : Component}
  {blueprint : Blueprint}

/-- The ids generated so far for a name. -/
def count (r : Registry) (name : String) : Nat := ((r.find? name).map Descriptor.count).getD 0

def counters (r : Registry) : Counters
  | some name => r.count name
  | none => r.anonymous

theorem counters_countId (h : (r.find? name).isSome) :
    (r.countId name).counters = r.counters.advance (some name) := by
  funext k
  cases k with
  | none =>
    rw [Counters.advance_of_ne (Option.some_ne_none name).symm]
    rfl
  | some n =>
    show ((r.countId name).find? n |>.map Descriptor.count).getD 0 = _
    rw [find?_countId]
    by_cases hn : n = name
    · subst hn
      obtain ⟨d, hd⟩ := Option.isSome_iff_exists.mp h
      rw [Counters.advance_self]
      simp [counters, count, hd]
    · rw [Counters.advance_of_ne (by simpa using hn)]
      cases hd : r.find? n with
      | none => simp [counters, count, hd]
      | some d => simp [counters, count, hd, hn]

theorem nextId_eq (h : r.find? d.name = some d) :
    r.nextId d = (numberedId d.name (r.counters (some d.name)), r.countId d.name) := by
  simp [nextId, counters, count, h]

/-- An id for a registered type is numbered by the counter of its name. -/
theorem numbered_nextId (h : r.find? name = some d) :
    Numbered r.counters [⟨.registered d.name, (r.nextId d).1⟩] (r.nextId d).2.counters := by
  have hname := name_of_find? h
  subst hname
  rw [nextId_eq h, counters_countId (Option.isSome_of_mem h)]
  exact .single rfl

/-- What an id of a component is generated for. -/
def origin (r : Registry) (c : Component) : Origin :=
  match r.descriptorFor? c with
  | some d => .registered d.name
  | none => .unnamed c.kind.typeName

theorem numbered_nextIdFor :
    Numbered r.counters [⟨r.origin c, (r.nextIdFor c).1⟩] (r.nextIdFor c).2.counters := by
  unfold origin nextIdFor
  cases hd : r.descriptorFor? c with
  | some d =>
    obtain ⟨name, -, hfind⟩ := Option.bind_eq_some_iff.mp hd
    exact numbered_nextId hfind
  | none =>
    have hcounters : ({ r with anonymous := r.anonymous + 1 } : Registry).counters =
        r.counters.advance none := by
      funext k
      cases k with
      | none =>
        rw [Counters.advance_self]
        rfl
      | some n =>
        rw [Counters.advance_of_ne (Option.some_ne_none n)]
        rfl
    dsimp only
    rw [hcounters]
    exact .single rfl

/-! ## Registration -/

/-- A new name has generated no id yet. -/
theorem counters_insert : (r.insert name css blueprint).counters = r.counters := by
  cases h : r.find? name with
  | some d => rw [insert_of_taken (Option.isSome_of_mem h)]
  | none =>
    funext k
    cases k with
    | none =>
      rw [insert, if_neg (by simp [h])]
      rfl
    | some n =>
      show ((r.insert name css blueprint).find? n |>.map Descriptor.count).getD 0 = _
      rw [find?_insert h]
      by_cases hn : n = name
      · subst hn
        simp [counters, count, h]
      · simp [counters, count, hn]

theorem counters_registerAs : (r.registerAs name css blueprint).2.counters = r.counters :=
  registerAs_induction (P := (·.counters = r.counters)) rfl fun _ _ => counters_insert

theorem counters_register : (r.register name css blueprint).2.counters = r.counters := by
  have hknow {r : Registry} {types : List (String × String)} :
      (r.know types).counters = r.counters := funext fun k => by cases k <;> rfl
  exact register_induction (P := (·.counters = r.counters)) rfl fun _ _ =>
    hknow.trans counters_insert

end Registry

end TagWeave
