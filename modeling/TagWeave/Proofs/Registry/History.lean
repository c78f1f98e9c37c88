import TagWeave.Proofs.Composition.Requests

/-!
# Histories of a registry

A history is a sequence of registrations, calls for ids and compositions, with all ids generated on
the way (`History`). Only counters and new names change (`History.extends`), and the counters go on
by the ids (`History.numbered`).
-/

namespace TagWeave

/-- What is done with a registry. -/
inductive Action
  | register (name css : String) (blueprint : Blueprint)
  | registerAs (name css : String) (blueprint : Blueprint)
  | nextId (name : String)
  | nextIdFor (c : Component)
  | request (q : Request)

namespace Action

/-- The registry after an action. -/
def after : Action → Registry → Registry
  | register name css blueprint, r => (r.register name css blueprint).2
  | registerAs name css blueprint, r => (r.registerAs name css blueprint).2
  | nextId name, r =>
    match r.lookup? name with
    | some d => (r.nextId d).2
    | none => r
  | nextIdFor c, r => (r.nextIdFor c).2
  | request q, r => (q.run r).2

/-- The ids that an action generates. -/
inductive Generates : Action → Registry → List GeneratedId → Prop
  | register : Generates (.register name css blueprint) r []
  | registerAs : Generates (.registerAs name css blueprint) r []
  | nextId : r.lookup? name = some d →
    Generates (.nextId name) r [⟨.registered d.name, (r.nextId d).1⟩]
  | unknown : r.lookup? name = none → Generates (.nextId name) r []
  | nextIdFor : Generates (.nextIdFor c) r [⟨r.origin c, (r.nextIdFor c).1⟩]
  | request : Listing (q.Reaches r) visits → Generates (.request q) r (q.generated r visits)

variable {a : Action} {r : Registry} {ids : List GeneratedId}

/-- An action registers a type, or changes nothing but counters. -/
theorem after_cases (a : Action) (r : Registry) : (a.after r).uncounted = r.uncounted ∨
    (∃ name css blueprint, a.after r = (r.register name css blueprint).2) ∨
    ∃ name css blueprint, a.after r = (r.registerAs name css blueprint).2 := by
  cases a with
  | register name css blueprint => exact .inr (.inl ⟨name, css, blueprint, rfl⟩)
  | registerAs name css blueprint => exact .inr (.inr ⟨name, css, blueprint, rfl⟩)
  | nextId name =>
    left
    unfold after
    dsimp only
    split
    · exact Registry.uncounted_countId
    · rfl
  | nextIdFor c => exact .inl Registry.uncounted_nextIdFor
  | request q =>
    obtain ⟨_, -, -, huncounted, -⟩ := q.exists_listing r
    exact .inl huncounted

theorem extends_after : r.Extends (a.after r) := by
  rcases a.after_cases r with h | ⟨_, _, _, h⟩ | ⟨_, _, _, h⟩
  · exact .of_uncounted h
  · exact h ▸ .register
  · exact h ▸ .registerAs

theorem named_after (hr : r.Named) : (a.after r).Named := by
  rcases a.after_cases r with h | ⟨_, _, _, h⟩ | ⟨_, _, _, h⟩
  · exact hr.of_uncounted h
  · exact h ▸ hr.register
  · exact h ▸ hr.registerAs

theorem Generates.numbered (h : a.Generates r ids) :
    Numbered r.counters ids (a.after r).counters := by
  cases h with
  | register =>
    rw [after, Registry.counters_register]
    exact .nil
  | registerAs =>
    rw [after, Registry.counters_registerAs]
    exact .nil
  | nextId hlookup =>
    rw [after, hlookup]
    exact Registry.numbered_nextId hlookup
  | unknown hlookup =>
    rw [after, hlookup]
    exact .nil
  | nextIdFor => exact Registry.numbered_nextIdFor
  | request hlist => exact Request.numbered_of_listing hlist

theorem exists_generated (a : Action) (r : Registry) : ∃ ids, a.Generates r ids := by
  cases a with
  | register => exact ⟨_, .register⟩
  | registerAs => exact ⟨_, .registerAs⟩
  | nextId name =>
    cases hlookup : r.lookup? name with
    | some d => exact ⟨_, .nextId hlookup⟩
    | none => exact ⟨_, .unknown hlookup⟩
  | nextIdFor => exact ⟨_, .nextIdFor⟩
  | request q =>
    obtain ⟨visits, hlist, -⟩ := q.exists_listing r
    exact ⟨_, .request hlist⟩

end Action

/-- Actions one after the other, the ids that they generate and the registry that they leave. -/
inductive History : Registry → List Action → List GeneratedId → Registry → Prop
  | nil : History r [] [] r
  | cons : a.Generates r ids → History (a.after r) actions more r' →
    History r (a :: actions) (ids ++ more) r'

namespace History
variable {r r' : Registry} {actions : List Action} {ids : List GeneratedId}

theorem exists_history (r : Registry) (actions : List Action) :
    ∃ ids r', History r actions ids r' := by
  induction actions generalizing r with
  | nil => exact ⟨[], r, .nil⟩
  | cons a actions ih =>
    obtain ⟨ids, hids⟩ := a.exists_generated r
    obtain ⟨more, r', hmore⟩ := ih (a.after r)
    exact ⟨ids ++ more, r', .cons hids hmore⟩

theorem numbered (h : History r actions ids r') : Numbered r.counters ids r'.counters := by
  induction h with
  | nil => exact .nil
  | cons hids _ ih => exact hids.numbered.append ih

theorem registry_extends (h : History r actions ids r') : r.Extends r' := by
  induction h with
  | nil => exact .refl
  | cons _ _ ih => exact Action.extends_after.trans ih

/-- A type that is registered for the first time is known by its name from then on. -/
theorem known {raw name css : String} {blueprint : Blueprint}
    (h : History r (.register raw css blueprint :: actions) ids r')
    (hname : r.validate raw = .ok name) (hfree : r.find? name = none)
    (hfirst : r.nameOfType.lookup blueprint.typeName = none) :
    r'.reserved = r.reserved ∧ r'.nameOfType.lookup blueprint.typeName = some name ∧
      ∃ count, r'.find? name = some ⟨name, css, blueprint, count⟩ := by
  obtain ⟨r₁, hregister, hfind, hknown⟩ := Registry.register_first css hname hfree hfirst
  have hextends := h.registry_extends
  cases h with
  | cons _ hrest =>
    rw [Action.after, hregister] at hrest
    have hlater : r₁.Extends r' := hrest.registry_extends
    exact ⟨hextends.reserved, hlater.nameOfType _ _ hknown, hlater.find? _ _ hfind⟩

theorem named (h : History r actions ids r') (hr : r.Named) : r'.Named := by
  induction h with
  | nil => exact hr
  | cons _ _ ih => exact ih (Action.named_after hr)

end History

end TagWeave
