import TagWeave.Proofs.Registry.History
import TagWeave.Proofs.Text.Lowercase

/-!
# The first registration of a name

A registration adds a descriptor if its name may be registered and is free; otherwise it changes
nothing (`Registration.goes_iff`). So a name stands for its first registration whatever is done with
the registry (`Registry.find?_after`), and a type is known by the first name that was added for it
(`Registry.lookup_nameOfType_after`).
-/

namespace TagWeave

/-! ## Names that may be registered -/

/-- In normal form the name begins with the reserved characters, goes on behind them and is a name
of markup. -/
def Registrable (reserved name : String) : Prop :=
  reserved.toList <+: (normalName name).toList ∧ normalName name ≠ reserved ∧
    isName (normalName name) = true

instance {reserved name : String} : Decidable (Registrable reserved name) :=
  inferInstanceAs (Decidable (_ ∧ _ ∧ _))

theorem Registrable.normalName {reserved name : String} (h : Registrable reserved name) :
    Registrable reserved (normalName name) := by
  unfold Registrable
  rw [normalName_normalName]
  exact h

/-- Why a name may not be registered. -/
inductive Refused (reserved name : String) : RegistryError → Prop
  | missingPrefix : ¬ reserved.toList <+: (normalName name).toList →
    Refused reserved name (.missingPrefix (normalName name) reserved)
  | emptyName : normalName name = reserved → Refused reserved name (.emptyName (normalName name))
  | invalidName : reserved.toList <+: (normalName name).toList → normalName name ≠ reserved →
    isName (normalName name) = false → Refused reserved name (.invalidName (normalName name))

theorem Refused.not_registrable {reserved name : String} {e : RegistryError}
    (h : Refused reserved name e) : ¬ Registrable reserved name := by
  intro ⟨hbegins, hmore, hname⟩
  cases h with
  | missingPrefix hnot => exact hnot hbegins
  | emptyName heq => exact hmore heq
  | invalidName _ _ hnot => cases hname.symm.trans hnot

theorem Refused.unique {reserved name : String} {e e' : RegistryError}
    (h : Refused reserved name e) (h' : Refused reserved name e') : e = e' := by
  have hself (heq : normalName name = reserved) : reserved.toList <+: (normalName name).toList :=
    heq ▸ List.prefix_rfl
  cases h with
  | missingPrefix hnot =>
    cases h' with
    | missingPrefix => rfl
    | emptyName heq => exact absurd (hself heq) hnot
    | invalidName hbegins => exact absurd hbegins hnot
  | emptyName heq =>
    cases h' with
    | missingPrefix hnot => exact absurd (hself heq) hnot
    | emptyName => rfl
    | invalidName _ hmore => exact absurd heq hmore
  | invalidName hbegins hmore =>
    cases h' with
    | missingPrefix hnot => exact absurd hbegins hnot
    | emptyName heq => exact absurd heq hmore
    | invalidName => rfl

namespace Registry
variable {r : Registry} {name : String}

/-- A name is in normal form when it is registered, or there is a reason why it is not. -/
theorem validate_cases (r : Registry) (name : String) :
    Registrable r.reserved name ∧ r.validate name = .ok (normalName name) ∨
      ∃ e, Refused r.reserved name e ∧ r.validate name = .error e := by
  unfold validate
  dsimp only
  cases hafter : Text.after? r.reserved.toList (normalName name).toList with
  | none =>
    right
    exact ⟨_, .missingPrefix (Text.after?_eq_none_iff.mp hafter), rfl⟩
  | some suffix =>
    have htext := Text.after?_eq_some_iff.mp hafter
    have hbegins : r.reserved.toList <+: (normalName name).toList := ⟨suffix, htext.symm⟩
    have hempty : suffix = [] ↔ normalName name = r.reserved := by
      rw [← String.toList_inj, htext]
      simp
    by_cases hsuffix : suffix = []
    · right
      exact ⟨_, .emptyName (hempty.mp hsuffix), by simp [hsuffix]⟩
    · have hmore : normalName name ≠ r.reserved := fun h => hsuffix (hempty.mpr h)
      cases hname : isName (normalName name) with
      | true =>
        left
        exact ⟨⟨hbegins, hmore, hname⟩, by simp [hsuffix]⟩
      | false =>
        right
        exact ⟨_, .invalidName hbegins hmore hname, by simp [hsuffix]⟩

end Registry

/-! ## Registrations -/

/-- A type that is to be registered. -/
structure Registration where
  name : String
  css : String
  blueprint : Blueprint
  /-- The type is to be known by the first name that is added for it. -/
  byType : Bool

namespace Registration

/-- The descriptor that is added if the name is free. -/
def descriptor (g : Registration) : Descriptor := ⟨normalName g.name, g.css, g.blueprint, 0⟩

/-- What is stored then. -/
def entry (g : Registration) : String × Descriptor := (normalName g.name, g.descriptor)

def attempt (g : Registration) (r : Registry) : Except RegistryError Unit × Registry :=
  if g.byType then r.register g.name g.css g.blueprint
  else r.registerAs g.name g.css g.blueprint

def action (g : Registration) : Action :=
  if g.byType then .register g.name g.css g.blueprint else .registerAs g.name g.css g.blueprint

/-- The registration gives a name its type. -/
def IsFor (reserved name : String) (g : Registration) : Prop :=
  Registrable reserved g.name ∧ normalName g.name = name

instance {reserved name : String} {g : Registration} : Decidable (g.IsFor reserved name) :=
  inferInstanceAs (Decidable (_ ∧ _))

/-- The registration is for a type that is to be known by the name. -/
def names (typeName : String) (g : Registration) : Bool :=
  g.byType && g.blueprint.typeName == typeName

end Registration

namespace Registry

/-- The registry with one more descriptor behind the others. The type is known by its name if it has
to be known and is not known yet. -/
def add (r : Registry) (g : Registration) : Registry where
  reserved := r.reserved
  entries := r.entries ++ [g.entry]
  nameOfType := r.nameOfType ++
    if g.byType && (r.nameOfType.lookup g.blueprint.typeName).isNone then
      [(g.blueprint.typeName, normalName g.name)]
    else []
  anonymous := r.anonymous
  keyed := List.forall_mem_append.mpr ⟨r.keyed, List.forall_mem_singleton.mpr rfl⟩

end Registry

/-- How a registration goes. -/
inductive Registration.Goes (g : Registration) (r : Registry) :
    Except RegistryError Unit × Registry → Prop
  | refused : Refused r.reserved g.name e → Goes g r (.error e, r)
  | taken : Registrable r.reserved g.name → r.find? (normalName g.name) = some d →
    Goes g r (.ok (), r)
  | added : Registrable r.reserved g.name → r.find? (normalName g.name) = none →
    Goes g r (.ok (), r.add g)

namespace Registration
variable {g : Registration} {r : Registry}
  {outcome outcome' : Except RegistryError Unit × Registry}

theorem attempt_of_error {e : RegistryError} (h : r.validate g.name = .error e) :
    g.attempt r = (.error e, r) := by
  rw [attempt, Registry.register_of_error h, Registry.registerAs_of_error h, ite_self]

theorem attempt_of_ok (h : r.validate g.name = .ok (normalName g.name)) :
    g.attempt r =
      (.ok (), if (r.find? (normalName g.name)).isSome then r else r.add g) := by
  unfold attempt
  split
  · rename_i hbyType
    rw [Registry.register_of_validate h, Registry.newlyKnown, Registry.insert]
    cases hfind : r.find? (normalName g.name) with
    | some d => simp [Registry.know]
    | none =>
      cases hknown : r.nameOfType.lookup g.blueprint.typeName with
      | some n => simp [Registry.know, Registry.add, entry, descriptor, hbyType, hknown]
      | none => simp [Registry.know, Registry.add, entry, descriptor, hbyType, hknown]
  · rename_i hbyType
    rw [Registry.registerAs_of_validate h]
    simp [Registry.insert, Registry.add, entry, descriptor, hbyType]

theorem attempt_goes (g : Registration) (r : Registry) : g.Goes r (g.attempt r) := by
  rcases r.validate_cases g.name with ⟨hname, hvalid⟩ | ⟨e, hrefused, hvalid⟩
  · rw [attempt_of_ok hvalid]
    cases hfind : r.find? (normalName g.name) with
    | some d => exact .taken hname hfind
    | none => exact .added hname hfind
  · rw [attempt_of_error hvalid]
    exact .refused hrefused

theorem Goes.unique (h : g.Goes r outcome) (h' : g.Goes r outcome') : outcome = outcome' := by
  cases h with
  | refused hrefused =>
    cases h' with
    | refused hrefused' => rw [hrefused.unique hrefused']
    | taken hname => exact absurd hname hrefused.not_registrable
    | added hname => exact absurd hname hrefused.not_registrable
  | taken hname hfind =>
    cases h' with
    | refused hrefused => exact absurd hname hrefused.not_registrable
    | taken => rfl
    | added _ hfree => cases hfind.symm.trans hfree
  | added hname hfree =>
    cases h' with
    | refused hrefused => exact absurd hname hrefused.not_registrable
    | taken _ hfind => cases hfind.symm.trans hfree
    | added => rfl

/-- A registration that is refused changes nothing. -/
theorem attempt_eq_self (g : Registration) {e : RegistryError} (h : (g.attempt r).1 = .error e) :
    (g.attempt r).2 = r := by
  have hgoes := g.attempt_goes r
  generalize g.attempt r = outcome at hgoes h
  cases hgoes with
  | refused => rfl
  | taken => rfl
  | added => cases h

/-- A registration goes in one way, and it is the one that is described. -/
theorem goes_iff : g.attempt r = outcome ↔ g.Goes r outcome := by
  constructor
  · rintro rfl
    exact g.attempt_goes r
  · exact (g.attempt_goes r).unique

end Registration

/-! ## Actions -/

namespace Action

/-- The type that an action is to register. -/
def registration? : Action → Option Registration
  | register name css blueprint => some ⟨name, css, blueprint, true⟩
  | registerAs name css blueprint => some ⟨name, css, blueprint, false⟩
  | _ => none

/-- The registration by which an action adds a descriptor. -/
def addition? (a : Action) (r : Registry) : Option Registration :=
  a.registration?.filter fun g =>
    Registrable r.reserved g.name ∧ (r.find? (normalName g.name)).isNone

variable {a : Action} {r : Registry} {g : Registration} {name : String}

theorem registration?_action (g : Registration) : g.action.registration? = some g := by
  obtain ⟨name, css, blueprint, byType⟩ := g
  cases byType <;> rfl

theorem after_of_registration (h : a.registration? = some g) :
    a.after r = (g.attempt r).2 := by
  cases a with
  | register =>
    cases h
    rfl
  | registerAs =>
    cases h
    rfl
  | nextId => cases h
  | nextIdFor => cases h
  | request => cases h

theorem uncounted_of_no_registration (h : a.registration? = none) :
    (a.after r).uncounted = r.uncounted := by
  cases a with
  | register => cases h
  | registerAs => cases h
  | nextId name =>
    unfold after
    dsimp only
    split
    · exact Registry.uncounted_countId
    · rfl
  | nextIdFor c => exact Registry.uncounted_nextIdFor
  | request q =>
    obtain ⟨_, -, -, huncounted, -⟩ := q.exists_listing r
    exact huncounted

theorem addition?_eq_some_iff : a.addition? r = some g ↔ a.registration? = some g ∧
    Registrable r.reserved g.name ∧ r.find? (normalName g.name) = none := by
  simp [addition?, Option.filter_eq_some_iff]

/-- An action adds a descriptor, or changes nothing but counters. -/
theorem after_of_addition (h : a.addition? r = some g) : a.after r = r.add g := by
  obtain ⟨hregistration, hname, hfree⟩ := addition?_eq_some_iff.mp h
  rw [after_of_registration hregistration, Registration.goes_iff.mpr (.added hname hfree)]

theorem uncounted_of_no_addition (h : a.addition? r = none) :
    (a.after r).uncounted = r.uncounted := by
  cases hregistration : a.registration? with
  | none => exact uncounted_of_no_registration hregistration
  | some g =>
    rw [after_of_registration hregistration]
    have hgoes := g.attempt_goes r
    generalize g.attempt r = outcome at hgoes
    cases hgoes with
    | refused => rfl
    | taken => rfl
    | added hname hfree =>
      exact nomatch h.symm.trans (addition?_eq_some_iff.mpr ⟨hregistration, hname, hfree⟩)

end Action

namespace Registry
variable {r : Registry} {a : Action} {actions : List Action} {g : Registration}
  {d : Descriptor} {name typeName : String}

/-! ## The first registration of a name -/

/-- The registry after actions. -/
def after (r : Registry) (actions : List Action) : Registry :=
  actions.foldl (fun r a => a.after r) r

/-- The registry that actions make of an empty one. -/
def ofActions (reserved : String) (actions : List Action) : Registry :=
  (withReserved reserved).after actions

theorem extends_after : r.Extends (r.after actions) := by
  induction actions generalizing r with
  | nil => exact .refl
  | cons a actions ih => exact Action.extends_after.trans ih

theorem find?_add : (r.add g).find? name =
    (r.find? name).or (if normalName g.name = name then some g.descriptor else none) :=
  find?_of_entries rfl

/-- The first registration that gives a name its type. -/
def firstRegistration? (reserved : String) (actions : List Action) (name : String) :
    Option Registration :=
  (actions.filterMap Action.registration?).find? (·.IsFor reserved name)

theorem firstRegistration?_cons (reserved : String) :
    firstRegistration? reserved (a :: actions) name =
      (a.registration?.filter (·.IsFor reserved name)).or
        (firstRegistration? reserved actions name) := by
  unfold firstRegistration?
  cases hregistration : a.registration? with
  | none => simp [hregistration]
  | some g =>
    by_cases hfor : g.IsFor reserved name
    · simp [hregistration, hfor, Option.filter_some]
    · simp [hregistration, hfor, Option.filter_some]

theorem find?_after_action : (a.after r).uncounted.find? name = (r.uncounted.find? name).or
    ((a.registration?.filter (·.IsFor r.reserved name)).map Registration.descriptor) := by
  cases hadded : a.addition? r with
  | some g =>
    obtain ⟨hregistration, hname, -⟩ := Action.addition?_eq_some_iff.mp hadded
    rw [Action.after_of_addition hadded, hregistration, find?_uncounted, find?_uncounted, find?_add,
      Option.map_or]
    by_cases hsame : normalName g.name = name
    · simp [Registration.IsFor, Registration.descriptor, hname, hsame, Option.filter_some]
    · simp [Registration.IsFor, hsame, Option.filter_some]
  | none =>
    rw [Action.uncounted_of_no_addition hadded]
    cases hfilter : a.registration?.filter (·.IsFor r.reserved name) with
    | none => simp
    | some g =>
      -- Its name is taken, or it would have been added.
      obtain ⟨hregistration, hfor⟩ := Option.filter_eq_some_iff.mp hfilter
      obtain ⟨hname, rfl⟩ := of_decide_eq_true hfor
      cases hfind : r.find? (normalName g.name) with
      | none =>
        exact nomatch hadded.symm.trans
          (Action.addition?_eq_some_iff.mpr ⟨hregistration, hname, hfind⟩)
      | some d => rw [find?_uncounted, hfind, Option.map_some, Option.some_or]

/-- What a name stood for it stands for; any other name stands for its first registration. -/
theorem find?_after : (r.after actions).uncounted.find? name = (r.uncounted.find? name).or
    ((firstRegistration? r.reserved actions name).map Registration.descriptor) := by
  induction actions generalizing r with
  | nil =>
    show r.uncounted.find? name = _
    simp [firstRegistration?]
  | cons a actions ih =>
    have hreserved : (a.after r).reserved = r.reserved := Action.extends_after.reserved
    show ((a.after r).after actions).uncounted.find? name = _
    rw [ih, hreserved, find?_after_action, firstRegistration?_cons, Option.map_or, Option.or_assoc]

/-! ## The name of a type -/

/-- The registrations by which actions add descriptors, one after the other. -/
def additions (r : Registry) : List Action → List Registration
  | [] => []
  | a :: actions => (a.addition? r).toList ++ (a.after r).additions actions

theorem additions_cons : r.additions (a :: actions) =
    (a.addition? r).toList ++ (a.after r).additions actions := rfl

/-- Exactly the entries of these registrations are added. -/
theorem entries_after : (r.after actions).uncounted.entries =
    r.uncounted.entries ++ (r.additions actions).map Registration.entry := by
  induction actions generalizing r with
  | nil =>
    show r.uncounted.entries = _
    simp [additions]
  | cons a actions ih =>
    show ((a.after r).after actions).uncounted.entries = _
    rw [ih, additions_cons, List.map_append, ← List.append_assoc]
    congr 1
    cases hadded : a.addition? r with
    | none =>
      rw [Action.uncounted_of_no_addition hadded]
      simp
    | some g =>
      rw [Action.after_of_addition hadded]
      simp [uncounted, mapCounts, add, Registration.entry, Registration.descriptor]

theorem lookup_nameOfType_add : (r.add g).nameOfType.lookup typeName =
    (r.nameOfType.lookup typeName).or
      (if g.names typeName then some (normalName g.name) else none) := by
  show (r.nameOfType ++ _).lookup typeName = _
  rw [List.lookup_append]
  by_cases hbyType : g.byType = true
  · by_cases hsame : g.blueprint.typeName = typeName
    · subst hsame
      cases hknown : r.nameOfType.lookup g.blueprint.typeName with
      | some n => rfl
      | none => simp [Registration.names, hbyType]
    · have hother : (typeName == g.blueprint.typeName) = false := beq_false_of_ne (Ne.symm hsame)
      congr 1
      split <;> simp [Registration.names, hsame, hother, List.lookup_cons]
  · simp [Registration.names, hbyType]

/-- A type that was known stays known by its name; any other type is known by the first name that is
added for it. -/
theorem lookup_nameOfType_after : (r.after actions).nameOfType.lookup typeName =
    (r.nameOfType.lookup typeName).or
      (((r.additions actions).find? (·.names typeName)).map (normalName ·.name)) := by
  induction actions generalizing r with
  | nil =>
    show r.nameOfType.lookup typeName = _
    simp [additions]
  | cons a actions ih =>
    show ((a.after r).after actions).nameOfType.lookup typeName = _
    rw [ih, additions_cons, List.find?_append, Option.map_or, ← Option.or_assoc]
    congr 1
    cases hadded : a.addition? r with
    | none =>
      -- Counters aside nothing is changed, and the names of types are kept apart from counters.
      show (a.after r).uncounted.nameOfType.lookup typeName = _
      rw [Action.uncounted_of_no_addition hadded]
      exact Option.or_none.symm
    | some g =>
      rw [Action.after_of_addition hadded, lookup_nameOfType_add]
      cases hnames : g.names typeName with
      | true => simp [hnames]
      | false => simp [hnames]

/-! ## What holds of every registry -/

/-- Every type is stored under its own name. Every name is stored once and in normal form, and may
be registered; the name of a type leads to the type. -/
@[mk_iff]
structure Orderly (r : Registry) : Prop where
  keyed : ∀ entry ∈ r.entries, entry.2.name = entry.1
  nodup : (r.entries.map Prod.fst).Nodup
  normal : ∀ entry ∈ r.entries, normalName entry.1 = entry.1
  registrable : ∀ entry ∈ r.entries, Registrable r.reserved entry.1
  known : ∀ typeName name, r.nameOfType.lookup typeName = some name →
    ∃ d, r.find? name = some d ∧ d.blueprint.typeName = typeName

namespace Orderly

theorem withReserved {reserved : String} : (withReserved reserved).Orderly where
  keyed := List.forall_mem_nil _
  nodup := List.nodup_nil
  normal := List.forall_mem_nil _
  registrable := List.forall_mem_nil _
  known _ _ h := nomatch h

theorem find?_of_mem (h : r.Orderly) (hd : (name, d) ∈ r.entries) : r.find? name = some d := by
  have hnodup := h.nodup
  unfold find?
  generalize r.entries = entries at hd hnodup
  induction entries with
  | nil => cases hd
  | cons first rest ih =>
    obtain ⟨hfirst, hrest⟩ := List.nodup_cons.mp hnodup
    rcases List.mem_cons.mp hd with rfl | hd
    · simp
    · have hne : first.1 ≠ name := fun heq => hfirst (heq ▸ List.mem_map_of_mem hd)
      rw [List.find?_cons_of_neg (by simpa using hne)]
      exact ih hd hrest

/-- A name under which a type is found is in normal form and may be registered. -/
theorem of_find? (h : r.Orderly) (hfind : r.find? name = some d) :
    normalName name = name ∧ Registrable r.reserved name :=
  ⟨h.normal (name, d) (mem_entries_of_find? hfind),
    h.registrable (name, d) (mem_entries_of_find? hfind)⟩

theorem uncounted_iff : r.uncounted.Orderly ↔ r.Orderly := by
  have hnames : r.uncounted.entries.map Prod.fst = r.entries.map Prod.fst := by
    simp [uncounted, mapCounts, Function.comp_def]
  have hknown (typeName name : String) :
      (∃ d, r.uncounted.find? name = some d ∧ d.blueprint.typeName = typeName) ↔
        ∃ d, r.find? name = some d ∧ d.blueprint.typeName = typeName := by
    rw [find?_uncounted]
    simp
  have hkeyed : (∀ entry ∈ r.uncounted.entries, entry.2.name = entry.1) ↔
      ∀ entry ∈ r.entries, entry.2.name = entry.1 := List.forall_mem_map
  have hkeys (P : String → Prop) : (∀ entry ∈ r.uncounted.entries, P entry.1) ↔
      ∀ entry ∈ r.entries, P entry.1 := List.forall_mem_map
  rw [orderly_iff, orderly_iff, hkeyed, hnames, hkeys fun name => normalName name = name,
    hkeys (Registrable r.uncounted.reserved)]
  simp only [hknown]
  rfl

theorem of_uncounted {r' : Registry} (h : r.Orderly) (heq : r'.uncounted = r.uncounted) :
    r'.Orderly := by
  rw [← uncounted_iff, heq, uncounted_iff]
  exact h

theorem add (h : r.Orderly) (hname : Registrable r.reserved g.name)
    (hfree : r.find? (normalName g.name) = none) : (r.add g).Orderly where
  keyed := (r.add g).keyed
  nodup := by
    have hnew : ∀ entry ∈ r.entries, entry.1 ≠ normalName g.name := by
      intro entry hentry heq
      rw [← heq, h.find?_of_mem hentry] at hfree
      cases hfree
    show ((r.entries ++ [g.entry]).map Prod.fst).Nodup
    rw [List.map_append, List.nodup_append]
    refine ⟨h.nodup, List.nodup_singleton _, ?_⟩
    simpa [Registration.entry] using hnew
  normal := List.forall_mem_append.mpr
    ⟨h.normal, List.forall_mem_singleton.mpr (normalName_normalName g.name)⟩
  registrable := List.forall_mem_append.mpr
    ⟨h.registrable, List.forall_mem_singleton.mpr hname.normalName⟩
  known typeName name hknown := by
    rw [lookup_nameOfType_add] at hknown
    cases hold : r.nameOfType.lookup typeName with
    | some old =>
      rw [hold] at hknown
      obtain rfl := Option.some.inj hknown
      obtain ⟨d, hd, htype⟩ := h.known typeName old hold
      exact ⟨d, by rw [find?_add, hd, Option.some_or], htype⟩
    | none =>
      rw [hold, Option.none_or] at hknown
      split at hknown
      · rename_i hnames
        obtain rfl := Option.some.inj hknown
        have htype := (Bool.and_eq_true_iff.mp hnames).2
        exact ⟨g.descriptor, by rw [find?_add, hfree, if_pos rfl, Option.none_or], eq_of_beq htype⟩
      · cases hknown

theorem after_action (h : r.Orderly) : (a.after r).Orderly := by
  cases hadded : a.addition? r with
  | none => exact h.of_uncounted (Action.uncounted_of_no_addition hadded)
  | some g =>
    obtain ⟨-, hname, hfree⟩ := Action.addition?_eq_some_iff.mp hadded
    rw [Action.after_of_addition hadded]
    exact h.add hname hfree

theorem after (h : r.Orderly) : (r.after actions).Orderly := by
  induction actions generalizing r with
  | nil => exact h
  | cons a actions ih => exact ih h.after_action

theorem ofActions (reserved : String) (actions : List Action) :
    (ofActions reserved actions).Orderly :=
  withReserved.after

end Orderly

section
variable (reserved : String) (actions : List Action)

theorem reserved_ofActions : (ofActions reserved actions).reserved = Text.lowercase reserved :=
  extends_after.reserved

/-- A name stands for its first registration. -/
theorem find?_ofActions (name : String) : (ofActions reserved actions).uncounted.find? name =
    (firstRegistration? (ofActions reserved actions).reserved actions name).map
      Registration.descriptor := by
  rw [ofActions, find?_after, extends_after.reserved]
  rfl

/-- What is stored under a name is what its first registration gave it; only the counter went on. -/
theorem exists_firstRegistration (h : (ofActions reserved actions).find? name = some d) :
    ∃ g, firstRegistration? (ofActions reserved actions).reserved actions name = some g ∧
      d.name = normalName g.name ∧ d.css = g.css ∧ d.blueprint = g.blueprint := by
  have hfirst := find?_ofActions reserved actions name
  rw [find?_uncounted, h, Option.map_some] at hfirst
  obtain ⟨g, hg, heq⟩ := Option.map_eq_some_iff.mp hfirst.symm
  simp only [Registration.descriptor, Descriptor.mk.injEq, and_true] at heq
  exact ⟨g, hg, heq.1.symm, heq.2.1.symm, heq.2.2.symm⟩

end

/-- **Names and their first registrations.** Whatever is done with a registry, its names are in
normal form and proper, each is stored once and with a type of its own name, and each type that is
known by a name is stored under it. A registration is refused for exactly three reasons, and then
nothing is changed; nothing is changed either if the name is taken; otherwise one entry is added. So
a name in any spelling leads to its first registration, a type is known by the first name added for
it, and both stay so. -/
theorem ofActions_keeps_first (reserved : String) (actions : List Action) :
    let r := ofActions reserved actions
    r.reserved = Text.lowercase reserved ∧ r.Orderly ∧
    (∀ entry ∈ r.entries, r.find? entry.1 = some entry.2) ∧
    (∀ (g : Registration) outcome, g.attempt r = outcome ↔ g.Goes r outcome) ∧
    (∀ (g : Registration) e, (g.attempt r).1 = .error e → g.action.after r = r) ∧
    r.uncounted.entries = ((withReserved reserved).additions actions).map Registration.entry ∧
    (∀ name, r.uncounted.lookup? name =
      (firstRegistration? r.reserved actions (normalName name)).map Registration.descriptor) ∧
    (∀ name d more, r.lookup? name = some d →
      ∃ count, (r.after more).lookup? name = some { d with count := count }) ∧
    (∀ typeName, r.nameOfType.lookup typeName =
      (((withReserved reserved).additions actions).find? (·.names typeName)).map
        (normalName ·.name)) ∧
    ∀ typeName name more, r.nameOfType.lookup typeName = some name →
      (r.after more).nameOfType.lookup typeName = some name := by
  intro r
  have horderly : r.Orderly := .ofActions reserved actions
  refine ⟨reserved_ofActions reserved actions, horderly, fun _ => horderly.find?_of_mem,
    fun g outcome => Registration.goes_iff, ?_, entries_after,
    fun name => find?_ofActions reserved actions (normalName name), ?_,
    fun typeName => lookup_nameOfType_after, ?_⟩
  · intro g e hattempt
    rw [Action.after_of_registration (Action.registration?_action g)]
    exact g.attempt_eq_self hattempt
  · intro name d more hlookup
    exact extends_after.find? _ _ hlookup
  · intro typeName name more hknown
    exact extends_after.nameOfType _ _ hknown

/-- Of two spellings the first one registered counts, then and later; a name without the reserved
characters is refused. -/
theorem ofActions_keeps_first_text :
    let r := ofActions "ick-" [.register " Ick-Text" "p" TextComponent.blueprint,
      .registerAs "ick-text" "q" TextComponent.blueprint]
    let g : Registration := ⟨"box", "", TextComponent.blueprint, true⟩
    (∃ e, (g.attempt r).1 = .error e ∧ g.action.after r = r) ∧
    (∃ d, r.lookup? "ICK-TEXT" = some d ∧ d.css = "p" ∧
      ∀ more, ∃ count, (r.after more).lookup? "ICK-TEXT" = some { d with count := count }) ∧
    r.nameOfType.lookup TextComponent.typeName = some "ick-text" ∧
    ∀ more, (r.after more).nameOfType.lookup TextComponent.typeName = some "ick-text" := by
  intro r g
  obtain ⟨-, -, -, -, hrefused, -, -, hlookup, -, htype⟩ := ofActions_keeps_first "ick-"
    [.register " Ick-Text" "p" TextComponent.blueprint,
      .registerAs "ick-text" "q" TextComponent.blueprint]
  have hfound : (r.lookup? "ICK-TEXT").map Descriptor.css = some "p" := by decide +kernel
  have hknown : r.nameOfType.lookup TextComponent.typeName = some "ick-text" := by decide +kernel
  obtain ⟨d, hd, hcss⟩ := Option.map_eq_some_iff.mp hfound
  have hmissing : (g.attempt r).1 = .error (.missingPrefix (normalName "box") r.reserved) :=
    congrArg Prod.fst (Registration.goes_iff.mpr (.refused (.missingPrefix (by decide +kernel))))
  exact ⟨⟨_, hmissing, hrefused g _ hmissing⟩,
    ⟨d, hd, hcss, fun more => hlookup _ d more hd⟩, hknown, fun more => htype _ _ more hknown⟩

end Registry

end TagWeave
