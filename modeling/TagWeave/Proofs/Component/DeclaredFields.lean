import TagWeave.Component.Declared
import TagWeave.Proofs.Component.Fields
import TagWeave.Proofs.Dictionary

/-!
# Fields of declared components

Whatever attributes are bound to a component that is declared as data, it shows its template exactly
the fields that are declared. An attribute fills the first field that is written like it, in any
case of ASCII letters. So each field can be filled on its own, unless another spelling of it is
declared before it (`bindable_unless_shadowed`).
-/

namespace TagWeave.Declared

/-- A component of a declaration, after attributes were bound to it one by one. -/
inductive Bound (container : Container) (body : String) (fields : List String) : Component → Prop
  | fresh : Bound container body fields (component container body fields)
  | bind : Bound container body fields c →
    Bound container body fields ((blueprint container body fields).bind label c name raw).2

/-- The first of the fields that is written like an attribute. -/
def filledBy? (fields : List String) (name : String) : Option String :=
  fields.find? fun field => Text.sameIgnoringAsciiCase field name

/-- Before the field its name is declared in another spelling. -/
def Shadowed (fields : List String) (field : String) : Prop :=
  ∃ front back, fields = front ++ field :: back ∧ field ∉ front ∧
    ∃ other ∈ front, Text.sameIgnoringAsciiCase other field = true

/-- What the template sees of a component. -/
def shown (c : Component) : Dictionary Data :=
  c.values.mapValues fun value => .string (textOf value)

/-- The field has a value, which the template sees, and the rest of the component is as it was. -/
structure Filled (c : Component) (field value : String) (c' : Component) : Prop where
  value? : value? c' field = some value
  shown : c'.data.field? field = some (.string value)
  others : ∀ other, other ≠ field → Declared.value? c' other = Declared.value? c other ∧
    c'.data.field? other = c.data.field? other
  kind : c'.kind = c.kind
  setup : c'.setup = c.setup

variable {container : Container} {body : String} {fields : List String} {c c' : Component}
  {label name field first value : String}

/-! ## The field of an attribute -/

theorem same_refl (name : String) : Text.sameIgnoringAsciiCase name name = true :=
  beq_self_eq_true _

theorem filledBy?_congr (h : Text.sameIgnoringAsciiCase field name = true) :
    filledBy? fields name = filledBy? fields field := by
  unfold filledBy? Text.sameIgnoringAsciiCase
  rw [eq_of_beq h]

theorem find?_schema (fields : List String) (name : String) :
    (schema fields).find? name = (filledBy? fields name).map Declared.field := by
  unfold schema Schema.find? filledBy?
  rw [List.find?_map]
  rfl

/-- A field is filled by its own attribute unless it is shadowed. -/
theorem filledBy?_of_mem (h : field ∈ fields) (hfirst : ¬ Shadowed fields field) :
    filledBy? fields field = some field := by
  obtain ⟨front, back, rfl, hfront⟩ := List.eq_append_cons_of_mem h
  have hnone : front.find? (fun other => Text.sameIgnoringAsciiCase other field) = none := by
    refine List.find?_eq_none.mpr fun other hother hsame => hfirst ?_
    exact ⟨front, back, rfl, hfront, other, hother, hsame⟩
  rw [filledBy?, List.find?_append, hnone, Option.none_or, List.find?_cons, same_refl]

/-- The attribute of a shadowed field fills another one. -/
theorem filledBy?_of_shadowed (h : Shadowed fields field) : ∃ first ∈ fields, first ≠ field ∧
    Text.sameIgnoringAsciiCase first field = true ∧ filledBy? fields field = some first := by
  obtain ⟨front, back, rfl, hfront, other, hother, hsame⟩ := h
  have hsome : (front.find? fun other => Text.sameIgnoringAsciiCase other field).isSome = true :=
    List.find?_isSome.mpr ⟨other, hother, hsame⟩
  obtain ⟨first, hfirst⟩ := Option.isSome_iff_exists.mp hsome
  have hmem : first ∈ front := List.mem_of_find?_eq_some hfirst
  have hfound := List.find?_some hfirst
  refine ⟨first, List.mem_append_left _ hmem, ne_of_mem_of_not_mem hmem hfront, hfound, ?_⟩
  rw [filledBy?, List.find?_append, hfirst, Option.some_or]

/-- No attribute at all fills a shadowed field. -/
theorem not_filledBy?_of_shadowed (h : Shadowed fields field) :
    filledBy? fields name ≠ some field := by
  intro hfilled
  obtain ⟨first, -, hne, -, hfirst⟩ := filledBy?_of_shadowed h
  have hsame := List.find?_some (l := fields) hfilled
  rw [filledBy?_congr hsame, hfirst] at hfilled
  exact hne (Option.some.inj hfilled)

/-! ## Binding an attribute -/

theorem typeName_of_kind (hkind : c.kind = kind container body) :
    c.kind.typeName = (blueprint container body fields).typeName := by
  rw [hkind]
  rfl

theorem bind_of_filledBy? (hkind : c.kind = kind container body)
    (h : filledBy? fields name = some first) :
    (blueprint container body fields).bind label c name value =
      (.ok true, c.assign first (.text value)) := by
  have hfield : (blueprint container body fields).fields.find? name =
      some (Declared.field first) := by
    rw [blueprint, find?_schema, h]
    rfl
  rw [Blueprint.bind_of_ok (typeName_of_kind hkind) hfield rfl]
  rfl

theorem bind_of_none (hkind : c.kind = kind container body) (h : filledBy? fields name = none) :
    (blueprint container body fields).bind label c name value = (.ok false, c) := by
  have hfield : (blueprint container body fields).fields.find? name = none := by
    rw [blueprint, find?_schema, h]
    rfl
  exact Blueprint.bind_of_none (typeName_of_kind hkind) hfield

/-- A binding fills the field of the attribute, if there is one, and does nothing else. -/
theorem snd_bind (hkind : c.kind = kind container body) :
    ((blueprint container body fields).bind label c name value).2 = c ∨
      ∃ first, filledBy? fields name = some first ∧
        ((blueprint container body fields).bind label c name value).2 =
          c.assign first (.text value) := by
  cases hfilled : filledBy? fields name with
  | none => exact .inl (congrArg Prod.snd (bind_of_none hkind hfilled))
  | some first => exact .inr ⟨first, rfl, congrArg Prod.snd (bind_of_filledBy? hkind hfilled)⟩

theorem value?_assign : value? (c.assign field (.text value)) field = some value := by
  unfold value? Component.assign
  rw [Dictionary.get?_insert]
  rfl

theorem value?_assign_of_ne {other : String} (h : other ≠ field) :
    value? (c.assign field (.text value)) other = value? c other := by
  unfold value? Component.assign
  rw [Dictionary.get?_insert_of_ne h]

theorem get?_shown : (shown c).get? name = (value? c name).map .string := by
  rw [shown, Dictionary.get?_mapValues, value?, Option.map_map]
  rfl

theorem data_eq_shown (hkind : c.kind = kind container body) :
    c.data = .object (shown c).entries := by
  unfold Component.data
  rw [hkind]
  rfl

/-- The template sees the values of the fields. -/
theorem field?_data (hkind : c.kind = kind container body) :
    c.data.field? name = (value? c name).map .string := by
  rw [data_eq_shown hkind]
  exact get?_shown

theorem filled_assign (hkind : c.kind = kind container body) :
    Filled c field value (c.assign field (.text value)) where
  value? := value?_assign
  shown := by
    rw [field?_data (c := c.assign field (.text value)) hkind, value?_assign]
    rfl
  others other hne := by
    refine ⟨value?_assign_of_ne hne, ?_⟩
    rw [field?_data (c := c.assign field (.text value)) hkind, value?_assign_of_ne hne,
      field?_data hkind]
  kind := rfl
  setup := rfl

/-! ## Any number of attributes -/

namespace Bound

theorem kind_eq (h : Bound container body fields c) : c.kind = kind container body := by
  induction h with
  | fresh => rfl
  | bind _ ih =>
    rcases snd_bind ih with hsame | ⟨first, -, hassign⟩
    · rw [hsame, ih]
    · rw [hassign]
      exact ih

/-- Exactly the declared fields have a value. -/
theorem isSome_value?_iff (h : Bound container body fields c) :
    (value? c name).isSome = true ↔ name ∈ fields := by
  induction h with
  | fresh =>
    unfold value? component
    rw [Dictionary.get?_ofList_const]
    split
    · rename_i hmem
      exact iff_of_true rfl hmem
    · rename_i hout
      exact iff_of_false Bool.false_ne_true hout
  | bind hbound ih =>
    rcases snd_bind hbound.kind_eq with hsame | ⟨first, hfilled, hassign⟩
    · rw [hsame, ih]
    · rw [hassign]
      by_cases hname : name = first
      · subst hname
        rw [value?_assign]
        exact iff_of_true rfl (List.mem_of_find?_eq_some hfilled)
      · rw [value?_assign_of_ne hname]
        exact ih

/-- A shadowed field is empty for ever. -/
theorem value?_of_shadowed (h : Bound container body fields c) (hshadowed : Shadowed fields field) :
    value? c field = some "" := by
  induction h with
  | fresh =>
    obtain ⟨front, back, rfl, -⟩ := hshadowed
    unfold value? component
    rw [Dictionary.get?_ofList_const, if_pos List.mem_append_cons_self]
    rfl
  | bind hbound ih =>
    rcases snd_bind hbound.kind_eq with hsame | ⟨first, hfilled, hassign⟩
    · rw [hsame, ih]
    · have hother : field ≠ first := by
        rintro rfl
        exact not_filledBy?_of_shadowed hshadowed hfilled
      rw [hassign, value?_assign_of_ne hother, ih]

/-- The template sees exactly the declared fields, each once. -/
theorem exists_entries (h : Bound container body fields c) : ∃ entries, c.data = .object entries ∧
    Increasing entries ∧ ∀ name, name ∈ entries.map Prod.fst ↔ name ∈ fields := by
  refine ⟨(shown c).entries, data_eq_shown h.kind_eq, (shown c).increasing, fun name => ?_⟩
  have hsome : (value? c name).isSome = ((shown c).get? name).isSome := by
    rw [get?_shown, Option.isSome_map]
  rw [← h.isSome_value?_iff, hsome, Option.isSome_iff_exists, List.mem_map]
  simp only [Dictionary.get?_eq_some_iff_mem]
  constructor
  · rintro ⟨⟨key, value⟩, hmem, rfl⟩
    exact ⟨value, hmem⟩
  · rintro ⟨value, hmem⟩
    exact ⟨(name, value), hmem, rfl⟩

end Bound

/-- **Fields can be filled independently.** Whatever attributes were bound to a declared component,
its template sees exactly the declared fields. An attribute that is written like a field, in any
case of ASCII letters, is bound: the field has its value, the template sees it, and all else is as
it was. The exception is a field that is declared in another spelling before: its attribute fills
that other field, and it is empty itself for ever. -/
theorem bindable_unless_shadowed (h : Bound container body fields c) :
    (∃ entries, c.data = .object entries ∧ Increasing entries ∧
      ∀ name, name ∈ entries.map Prod.fst ↔ name ∈ fields) ∧
    ∀ label, ∀ field ∈ fields, ∀ name, Text.sameIgnoringAsciiCase field name = true →
      ∀ value, ∃ c', (blueprint container body fields).bind label c name value = (.ok true, c') ∧
        (¬ Shadowed fields field → Filled c field value c') ∧
        (Shadowed fields field → value? c' field = some "" ∧ ∃ first ∈ fields, first ≠ field ∧
          Text.sameIgnoringAsciiCase first field = true ∧ Filled c first value c') := by
  refine ⟨h.exists_entries, fun label field hfield name hsame value => ?_⟩
  have hkind := h.kind_eq
  by_cases hshadowed : Shadowed fields field
  · obtain ⟨first, hmem, hne, hother, hfilled⟩ := filledBy?_of_shadowed hshadowed
    have hbind : (blueprint container body fields).bind label c name value =
        (.ok true, c.assign first (.text value)) :=
      bind_of_filledBy? hkind ((filledBy?_congr hsame).trans hfilled)
    refine ⟨_, hbind, fun hnot => absurd hshadowed hnot, fun _ => ⟨?_, ?_⟩⟩
    · have hbound : Bound container body fields
          ((blueprint container body fields).bind label c name value).2 := h.bind
      rw [hbind] at hbound
      exact hbound.value?_of_shadowed hshadowed
    · exact ⟨first, hmem, hne, hother, filled_assign hkind⟩
  · have hfilled := filledBy?_of_mem hfield hshadowed
    have hbind : (blueprint container body fields).bind label c name value =
        (.ok true, c.assign field (.text value)) :=
      bind_of_filledBy? hkind ((filledBy?_congr hsame).trans hfilled)
    exact ⟨_, hbind, fun _ => filled_assign hkind, fun hyes => absurd hyes hshadowed⟩

/-- An attribute in another case fills its field after another one was filled. -/
theorem bindable_unless_shadowed_title :
    let card := blueprint {} "" ["title", "subtitle"]
    let c := card.fresh.assign "subtitle" (.text "Lower")
    Bound {} "" ["title", "subtitle"] c ∧
      ∃ c', card.bind "" c "Title" "Hello" = (.ok true, c') ∧ value? c' "title" = some "Hello" ∧
        c'.data.field? "title" = some (.string "Hello") ∧ value? c' "subtitle" = some "Lower" := by
  intro card c
  have hsubtitle : (card.bind "" card.fresh "subtitle" "Lower").2 = c :=
    congrArg Prod.snd (bind_of_filledBy? rfl (by decide +kernel))
  have hc : Bound {} "" ["title", "subtitle"] c := hsubtitle ▸ Bound.fresh.bind
  obtain ⟨-, hbindable⟩ := bindable_unless_shadowed hc
  obtain ⟨c', hbind, hfilled, -⟩ :=
    hbindable "" "title" (by decide) "Title" (by decide +kernel) "Hello"
  have hfirst : ¬ Shadowed ["title", "subtitle"] "title" := by
    rintro ⟨front, back, hfields, hfront, other, hother, -⟩
    cases front with
    | nil => cases hother
    | cons head front =>
      obtain ⟨rfl, -⟩ := List.cons.inj hfields
      exact hfront List.mem_cons_self
  have hset := hfilled hfirst
  refine ⟨hc, c', hbind, hset.value?, hset.shown, ?_⟩
  exact (hset.others "subtitle" (by decide)).1.trans value?_assign

/-- The attribute that is written exactly like a field does not fill it if the field is declared in
capitals before. -/
theorem not_filled_shadowed :
    let card := blueprint {} "" ["Title", "title"]
    Bound {} "" ["Title", "title"] card.fresh ∧
      ∃ c', card.bind "" card.fresh "title" "v" = (.ok true, c') ∧ value? c' "title" = some "" ∧
        value? c' "Title" = some "v" ∧ ¬ Filled card.fresh "title" "v" c' := by
  intro card
  have hempty : value? (card.fresh.assign "Title" (.text "v")) "title" = some "" := by
    rw [value?_assign_of_ne (by decide)]
    decide +kernel
  refine ⟨.fresh, card.fresh.assign "Title" (.text "v"), ?_, hempty, value?_assign, ?_⟩
  · exact bind_of_filledBy? rfl (by decide +kernel)
  · intro hfilled
    exact absurd (hempty.symm.trans hfilled.value?) (by decide)

end TagWeave.Declared
