import TagWeave.Proofs.Markup.AttributeText
import TagWeave.Proofs.Markup.Name

/-!
# Edits of attributes

A set of attributes starts without any and is edited (`AttributeSet.Edit`, `AttributeSet.Reached`).
Its values can always be enclosed in quotes, and its names are proper ones, except for those that
were toggled: a toggled name is taken as it is (`Reached.sound`).
-/

namespace TagWeave.AttributeSet

/-- A change of a set of attributes. -/
inductive Edit
  /-- Puts the attributes of a text in the place of those that are there. -/
  | parse (text : String)
  | set (name value : String)
  | merge (other : AttributeSet) (overwrite : Bool)
  | erase (name : String)
  | toggle (name : String)
  | data
  | setTabIndex (index : Int)

namespace Edit

/-- What is wrong with an edit, if anything, and the set after it. A text that cannot be read puts
nothing in the place of what is there. -/
def run (attributes : AttributeSet) : Edit → Except AttributeError Unit × AttributeSet
  | parse text =>
    match AttributeSet.parse text with
    | .ok after => (.ok (), after)
    | .error e => (.error e, attributes)
  | set name value => attributes.set name value
  | merge other overwrite => (.ok (), Dictionary.merge attributes other overwrite)
  | erase name => (.ok (), Dictionary.erase attributes name)
  | toggle name => (.ok (), (attributes.toggle name).2)
  | data => (.ok (), attributes.data)
  | setTabIndex index => (.ok (), attributes.setTabIndex index)

/-- The set whose attributes are taken over. -/
def other? : Edit → Option AttributeSet
  | merge other _ => some other
  | _ => none

def toggled? : Edit → Option String
  | toggle name => some name
  | _ => none

end Edit

/-- The set comes from the empty one by edits, with sets that were made in the same way. Names that
are toggled have the property `P`. -/
inductive Reached (P : String → Prop) : AttributeSet → Prop
  | empty : Reached P .empty
  | edit (h : Reached P attributes) (edit : Edit) (htoggled : ∀ name ∈ edit.toggled?, P name)
    (hother : ∀ other ∈ edit.other?, Reached P other) : Reached P (edit.run attributes).2

/-- The value of an attribute can be enclosed, and its name is a proper one, or it was toggled and
has no value. -/
structure Sound (P : String → Prop) (entry : String × String) : Prop where
  quotes : hasBothQuotes entry.2 = false
  name : IsTrimmedName entry.1 ∨ P entry.1 ∧ entry.2 = ""

variable {P : String → Prop} {attributes other after : AttributeSet} {name value text : String}

theorem Readable.sound {entry : String × String} (h : Readable entry) : Sound P entry :=
  ⟨h.quotes, .inl ⟨h.name, Text.trimmed_of_noBlank h.noBlank⟩⟩

/-- An attribute is set under a proper name with a value that can be enclosed, or the set stays as
it is. -/
theorem set_cases (attributes : AttributeSet) (name value : String) :
    (∃ e, attributes.set name value = (.error e, attributes)) ∨
    IsTrimmedName (Text.trimmed name) ∧ hasBothQuotes (strippedValue value) = false ∧
      attributes.set name value =
        (.ok (), attributes.insert (Text.trimmed name) (strippedValue value)) := by
  unfold set
  dsimp only
  cases hname : isName (Text.trimmed name) with
  | false => exact .inl ⟨_, rfl⟩
  | true =>
    cases hquotes : checkQuotes (Text.trimmed name) (strippedValue value) with
    | error e => exact .inl ⟨e, rfl⟩
    | ok _ => exact .inr ⟨isTrimmedName_trimmed hname, checkQuotes_eq_ok_iff.mp hquotes, rfl⟩

/-! ## One edit -/

namespace Edit

theorem run_eq_self_of_error {edit : Edit} {e : AttributeError}
    (h : (edit.run attributes).1 = .error e) : (edit.run attributes).2 = attributes := by
  cases edit with
  | parse text =>
    rw [run] at h ⊢
    cases hparse : AttributeSet.parse text with
    | error e => rfl
    | ok after =>
      rw [hparse] at h
      cases h
  | set name value =>
    rw [run] at h ⊢
    rcases set_cases attributes name value with ⟨e, hset⟩ | ⟨-, -, hset⟩
    · rw [hset]
    · rw [hset] at h
      cases h
  | merge | erase | toggle | data | setTabIndex => cases h

theorem sound_run (edit : Edit) (h : ∀ e ∈ attributes.entries, Sound P e)
    (htoggled : ∀ name ∈ edit.toggled?, P name)
    (hother : ∀ other ∈ edit.other?, ∀ e ∈ other.entries, Sound P e) :
    ∀ e ∈ (edit.run attributes).2.entries, Sound P e := by
  cases edit with
  | parse text =>
    rw [run]
    cases hparse : AttributeSet.parse text with
    | error e => exact h
    | ok read => exact fun e he => ((Obtained.parse hparse).readable e he).sound
  | set name value =>
    rw [run]
    rcases set_cases attributes name value with ⟨e, hset⟩ | ⟨hname, hquotes, hset⟩
    · rw [hset]
      exact h
    · rw [hset]
      exact Dictionary.forall_insert h ⟨hquotes, .inl hname⟩
  | merge other overwrite => exact Dictionary.forall_merge h (hother other rfl)
  | erase name => exact Dictionary.forall_filter h
  | toggle name =>
    rw [run, AttributeSet.toggle]
    split
    · exact Dictionary.forall_filter h
    · -- Nothing is known of the name but that it may be toggled.
      exact Dictionary.forall_insert h ⟨rfl, .inr ⟨htoggled name rfl, rfl⟩⟩
  | data => exact Dictionary.forall_filter h
  | setTabIndex index => exact Dictionary.forall_insert h (readable_tabIndex index).sound

end Edit

/-! ## All edits -/

theorem Reached.sound (h : Reached P attributes) : ∀ e ∈ attributes.entries, Sound P e := by
  induction h with
  | empty => exact List.forall_mem_nil _
  | edit _ edit htoggled _ ih ihother => exact edit.sound_run ih htoggled ihother

theorem reached_toggle (h : P name) : Reached P (AttributeSet.toggle .empty name).2 :=
  .edit .empty (.toggle name) (fun _ hname => Option.some.inj hname ▸ h) nofun

/-- **Attributes can be enclosed, and their names are proper unless they were toggled.** However a
set has come about, no value holds both kinds of quotes, and a name that is none or has blanks at
its ends was toggled and has no value. So all names are proper if and only if only proper names are
toggled. An edit that fails changes nothing. -/
theorem names_proper_unless_toggled (P : String → Prop) :
    (∀ attributes, Reached P attributes →
      attributes.validate = .ok () ∧ (∀ e ∈ attributes.entries, hasBothQuotes e.2 = false) ∧
      (∀ e ∈ attributes.entries, IsTrimmedName e.1 ∨ P e.1 ∧ e.2 = "") ∧
      ∀ (edit : Edit) e,
        (edit.run attributes).1 = .error e → (edit.run attributes).2 = attributes) ∧
    ((∀ attributes, Reached P attributes → ∀ e ∈ attributes.entries, IsTrimmedName e.1) ↔
      ∀ name, P name → IsTrimmedName name) := by
  refine ⟨fun attributes h => ?_, fun h name hname => ?_, fun hproper attributes h e he => ?_⟩
  · have hquotes : ∀ e ∈ attributes.entries, hasBothQuotes e.2 = false :=
      fun e he => (h.sound e he).quotes
    exact ⟨validate_eq_ok_iff.mpr hquotes, hquotes, fun e he => (h.sound e he).name,
      fun _ _ => Edit.run_eq_self_of_error⟩
  · exact h _ (reached_toggle hname) (name, "") List.mem_cons_self
  · exact (h.sound e he).name.elim id fun htoggled => hproper e.1 htoggled.1

/-- A switch is toggled, and then an attribute cannot be set. -/
theorem names_proper_unless_toggled_switch : ∃ attributes : AttributeSet,
    attributes.entries = [("alt", "a\"b"), ("hidden", ""), ("tabIndex", "-3")] ∧
    attributes.validate = .ok () ∧ (∀ e ∈ attributes.entries, IsTrimmedName e.1) ∧
    ((Edit.set "alt" "a'\"b").run attributes).1 = .error (.ambiguousQuotes "alt" "a'\"b") ∧
    ((Edit.set "alt" "a'\"b").run attributes).2 = attributes := by
  let alt := (Edit.run .empty (.parse "alt = 'a\"b'")).2
  let switched := (Edit.run alt (.toggle "hidden")).2
  let attributes := (Edit.run switched (.setTabIndex (-3))).2
  have halt : Reached (· = "hidden") alt := .edit .empty _ nofun nofun
  have hswitched : Reached (· = "hidden") switched :=
    .edit halt _ (fun _ hname => (Option.some.inj hname).symm) nofun
  have hattributes : Reached (· = "hidden") attributes := .edit hswitched _ nofun nofun
  have hentries : attributes.entries = [("alt", "a\"b"), ("hidden", ""), ("tabIndex", "-3")] := by
    decide +kernel
  have hfails : ((Edit.set "alt" "a'\"b").run attributes).1 =
      .error (.ambiguousQuotes "alt" "a'\"b") := by
    decide +kernel
  have hhidden : IsTrimmedName "hidden" := by decide
  obtain ⟨hall, hproper⟩ := names_proper_unless_toggled (· = "hidden")
  obtain ⟨hvalid, -, -, hsame⟩ := hall attributes hattributes
  exact ⟨attributes, hentries, hvalid, hproper.mpr (fun _ hname => hname ▸ hhidden) _ hattributes,
    hfails, hsame _ _ hfails⟩

/-- What is toggled becomes a name, whatever it is. -/
theorem misnamed_by_toggle : ∃ attributes : AttributeSet,
    Reached (fun _ => True) attributes ∧ attributes.entries = [("a b", "")] ∧
    isName "a b" = false ∧ attributes.write = "a b" := by
  have hreached : Reached (fun _ => True) (AttributeSet.toggle .empty "a b").2 :=
    reached_toggle trivial
  refine ⟨_, hreached, ?_⟩
  decide +kernel

end TagWeave.AttributeSet
