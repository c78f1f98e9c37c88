import TagWeave.Proofs.Markup.ClassEdits

/-!
# Classes that are switched on and off

Toggling a class takes it out if it is there and adds it behind the others if it is not (`Flips`),
so that doing it twice leaves the same classes. A token is added without the blanks at its ends, but
it is looked for as it is written. So a class that is there stays there if it is toggled with blanks
(`toggled_unless_padded`).
-/

namespace TagWeave.ClassSet

/-- How a class is switched. It is taken out if it is there and comes behind the others if it is
not; the others stay as they are. -/
inductive Flips (classes : ClassSet) (name : String) : Except AttributeError Bool × ClassSet → Prop
  | off : classes.tokens = front ++ name :: back → after.tokens = front ++ back →
    Flips classes name (.ok false, after)
  | on : name ∉ classes.tokens → after.tokens = classes.tokens ++ [name] →
    Flips classes name (.ok true, after)

variable {classes once twice : ClassSet} {token text name : String}
  {result result' : Except AttributeError Bool}

/-! ## Switching a class -/

theorem insert_of_mem (h : name ∈ classes.tokens) : classes.insert name = classes := dif_pos h

theorem tokens_insert_of_not_mem (h : name ∉ classes.tokens) :
    (classes.insert name).tokens = classes.tokens ++ [name] := by
  rw [insert, dif_neg h]

theorem mem_insert_self : name ∈ (classes.insert name).tokens := by
  by_cases hmem : name ∈ classes.tokens
  · rwa [insert_of_mem hmem]
  · rw [tokens_insert_of_not_mem hmem]
    exact List.mem_append_right _ List.mem_cons_self

theorem flips_erase (h : name ∈ classes.tokens) :
    Flips classes name (.ok false, classes.erase name) := by
  obtain ⟨front, back, hsplit⟩ := List.append_of_mem h
  exact .off hsplit (tokens_erase_place hsplit)

theorem flips_insert (h : name ∉ classes.tokens) :
    Flips classes name (.ok true, classes.insert name) := .on h (tokens_insert_of_not_mem h)

/-- Only the class that is switched changes its membership. -/
theorem Flips.mem_iff (h : Flips classes name (result, once)) :
    token ∈ once.tokens ↔ (token = name ↔ token ∉ classes.tokens) := by
  cases h with
  | off hsplit honce =>
    have hout := not_mem_around hsplit
    rw [honce, hsplit, mem_place]
    by_cases hsame : token = name
    · simp only [hsame, true_iff, not_true, hout, or_false]
    · simp only [hsame, false_or, false_iff, Decidable.not_not]
  | on hnew honce =>
    rw [honce, List.mem_append, List.mem_singleton]
    by_cases hsame : token = name
    · simp [hsame, hnew]
    · simp [hsame]

/-- A class that is switched twice is there if it was there. -/
theorem Flips.mem_twice_iff (h : Flips classes name (result, once))
    (h' : Flips once name (result', twice)) : token ∈ twice.tokens ↔ token ∈ classes.tokens := by
  rw [h'.mem_iff, h.mem_iff]
  by_cases hsame : token = name
  · simp [hsame]
  · simp [hsame]

/-! ## Toggling a token -/

theorem toggle_of_mem (h : text ∈ classes.tokens) :
    classes.toggle text = (.ok false, classes.erase text) := if_pos (List.contains_iff_mem.mpr h)

/-- A token that is not there as it is written is added without its blanks. -/
theorem toggle_of_not_mem (h : text ∉ classes.tokens) (hname : isName (Text.trimmed text) = true) :
    classes.toggle text = (.ok true, classes.insert (Text.trimmed text)) := by
  have hadded : classes.addTokens [text] = (.ok (), classes.insert (Text.trimmed text)) := by
    unfold addTokens
    exact if_pos hname
  have hout : ¬ classes.contains text = true := mt List.contains_iff_mem.mp h
  rw [toggle, if_neg hout, hadded]

/-- A name without blanks is switched. -/
theorem flips_toggle (hname : isName name = true) (htrimmed : Text.trimmed name = name) :
    Flips classes name (classes.toggle name) := by
  have hadded : isName (Text.trimmed name) = true := by rw [htrimmed, hname]
  by_cases hmem : name ∈ classes.tokens
  · rw [toggle_of_mem hmem]
    exact flips_erase hmem
  · rw [toggle_of_not_mem hmem hadded, htrimmed]
    exact flips_insert hmem

/-- No set holds a token with blanks at its ends. -/
theorem Reached.not_mem_of_padded (h : Reached classes) (hpadded : text ≠ Text.trimmed text) :
    text ∉ classes.tokens := fun hmem => hpadded (h.isTrimmedName text hmem).trimmed.symm

theorem toggle_padded (h : Reached classes) (hname : isName (Text.trimmed text) = true)
    (hpadded : text ≠ Text.trimmed text) :
    classes.toggle text = (.ok true, classes.insert (Text.trimmed text)) :=
  toggle_of_not_mem (h.not_mem_of_padded hpadded) hname

/-- The second time the class is there, and nothing is changed. -/
theorem toggle_padded_twice (h : Reached classes) (hname : isName (Text.trimmed text) = true)
    (hpadded : text ≠ Text.trimmed text) :
    ((classes.toggle text).2.toggle text).2 = classes.insert (Text.trimmed text) := by
  have hreached : Reached (classes.toggle text).2 := h.edit (.toggle text) nofun
  rw [toggle_padded hreached hname hpadded, toggle_padded h hname hpadded]
  exact insert_of_mem mem_insert_self

/-- **A class is toggled unless it is there and is written with blanks.** Toggling it takes it out
with the answer `false` if it is there, else it adds it behind the others with the answer `true`,
and the others stay. It is otherwise only if a class that is there is written with blanks at its
ends: nothing changes, and the answer is `true`. So toggling a text twice leaves the same classes,
unless the text has such blanks and the class was not there: it stays there. -/
theorem toggled_unless_padded (h : Reached classes) (text : String)
    (hname : isName (Text.trimmed text) = true) :
    let name := Text.trimmed text
    let once := (classes.toggle text).2
    let twice := (once.toggle text).2
    (Flips classes name (classes.toggle text) ↔ text = name ∨ name ∉ classes.tokens) ∧
    (text ≠ name → name ∈ classes.tokens → classes.toggle text = (.ok true, classes)) ∧
    ((∀ token, token ∈ twice.tokens ↔ token ∈ classes.tokens) ↔
      text = name ∨ name ∈ classes.tokens) := by
  intro name once twice
  by_cases hsame : text = name
  · have htrimmed : Text.trimmed name = name := Text.trimmed_trimmed text
    have hfirst : Flips classes name (classes.toggle text) := by
      rw [hsame]
      exact flips_toggle hname htrimmed
    have hsecond : Flips once name (once.toggle text) := by
      rw [hsame]
      exact flips_toggle hname htrimmed
    refine ⟨iff_of_true hfirst (.inl hsame), fun hne => absurd hsame hne, ?_⟩
    exact iff_of_true (fun token => hfirst.mem_twice_iff hsecond) (.inl hsame)
  · have hfirst : classes.toggle text = (.ok true, classes.insert name) :=
      toggle_padded h hname hsame
    have htwice : twice = classes.insert name := toggle_padded_twice h hname hsame
    rw [hfirst, htwice]
    by_cases hold : name ∈ classes.tokens
    · rw [insert_of_mem hold]
      refine ⟨iff_of_false ?_ (by simp [hsame, hold]), fun _ _ => rfl, ?_⟩
      · rintro ⟨⟩
        contradiction
      · exact iff_of_true (fun token => Iff.rfl) (.inr hold)
    · refine ⟨iff_of_true (flips_insert hold) (.inr hold), fun _ hmem => absurd hmem hold, ?_⟩
      refine iff_of_false (fun hall => hold ((hall name).mp ?_)) (by simp [hsame, hold])
      exact mem_insert_self

/-- A class is taken out and comes back behind the others. -/
theorem toggled_unless_padded_first : ∃ classes, parse "a b" = .ok classes ∧ Reached classes ∧
    Flips classes "a" (classes.toggle "a") ∧
    ((classes.toggle "a").2.toggle "a").2.tokens = ["b", "a"] ∧
    ∀ token, token ∈ ((classes.toggle "a").2.toggle "a").2.tokens ↔ token ∈ classes.tokens := by
  let classes : ClassSet := ⟨["a", "b"], by decide⟩
  have hparse : parse "a b" = .ok classes := by decide +kernel
  have hreached : Reached classes := .parse hparse
  have htrimmed : Text.trimmed "a" = "a" := by decide +kernel
  obtain ⟨hflips, -, htwice⟩ := toggled_unless_padded hreached "a" (by decide +kernel)
  rw [htrimmed] at hflips htwice
  exact ⟨classes, hparse, hreached, hflips.mpr (.inl rfl), by decide +kernel, htwice.mpr (.inl rfl)⟩

/-- A class that is there is not taken out if it is toggled with a blank, and one that is added with
a blank is not taken out by doing the same again. -/
theorem not_switched_off_padded : isName (Text.trimmed " a") = true ∧
    (∃ classes, parse "a b" = .ok classes ∧ Text.trimmed " a" ∈ classes.tokens ∧
      classes.toggle " a" = (.ok true, classes) ∧
      ¬ Flips classes (Text.trimmed " a") (classes.toggle " a")) ∧
    ((empty.toggle " a").2.toggle " a").2.tokens = ["a"] := by
  let classes : ClassSet := ⟨["a", "b"], by decide⟩
  have hmem : Text.trimmed " a" ∈ classes.tokens := by decide +kernel
  have htoggle : classes.toggle " a" = (.ok true, classes) := by decide +kernel
  refine ⟨by decide +kernel, ⟨classes, by decide +kernel, hmem, htoggle, ?_⟩, by decide +kernel⟩
  rw [htoggle]
  rintro ⟨⟩
  contradiction

end TagWeave.ClassSet
