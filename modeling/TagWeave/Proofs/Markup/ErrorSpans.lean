import TagWeave.Proofs.Markup.BrokenTags
import TagWeave.Proofs.Text.Slice

/-!
# What an error is about

An error about a tag stands for a piece of the text: from the `<` of the tag, or from the attribute
name that is none, up to the character that breaks the tag (`TagBreaks.isAbout`). What it carries is
written there.
-/

namespace TagWeave

open Text (byteSize isAsciiBlank Stops)

/-- A tag up to a value, behind the name of its attribute. -/
def UpToValue (reserved : List Char) (name : String) (value piece : List Char) : Prop :=
  ∃ (front : TagFront) (gap : List Char), isName name = true ∧ (∀ c ∈ gap, isAsciiBlank c = true) ∧
    piece = front.text reserved ++ (name.toList ++ '=' :: (gap ++ value))

/-- What the piece of text looks like that the error is about. In its tag `lead` comes before it. -/
def TagError.IsAbout (reserved lead piece : List Char) : TagError → Prop
  | emptyTagName _ => lead = [] ∧ ∃ c, piece = '<' :: (reserved ++ [c])
  | invalidTagName _ fragment =>
    lead = [] ∧ reserved <+: fragment.toList ∧ piece = '<' :: fragment.toList
  | invalidAttributeName _ fragment =>
    (∃ front : TagFront, lead = front.text reserved) ∧ piece = fragment.toList
  | missingAttributeName _ tag => lead = [] ∧ ∃ front : TagFront,
    tag = .ofList (reserved ++ front.suffix) ∧ piece = front.text reserved ++ ['=']
  | emptyValue _ name => lead = [] ∧ UpToValue reserved name ['/', '>'] piece
  | unterminatedQuote _ name => lead = [] ∧ ∃ quote value, (quote = '"' ∨ quote = '\'') ∧
    quote ∉ value ∧ UpToValue reserved name (quote :: value) piece
  | unterminatedTag _ tag => lead = [] ∧ ∃ suffix rest, tag = .ofList (reserved ++ suffix) ∧
    (∀ c ∈ suffix, isNameChar c = true) ∧ Stops isNameChar rest ∧
    piece = '<' :: (reserved ++ (suffix ++ rest))

section
variable {reserved sound ending behind : List Char} {start : Nat} {e : TagError}

theorem ItemBreaks.isAbout (front : TagFront)
    (h : ItemBreaks (front.opened reserved start) (start + byteSize (front.text reserved)) e
      sound ending behind) :
    ∃ lead piece, front.text reserved ++ (sound ++ ending) = lead ++ piece ∧ piece ≠ [] ∧
      e.span = ⟨start + byteSize lead, start + byteSize (lead ++ piece)⟩ ∧
      e.IsAbout reserved lead piece := by
  have hne (rest : List Char) : front.text reserved ++ rest ≠ [] := List.cons_ne_nil _ _
  have hunfinished (rest : List Char) : ∃ suffix more,
      (front.opened reserved start).name = .ofList (reserved ++ suffix) ∧
      (∀ c ∈ suffix, isNameChar c = true) ∧ Stops isNameChar more ∧
      front.text reserved ++ rest = '<' :: (reserved ++ (suffix ++ more)) :=
    ⟨front.suffix, TagParts.text front.parts ++ rest, rfl, front.suffix_chars,
      front.atBreak.stops_isNameChar, by simp [TagFront.text]⟩
  have hsize (rest : List Char) : start + byteSize (front.text reserved) + byteSize rest =
      start + byteSize (front.text reserved ++ rest) := by
    rw [Text.byteSize_append, Nat.add_assoc]
  cases h with
  | noName =>
    exact ⟨[], _, rfl, hne _, congrArg (Text.Span.mk start) (hsize ['=']), rfl, front, rfl, rfl⟩
  | @strange name c =>
    refine ⟨front.text reserved, name.toList ++ [c], rfl, by simp, ?_, ⟨front, rfl⟩, ?_⟩
    · exact congrArg (Text.Span.mk _) (hsize _)
    · exact String.toList_ofList.symm
  | unfinished =>
    rw [List.append_nil]
    exact ⟨[], _, rfl, hne _, congrArg (Text.Span.mk start) (hsize _), rfl, hunfinished _⟩
  | @value name gap _ sound _ _ hname hgap hvalue =>
    have hupTo (value : List Char) :
        UpToValue reserved name value
          (front.text reserved ++ (name.toList ++ '=' :: (gap ++ value))) :=
      ⟨front, gap, hname, hgap, rfl⟩
    have hvalueSize (rest : List Char) :
        start + byteSize (front.text reserved) + byteSize (name.toList ++ '=' :: gap) +
          byteSize rest =
        start + byteSize (front.text reserved ++ (name.toList ++ '=' :: (gap ++ rest))) := by
      rw [hsize, Nat.add_assoc, ← Text.byteSize_append]
      simp
    cases hvalue with
    | noValue =>
      refine ⟨[], front.text reserved ++ (name.toList ++ '=' :: (gap ++ ['/', '>'])), ?_, hne _,
        congrArg (Text.Span.mk start) (hvalueSize ['/', '>']), rfl, hupTo _⟩
      simp
    | @openQuote quote value hquote hmem =>
      rw [List.append_nil]
      exact ⟨[], _, rfl, hne _, congrArg (Text.Span.mk start) (hvalueSize _), rfl, quote, value,
        hquote, hmem, hupTo _⟩
    | unfinished =>
      rw [List.append_nil]
      exact ⟨[], _, rfl, hne _, congrArg (Text.Span.mk start) (hvalueSize _), rfl, hunfinished _⟩

/-- **An error spans the piece of text that it is about.** -/
theorem TagBreaks.isAbout (h : TagBreaks reserved start e sound ending behind) :
    ∃ lead piece, sound ++ ending = lead ++ piece ∧ piece ≠ [] ∧
      e.span = ⟨start + byteSize lead, start + byteSize (lead ++ piece)⟩ ∧
      e.IsAbout reserved lead piece := by
  cases h with
  | @noName c => exact ⟨[], '<' :: (reserved ++ [c]), rfl, List.cons_ne_nil _ _, rfl, rfl, c, rfl⟩
  | @strange suffix c =>
    refine ⟨[], '<' :: (reserved ++ (suffix ++ [c])), ?_, List.cons_ne_nil _ _, rfl, rfl, ?_, ?_⟩
    · simp
    · rw [String.toList_ofList]
      exact List.prefix_append _ _
    · rw [String.toList_ofList]
  | @unfinished suffix hsuffix =>
    refine ⟨[], '<' :: (reserved ++ suffix), ?_, List.cons_ne_nil _ _, rfl, rfl, suffix, [], rfl,
      hsuffix, Text.stops_nil, ?_⟩
    · simp
    · simp
  | item front hitem =>
    rw [List.append_assoc]
    exact hitem.isAbout front

end

end TagWeave
