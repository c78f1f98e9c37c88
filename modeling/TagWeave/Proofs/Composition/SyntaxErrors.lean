import TagWeave.Proofs.Composition.Courses
import TagWeave.Proofs.Composition.DocumentOrder
import TagWeave.Proofs.Markup.Continuations

/-!
# Errors about tags

An error of a scan points at the text that it is about (`ErrorPlace`). If a composition stops with
such an error, then it is that of a scan of what a template came to, however deep the component
stands (`Request.Takes.rescans`).
-/

namespace TagWeave

open Text (byteSize)

/-! ## Where an error points -/

/-- Where an error of a scan points. `before` is the text up to the tag; of the tag `lead` comes
before the piece that the error spans, and `behind` comes after it. -/
structure ErrorPlace (reserved text : String) (e : TagError)
    (before lead piece behind : List Char) : Prop where
  text_eq : text.toList = before ++ (lead ++ (piece ++ behind))
  /-- Up to the tag the text consists of the tokens found. -/
  before_eq : ((scan reserved text).tokens.mapM (Token.piece? text.toList)).map List.flatten =
    some before
  opens : '<' :: reserved.toList <+: lead ++ piece
  is_about : e.IsAbout reserved.toList lead piece
  nonempty : piece ≠ []
  start_eq : e.span.start = byteSize (before ++ lead)
  stop_eq : e.span.stop = byteSize (before ++ (lead ++ piece))
  slice_eq : Text.slice? e.span text.toList = some piece
  chars_eq : (text.toList.drop (e.span.inChars text.toList).start).take
    ((e.span.inChars text.toList).stop - (e.span.inChars text.toList).start) = piece
  /-- Up to the last character of the span the tag could be completed. With it the scan comes to the
  same whatever follows, but for the character behind a slash. -/
  broken : e.atEnd = false → ∃ sound c, before ++ (lead ++ piece) = sound ++ [c] ∧
    (∃ more tag, scan reserved (.ofList (sound ++ more)) =
      ⟨(scan reserved text).tokens ++ [.tag tag], none⟩) ∧
    ∀ more, (c = '/' → more.head? = behind.head?) →
      scan reserved (.ofList (sound ++ c :: more)) = scan reserved text
  /-- The text ends inside the tag, which could be completed. -/
  unfinished : e.atEnd = true → behind = [] ∧ ∃ more tag,
    scan reserved (text ++ .ofList more) = ⟨(scan reserved text).tokens ++ [.tag tag], none⟩

theorem exists_errorPlace {reserved text : String} {e : TagError}
    (h : (scan reserved text).error? = some e) :
    ∃ before lead piece behind, ErrorPlace reserved text e before lead piece behind := by
  obtain ⟨pieces, sound, ending, behind, hbreaks⟩ := exists_scanBreaks h
  obtain ⟨lead, piece, hpiece, hne, habout, hslice, hstart, hcut⟩ := hbreaks.span
  obtain ⟨more, tag, hmore⟩ := hbreaks.completable
  have hstop := (Text.cutAtByte?_eq_some_iff.mp hcut).2
  have hopens : '<' :: reserved.toList <+: lead ++ piece := by
    rw [← hpiece]
    exact hbreaks.breaks.opens.trans (List.prefix_append sound ending)
  have htext := hbreaks.text_eq
  rw [← List.append_assoc sound, hpiece, List.append_assoc lead] at htext
  rw [hpiece] at hstop
  refine ⟨pieces.flatten, lead, piece, behind, htext, ?_, hopens, habout, hne, hstart, hstop,
    hslice, Text.take_inChars hslice, fun hend => ?_, fun hend => ?_⟩
  · rw [hbreaks.pieces_eq]
    rfl
  · rcases hbreaks.breaks.ending_cases with ⟨hatEnd, -⟩ | ⟨-, c, rfl⟩
    · exact absurd (hatEnd.symm.trans hend) Bool.false_ne_true.symm
    refine ⟨pieces.flatten ++ sound, c, ?_, ⟨more, tag, ?_⟩, fun more hsame => ?_⟩
    · rw [← hpiece, List.append_assoc]
    · rw [List.append_assoc]
      exact hmore
    · rw [List.append_assoc]
      exact hbreaks.final (hbreaks.breaks.congr hsame)
  · rcases hbreaks.breaks.ending_cases with ⟨-, rfl, rfl⟩ | ⟨hbroken, -⟩
    · exact ⟨rfl, hbreaks.continuable⟩
    · exact absurd (hend.symm.trans hbroken) Bool.false_ne_true.symm

/-! ## Errors of a composition -/

namespace Composer
variable {composer : Composer}

/-- The text is what a template came to, and the error is what a scan of it ends with. -/
def Rescans (composer : Composer) (reserved : String) (executions : List (String × Context))
    (error : TagError) (text : String) : Prop :=
  (scan reserved text).error? = some error ∧
    ∃ x ∈ executions, composer.executor x.1 x.2 = .ok text

theorem Rescans.mono {reserved text : String} {executions more : List (String × Context)}
    {error : TagError} (h : composer.Rescans reserved executions error text)
    (hmore : executions ⊆ more) : composer.Rescans reserved more error text := by
  obtain ⟨hscan, x, hx, htext⟩ := h
  exact ⟨hscan, x, hmore hx, htext⟩

theorem mem_execution? {p : Placement} {frame : Frame} (h : frame.hasContent = true) :
    (p.component.body, p.context) ∈ (p.execution? frame).toList := by
  rw [Placement.execution?, if_pos h]
  exact List.mem_singleton_self _

mutual
theorem Fails.rescans {depth : Nat} {r r' : Registry} {p : Placement} {trail : Trail}
    {e : ComposeError} {error : TagError} {text : String}
    (h : composer.Fails depth r p trail e r') (he : e = .tagSyntax error text) :
    composer.Rescans r.reserved trail.executions error text := by
  match h with
  | .recursionLimit _ => cases he
  | .container .. => cases he
  | .template .. => cases he
  | .content _ _ hcontent hbody hfails =>
    rw [Trail.executions_within, Trail.Step.executions, List.append_assoc]
    rcases FailsWithin.rescans hfails he with ⟨hscan, rfl⟩ | hinside
    · exact ⟨hscan, _, List.mem_append_left _ (mem_execution? hcontent), hbody⟩
    · exact hinside.mono (List.subset_append_right _ _)
termination_by structural h

/-- If the error is not about the text itself, then it is about one inside. -/
theorem FailsWithin.rescans {depth : Nat} {r r' : Registry} {root : Data} {body : String}
    {before : List Node} {trail : Trail} {e : ComposeError} {error : TagError} {text : String}
    (h : composer.FailsWithin depth r root body before trail e r')
    (he : e = .tagSyntax error text) :
    ((scan r.reserved text).error? = some error ∧ text = body) ∨
      composer.Rescans r.reserved (executionsOf before ++ trail.executions) error text := by
  match h with
  | .tagSyntax herror _ =>
    cases he
    exact .inl ⟨herror, rfl⟩
  | .tag _ hbefore hfails =>
    have hinside := TagFails.rescans hfails he
    rw [hbefore.reserved] at hinside
    exact .inr (hinside.mono (List.subset_append_right _ _))
termination_by structural h

theorem TagFails.rescans {depth : Nat} {r r' : Registry} {root : Data} {tag : Tag} {trail : Trail}
    {e : ComposeError} {error : TagError} {text : String}
    (h : composer.TagFails depth r root tag trail e r') (he : e = .tagSyntax error text) :
    composer.Rescans r.reserved trail.executions error text := by
  match h with
  | .unregistered .. => cases he
  | .fieldBinding .. => cases he
  | .component _ _ hid hfails =>
    have hreserved := Registry.reserved_of_uncounted
      ((congrArg (·.2.uncounted) hid).symm.trans Registry.uncounted_identify)
    rw [← hreserved]
    exact Fails.rescans hfails he
termination_by structural h
end

end Composer

namespace Request
variable {q : Request} {r r' : Registry} {course : Course}

theorem Takes.rescans {before : List Node} {trail : Trail} {error : TagError} {text : String}
    (h : q.Takes r course r') (hcourse : course = .stopped before trail (.tagSyntax error text)) :
    q.composer.Rescans r.reserved (q.executed course) error text := by
  cases h with
  | written => cases hcourse
  | unfolded => cases hcourse
  | refused => cases hcourse
  | fails hfails =>
    cases hcourse
    have hinside := hfails.rescans rfl
    rw [Registry.reserved_of_uncounted Registry.uncounted_identifyRoot] at hinside
    exact hinside
  | failsWithin hbody hfails =>
    cases hcourse
    rcases hfails.rescans rfl with ⟨hscan, rfl⟩ | hinside
    · exact ⟨hscan, _, List.mem_append_left _ (List.mem_singleton_self _), hbody⟩
    · exact hinside.mono (List.subset_append_right _ _)

end Request

/-- **An error about a tag points at the text that it is about.** Wherever a scan ends with an
error, the span of the error is a piece of the text that begins with the `<` of the tag, or with the
attribute name that is none, and ends with the character that breaks the tag, or with the text if
that ends inside it; what the error carries is written there, and counted in characters the span is
one of the same piece. Wherever a composition stops with such an error, a template has come to the
text that the error comes with, and scanning that text again ends with the error. -/
theorem tag_errors_point :
    (∀ (reserved text : String) (e : TagError), (scan reserved text).error? = some e →
      ∃ before lead piece behind, ErrorPlace reserved text e before lead piece behind) ∧
    ∀ (q : Request) (r : Registry) (e : TagError) (text written : String),
      (q.run r).1 = .error ⟨.tagSyntax e text, written⟩ →
      (scan r.reserved text).error? = some e ∧
      (∃ x ∈ q.executions r, q.composer.executor x.1 x.2 = .ok text) ∧
      ∃ before lead piece behind, ErrorPlace r.reserved text e before lead piece behind := by
  refine ⟨fun reserved text e => exists_errorPlace, fun q r e text written hrun => ?_⟩
  obtain ⟨course, r', htakes⟩ := q.exists_course r
  have houtcome : course.outcome = .error ⟨.tagSyntax e text, written⟩ := by
    rw [← hrun, htakes.run_eq]
  obtain ⟨before, trail, hcourse⟩ :
      ∃ before trail, course = .stopped before trail (.tagSyntax e text) := by
    cases course with
    | written => cases houtcome
    | unfolded => cases houtcome
    | refused => cases houtcome
    | stopped before trail =>
      cases houtcome
      exact ⟨before, trail, rfl⟩
  obtain ⟨hscan, hexecuted⟩ := htakes.rescans hcourse
  rw [htakes.executions_eq]
  exact ⟨hscan, hexecuted, exists_errorPlace hscan⟩

/-- A name with a character that is none, behind a character of two bytes; and a tag without a name
in the text of a component. -/
theorem tag_errors_point_nested :
    (∃ before lead piece behind, ErrorPlace "x-" "é<x-a b!=c/>" (.invalidAttributeName ⟨7, 9⟩ "b!")
      before lead piece behind) ∧
    (scan "ick-" "é<ick- ").error? = some (.emptyTagName ⟨2, 8⟩) ∧
    ∃ before lead piece behind, ErrorPlace "ick-" "é<ick- " (.emptyTagName ⟨2, 8⟩)
      before lead piece behind := by
  have hname : (scan "x-" "é<x-a b!=c/>").error? = some (.invalidAttributeName ⟨7, 9⟩ "b!") := by
    decide +kernel
  have hstopped : Composer.failure? (Request.run
      (.fragment ⟨verbatim, {}⟩ "<ick-text Content='é<ick- '/>" .null) Composer.boxes) =
      some ⟨.tagSyntax (.emptyTagName ⟨2, 8⟩) "é<ick- ", "<span id='ick-text-0'>é"⟩ := by
    decide +kernel
  obtain ⟨hscan, -, hplace⟩ :=
    tag_errors_point.2 _ _ _ _ _ (Composer.failure?_eq_some_iff.mp hstopped)
  exact ⟨tag_errors_point.1 _ _ _ hname, hscan, hplace⟩

end TagWeave
