import TagWeave.Proofs.Text.Boundary

/-!
# Slices of a text

A span of bytes cuts a piece out of a text only if it begins and ends between two characters
(`slice?_eq_some_iff`). Counted in characters it is a span of the same piece (`take_inChars`).
-/

namespace TagWeave.Text

/-- The piece of a text that a span stands for. -/
def slice? (span : Span) (text : List Char) : Option (List Char) :=
  if span.start ≤ span.stop then do
    let (_, behind) ← cutAtByte? span.start text
    let (piece, _) ← cutAtByte? (span.stop - span.start) behind
    return piece
  else none

section
variable {span : Span} {text piece : List Char}

theorem slice?_eq_some_iff : slice? span text = some piece ↔
    ∃ before behind, text = before ++ (piece ++ behind) ∧ span.start = byteSize before ∧
      span.stop = byteSize (before ++ piece) := by
  unfold slice?
  constructor
  · intro h
    split at h
    · rename_i hle
      simp only [Option.bind_eq_bind, Option.bind_eq_some_iff, Option.pure_def, Option.some.injEq,
        Prod.exists] at h
      obtain ⟨before, rest, hstart, _, behind, hstop, rfl⟩ := h
      obtain ⟨rfl, hbefore⟩ := cutAtByte?_eq_some_iff.mp hstart
      obtain ⟨rfl, hpiece⟩ := cutAtByte?_eq_some_iff.mp hstop
      refine ⟨before, behind, rfl, hbefore, ?_⟩
      rw [byteSize_append]
      omega
    · cases h
  · rintro ⟨before, behind, rfl, hstart, hstop⟩
    rw [byteSize_append] at hstop
    have hbefore : cutAtByte? span.start (before ++ (piece ++ behind)) = some (before, _) :=
      cutAtByte?_eq_some_iff.mpr ⟨rfl, hstart⟩
    have hpiece : cutAtByte? (span.stop - span.start) (piece ++ behind) = some (piece, behind) :=
      cutAtByte?_eq_some_iff.mpr ⟨rfl, by omega⟩
    simp [hbefore, hpiece, show span.start ≤ span.stop by omega]

/-- A span in characters selects the characters of the piece that the span in bytes cuts out. -/
theorem take_inChars (h : slice? span text = some piece) :
    (text.drop (span.inChars text).start).take
      ((span.inChars text).stop - (span.inChars text).start) = piece := by
  obtain ⟨before, behind, rfl, hstart, hstop⟩ := slice?_eq_some_iff.mp h
  have hfrom : charsBefore? span.start (before ++ (piece ++ behind)) = some before.length := by
    rw [hstart]
    exact charsBefore?_append
  have hupTo : charsBefore? span.stop (before ++ (piece ++ behind)) =
      some (before ++ piece).length := by
    rw [hstop, ← List.append_assoc]
    exact charsBefore?_append
  have hchars : span.inChars (before ++ (piece ++ behind)) =
      ⟨before.length, (before ++ piece).length⟩ := by
    rw [Span.inChars, Span.inChars?, hfrom, hupTo]
    rfl
  have hlength : (before ++ piece).length - before.length = piece.length := by
    rw [List.length_append, Nat.add_sub_cancel_left]
  rw [hchars, hlength, List.drop_left, List.take_left]

end

end TagWeave.Text
