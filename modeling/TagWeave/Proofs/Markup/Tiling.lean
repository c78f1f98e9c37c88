import TagWeave.Proofs.Markup.ScanAppend
import TagWeave.Proofs.Text.Slice

/-!
# A scan loses nothing

The tokens that a scan finds are the pieces of the text, one behind the other from its first byte on
(`Tiles`), up to the end of the text or to the `<` of the tag that could not be read
(`scanFrom_tiles`). So the text is put together again from its tokens (`scan_tiles`).
-/

namespace TagWeave

open Text (byteSize)

/-- Tokens and the pieces of text that they stand for, one behind the other from the place `pos` on.
No occurrence of an opening is left in a literal run, which goes on up to a tag or to the end. -/
inductive Tiles (reserved : List Char) : (pos : Nat) → List Token → List (List Char) → Prop
  | nil : Tiles reserved pos [] []
  | literal : run ≠ [] → ¬ '<' :: reserved <:+: run →
    (∀ text, tokens.head? ≠ some (.literal text)) →
    Tiles reserved (pos + byteSize run) tokens pieces →
    Tiles reserved pos (.literal (.ofList run) :: tokens) (run :: pieces)
  | tag (form : TagForm) : Tiles reserved (pos + byteSize (form.text reserved)) tokens pieces →
    Tiles reserved pos (.tag (form.tag reserved pos) :: tokens) (form.text reserved :: pieces)

/-- What a scan leaves of a text from the place `pos` on: nothing, or a tag that cannot be read. -/
def Scan.Leaves (scan : Scan) (reserved : List Char) (pos : Nat) (rest : List Char) : Prop :=
  match scan.error? with
  | none => rest = []
  | some e => ∃ inside, rest = '<' :: (reserved ++ inside) ∧ readTag reserved pos inside = .error e

/-! ## Literal runs -/

namespace Text

/-- The part before the first occurrence of a piece holds none. -/
theorem not_infix_cutAt {piece text : List Char} (hpiece : piece ≠ []) :
    ¬ piece <:+: (cutAt piece text).1 := by
  induction text with
  | nil => simpa [cutAt] using hpiece
  | cons c text ih =>
    by_cases hc : piece <+: c :: text
    · rw [cutAt_of_starts hc]
      simpa using hpiece
    · rw [cutAt_of_not_starts hc, List.infix_cons_iff]
      rintro (hstart | hlater)
      · obtain ⟨more, hmore⟩ := hstart
        refine hc ⟨more ++ (cutAt piece text).2, ?_⟩
        rw [← List.append_assoc, hmore, List.cons_append, cutAt_append]
      · exact ih hlater

end Text

section
variable {reserved text tail : List Char} {pos : Nat} {c : Char}

/-- Behind the run before the first opening comes no other run. -/
theorem head?_scanFrom_cutAt (run : String) :
    (scanFrom reserved pos (Text.cutAt ('<' :: reserved) text).2).tokens.head? ≠
      some (.literal run) := by
  cases hrest : (Text.cutAt ('<' :: reserved) text).2 with
  | nil =>
    rw [scanFrom_nil]
    exact nofun
  | cons c tail =>
    obtain ⟨inside, hinside⟩ : '<' :: reserved <+: c :: tail := by
      rw [← hrest]
      exact Text.prefix_cutAt (by simp [hrest])
    exact head?_scanFrom_of_open (Text.after?_eq_some_iff.mpr hinside.symm) run

theorem scanFrom_tiles (reserved : List Char) (pos : Nat) (text : List Char) :
    ∃ pieces rest, text = pieces.flatten ++ rest ∧
      Tiles reserved pos (scanFrom reserved pos text).tokens pieces ∧
      (scanFrom reserved pos text).Leaves reserved (pos + byteSize pieces.flatten) rest := by
  fun_induction scanFrom reserved pos text with
  | case1 => exact ⟨[], [], rfl, .nil, rfl⟩
  | case2 pos c tail inside hopen e htag =>
    exact ⟨[], c :: tail, rfl, .nil, inside, Text.after?_eq_some_iff.mp hopen, htag⟩
  | case3 pos c tail inside hopen tag rest htag hlt ih =>
    obtain ⟨pieces, left, hrest, htiles, hleaves⟩ := ih
    obtain ⟨form, htext, rfl⟩ := readTag_eq_ok_iff.mp htag
    refine ⟨form.text reserved :: pieces, left, ?_, .tag form htiles, ?_⟩
    · rw [Text.after?_eq_some_iff.mp hopen, List.cons_append, htext, hrest, List.flatten_cons,
        List.append_assoc]
    · rw [List.flatten_cons, Text.byteSize_append, ← Nat.add_assoc]
      exact hleaves
  | case4 pos c tail hopen run hlt ih =>
    obtain ⟨pieces, left, hrest, htiles, hleaves⟩ := ih
    have hrun : run = (Text.cutAt ('<' :: reserved) (c :: tail)).1 := by
      rw [Text.cutAt_of_not_starts (Text.after?_eq_none_iff.mp hopen)]
    refine ⟨run :: pieces, left, ?_, .literal (List.cons_ne_nil _ _) ?_ head?_scanFrom_cutAt htiles,
      ?_⟩
    · rw [List.flatten_cons, List.append_assoc, ← hrest]
      exact congrArg (c :: ·) (Text.cutAt_append ('<' :: reserved) tail).symm
    · rw [hrun]
      exact Text.not_infix_cutAt (List.cons_ne_nil _ _)
    · rw [List.flatten_cons, Text.byteSize_append, ← Nat.add_assoc]
      exact hleaves

end

/-! ## Tokens and their pieces -/

/-- The piece of a text that a token stands for: a literal run is that piece itself, a tag has it at
its span. -/
def Token.piece? (text : List Char) : Token → Option (List Char)
  | literal run => some run.toList
  | tag t => Text.slice? t.span text

theorem TagForm.prefix_text (form : TagForm) (reserved : List Char) :
    '<' :: reserved <+: form.text reserved :=
  ⟨form.suffix ++ TagParts.closed form.parts, by simp [TagForm.text]⟩

theorem TagForm.suffix_text (form : TagForm) (reserved : List Char) :
    ['/', '>'] <:+ form.text reserved :=
  ⟨'<' :: (reserved ++ (form.suffix ++ TagParts.text form.parts)), by
    simp [TagForm.text, TagParts.closed]⟩

namespace Tiles
variable {reserved : List Char} {pos : Nat} {tokens : List Token} {pieces : List (List Char)}

theorem mapM_piece? (h : Tiles reserved pos tokens pieces) {before rest : List Char}
    (hpos : pos = byteSize before) :
    tokens.mapM (Token.piece? (before ++ (pieces.flatten ++ rest))) = some pieces := by
  induction h generalizing before with
  | nil => rfl
  | @literal run pos tokens pieces _ _ _ _ ih =>
    have hnext : pos + byteSize run = byteSize (before ++ run) := by
      rw [hpos, Text.byteSize_append]
    have hmore := ih hnext
    rw [List.append_assoc, ← List.append_assoc run] at hmore
    rw [List.mapM_cons, List.flatten_cons, hmore]
    simp [Token.piece?]
  | @tag pos tokens pieces form _ ih =>
    have hnext : pos + byteSize (form.text reserved) = byteSize (before ++ form.text reserved) := by
      rw [hpos, Text.byteSize_append]
    have hmore := ih hnext
    have hslice : Text.slice? ⟨pos, pos + byteSize (form.text reserved)⟩
        (before ++ (form.text reserved ++ (pieces.flatten ++ rest))) = some (form.text reserved) :=
      Text.slice?_eq_some_iff.mpr ⟨before, _, rfl, hpos, by rw [Text.byteSize_append, hpos]⟩
    rw [List.append_assoc] at hmore
    rw [List.mapM_cons, List.flatten_cons, List.append_assoc, hmore]
    simp [Token.piece?, TagForm.tag, hslice]

theorem length_le (h : Tiles reserved pos tokens pieces) :
    tokens.length ≤ pieces.flatten.length := by
  induction h with
  | nil => simp
  | literal hne _ _ _ ih =>
    have := List.length_pos_iff.mpr hne
    simp only [List.length_cons, List.flatten_cons, List.length_append]
    omega
  | tag form _ ih =>
    have := (form.prefix_text reserved).length_le
    simp only [List.length_cons, List.flatten_cons, List.length_append] at this ⊢
    omega

theorem literal_at (h : Tiles reserved pos tokens pieces) {i : Nat} {run : String}
    (hi : tokens[i]? = some (.literal run)) :
    run ≠ "" ∧ ¬ '<' :: reserved <:+: run.toList ∧
      ∀ next, tokens[i + 1]? ≠ some (.literal next) := by
  induction h generalizing i with
  | nil => cases hi
  | @literal text pos tokens pieces hne hopen hnext _ ih =>
    cases i with
    | succ i => exact ih hi
    | zero =>
      cases hi
      rw [String.toList_ofList]
      refine ⟨fun h => hne (by simpa using h), hopen, fun next => ?_⟩
      rw [List.getElem?_cons_succ, ← List.head?_eq_getElem?]
      exact hnext next
  | tag _ _ ih =>
    cases i with
    | succ i => exact ih hi
    | zero => cases hi

theorem tag_at (h : Tiles reserved pos tokens pieces) {i : Nat} {tag : Tag}
    (hi : tokens[i]? = some (.tag tag)) : ∃ form : TagForm,
      pieces[i]? = some (form.text reserved) ∧
      tag = form.tag reserved (pos + byteSize (pieces.take i).flatten) := by
  induction h generalizing i with
  | nil => cases hi
  | literal _ _ _ _ ih =>
    cases i with
    | zero => cases hi
    | succ i =>
      obtain ⟨form, hpiece, rfl⟩ := ih hi
      exact ⟨form, hpiece, by simp [Nat.add_assoc]⟩
  | tag form _ ih =>
    cases i with
    | zero =>
      cases hi
      exact ⟨form, rfl, rfl⟩
    | succ i =>
      obtain ⟨form, hpiece, rfl⟩ := ih hi
      exact ⟨form, hpiece, by simp [Nat.add_assoc]⟩

end Tiles

/-- A tag that a scan finds is written in the text, its `<` where its span begins. -/
theorem exists_form_of_mem_scan {reserved text : String} {tag : Tag}
    (h : .tag tag ∈ (scan reserved text).tokens) : ∃ form : TagForm, ∃ before behind,
      text.toList = before ++ (form.text reserved.toList ++ behind) ∧
      tag = form.tag reserved.toList (byteSize before) := by
  obtain ⟨pieces, rest, htext, htiles, -⟩ := scanFrom_tiles reserved.toList 0 text.toList
  obtain ⟨i, hi⟩ := List.mem_iff_getElem?.mp h
  obtain ⟨form, hpiece, htag⟩ := htiles.tag_at hi
  rw [Nat.zero_add] at htag
  refine ⟨form, (pieces.take i).flatten, (pieces.drop (i + 1)).flatten ++ rest, ?_, htag⟩
  have hdrop : pieces.drop i = form.text reserved.toList :: pieces.drop (i + 1) := by
    rw [List.drop_eq_getElem?_toList_append, hpiece]
    rfl
  have hflatten : pieces.flatten = (pieces.take i).flatten ++ (pieces.drop i).flatten := by
    rw [← List.flatten_append, List.take_append_drop]
  rw [htext, hflatten, hdrop, List.flatten_cons, List.append_assoc, List.append_assoc]

/-- **A text is put together again from its tokens.** A scan finds finitely many tokens. Each stands
for a piece of the text, and the pieces come one behind the other from the first byte on; behind
them nothing is left, or else the tag that the error is about. A literal run is not empty, holds no
opening of a tag and is not followed by another run. A tag has its span exactly where its piece
stands, between characters, and that begins with the opening of a tag and ends with the end of
one. -/
theorem scan_tiles (reserved text : String) :
    (scan reserved text).tokens.length ≤ text.toList.length ∧
    ∃ pieces rest, (scan reserved text).tokens.mapM (Token.piece? text.toList) = some pieces ∧
      text.toList = pieces.flatten ++ rest ∧
      (scan reserved text).Leaves reserved.toList (byteSize pieces.flatten) rest ∧
      (∀ (i : Nat) run, (scan reserved text).tokens[i]? = some (.literal run) →
        run ≠ "" ∧ ¬ '<' :: reserved.toList <:+: run.toList ∧
        ∀ next, (scan reserved text).tokens[i + 1]? ≠ some (.literal next)) ∧
      ∀ (i : Nat) tag, (scan reserved text).tokens[i]? = some (.tag tag) →
        tag.span = ⟨byteSize (pieces.take i).flatten, byteSize (pieces.take (i + 1)).flatten⟩ ∧
        ∃ piece, Text.slice? tag.span text.toList = some piece ∧
          '<' :: reserved.toList <+: piece ∧ ['/', '>'] <:+ piece := by
  obtain ⟨pieces, rest, htext, htiles, hleaves⟩ := scanFrom_tiles reserved.toList 0 text.toList
  have hpieces : (scan reserved text).tokens.mapM (Token.piece? text.toList) = some pieces := by
    have hstart : 0 = byteSize [] := rfl
    rw [htext]
    exact htiles.mapM_piece? hstart
  rw [Nat.zero_add] at hleaves
  refine ⟨?_, pieces, rest, hpieces, htext, hleaves, fun i run => htiles.literal_at, ?_⟩
  · refine Nat.le_trans htiles.length_le ?_
    rw [htext, List.length_append]
    exact Nat.le_add_right _ _
  · intro i tag hi
    obtain ⟨form, hpiece, htag⟩ := htiles.tag_at hi
    rw [Nat.zero_add] at htag
    have htake : (pieces.take (i + 1)).flatten =
        (pieces.take i).flatten ++ form.text reserved.toList := by
      rw [List.take_add_one, hpiece, Option.toList_some, List.flatten_concat]
    have hwhole : text.toList =
        (pieces.take (i + 1)).flatten ++ ((pieces.drop (i + 1)).flatten ++ rest) := by
      rw [htext, ← List.append_assoc, ← List.flatten_append, List.take_append_drop]
    rw [htake, List.append_assoc] at hwhole
    have hspan : tag.span =
        ⟨byteSize (pieces.take i).flatten, byteSize (pieces.take (i + 1)).flatten⟩ := by
      rw [htake, Text.byteSize_append, htag]
      rfl
    refine ⟨hspan, form.text reserved.toList, Text.slice?_eq_some_iff.mpr ⟨_, _, hwhole, ?_, ?_⟩,
      form.prefix_text _, form.suffix_text _⟩
    · rw [hspan]
    · rw [hspan, htake]

end TagWeave
