import TagWeave.Proofs.Markup.ErrorSpans
import TagWeave.Proofs.Markup.Tiling

/-!
# What may follow a text

A scan decides as it goes. Behind a tag it begins anew, so two texts are scanned one after the other
if the first one ends with a tag. An error depends only on the text up to its end, and on one more
character where that ends with a slash (`ScanBreaks.final`); what stands before the character that
breaks a tag can still be completed to one (`ScanBreaks.completable`).
-/

namespace TagWeave

open Text (byteSize isAsciiBlank Stops)

/-! ## What may follow a broken tag -/

theorem atBreak_cons_iff : AtBreak (c :: rest) ↔
    isAsciiBlank c = true ∨ (c = '/' ∧ rest.head? = some '>') := by
  constructor
  · intro h
    cases h with
    | blank hc => exact .inl hc
    | close => exact .inr ⟨rfl, rfl⟩
  · rintro (hc | ⟨rfl, hrest⟩)
    · exact .blank hc
    · obtain ⟨tail, rfl⟩ := List.head?_eq_some_iff.mp hrest
      exact .close

/-- Behind a slash one more character tells whether the tag ends. -/
theorem atBreak_congr (hsame : c = '/' → more.head? = behind.head?) :
    AtBreak (c :: behind) ↔ AtBreak (c :: more) := by
  rw [atBreak_cons_iff, atBreak_cons_iff]
  refine or_congr_right (and_congr_right fun hc => ?_)
  rw [hsame hc]

section
variable {tag : OpenTag} {name : String} {reserved sound ending behind more : List Char}
  {pos start : Nat} {c : Char} {e : TagError}

theorem ItemBreaks.congr (h : ItemBreaks tag pos e sound [c] behind)
    (hsame : c = '/' → more.head? = behind.head?) : ItemBreaks tag pos e sound [c] more := by
  cases h with
  | noName => exact .noName
  | strange hname hstrange hequals hbreak =>
    exact .strange hname hstrange hequals fun h => hbreak ((atBreak_congr hsame).mpr h)
  | value hname hgap hvalue =>
    cases hvalue
    exact .value hname hgap .noValue

theorem TagBreaks.congr (h : TagBreaks reserved start e sound [c] behind)
    (hsame : c = '/' → more.head? = behind.head?) : TagBreaks reserved start e sound [c] more := by
  cases h with
  | noName hbreak => exact .noName ((atBreak_congr hsame).mp hbreak)
  | strange hsuffix hc hbreak =>
    exact .strange hsuffix hc fun h => hbreak ((atBreak_congr hsame).mpr h)
  | item front hitem => exact .item front (hitem.congr hsame)

/-- The error is that the text ends inside the tag. -/
def TagError.atEnd : TagError → Bool
  | unterminatedQuote .. | unterminatedTag .. => true
  | _ => false

/-- A tag is broken by one character, or it is not finished at the end of the text. -/
theorem TagBreaks.ending_cases (h : TagBreaks reserved start e sound ending behind) :
    (e.atEnd = true ∧ ending = [] ∧ behind = []) ∨ (e.atEnd = false ∧ ∃ c, ending = [c]) := by
  have hbroken {c : Char} : ∃ d, [c] = [d] := ⟨c, rfl⟩
  cases h with
  | noName | strange => exact .inr ⟨rfl, hbroken⟩
  | unfinished => exact .inl ⟨rfl, rfl, rfl⟩
  | item front hitem =>
    cases hitem with
    | noName | strange => exact .inr ⟨rfl, hbroken⟩
    | unfinished => exact .inl ⟨rfl, rfl, rfl⟩
    | value _ _ hvalue =>
      cases hvalue with
      | noValue => exact .inr ⟨rfl, hbroken⟩
      | openQuote | unfinished => exact .inl ⟨rfl, rfl, rfl⟩

/-! ## How a broken tag may go on -/

theorem ValueBreaks.completes (h : ValueBreaks tag name pos e sound ending behind) :
    ∃ more, ∃ v : WrittenValue, sound ++ more = v.text ∧ v.Valid := by
  have hvalue (value : String) (hv : IsUnquoted value.toList) :
      ∃ v : WrittenValue, value.toList = v.text ∧ v.Valid := ⟨.unquoted value, rfl, hv⟩
  cases h with
  | noValue =>
    have hslash : IsUnquoted ['/', 'x'] :=
      ⟨by decide, Text.stops_cons.mpr (by decide), by simp [isAsciiBlank], by decide⟩
    exact ⟨['x'], hvalue "/x" hslash⟩
  | @openQuote quote value hquote hmem =>
    refine ⟨[quote], .quoted quote (.ofList value), ?_, hquote, ?_⟩
    · simp [WrittenValue.text]
    · rwa [String.toList_ofList]
  | unfinished hvalue =>
    rcases hvalue with rfl | hunquoted
    · have hletter : IsUnquoted ['x'] :=
        ⟨by decide, Text.stops_cons.mpr (by decide), by simp [isAsciiBlank], by decide⟩
      exact ⟨['x'], hvalue "x" hletter⟩
    · refine ⟨[], .unquoted (.ofList sound), ?_, ?_⟩
      · simp [WrittenValue.text]
      · simpa [WrittenValue.Valid] using hunquoted

theorem ItemBreaks.completes (h : ItemBreaks tag pos e sound ending behind) :
    ∃ more parts, sound ++ more = TagParts.text parts ∧ TagParts.WellFormed parts := by
  have hnamed {name : String} (hname : name = "" ∨ isName name = true) :
      ∃ more parts, name.toList ++ more = TagParts.text parts ∧ TagParts.WellFormed parts := by
    rcases hname with rfl | hname
    · exact ⟨[], [], rfl, trivial⟩
    · exact ⟨[], [.bare name], by simp [TagParts.text, TagPart.text], hname, fun _ => trivial,
        trivial⟩
  cases h with
  | noName => exact ⟨[], [], rfl, trivial⟩
  | strange hname => exact hnamed hname
  | unfinished hname => exact hnamed hname
  | @value name gap _ sound _ _ hname hgap hvalue =>
    obtain ⟨more, v, htext, hv⟩ := hvalue.completes
    refine ⟨more, [.valued name gap v], ?_, ⟨hname, hgap, hv⟩, fun _ => trivial, trivial⟩
    simp [TagParts.text, TagPart.text, ← htext]

/-- **What stands before the break of a tag can be completed to a tag.** -/
theorem TagBreaks.completes (h : TagBreaks reserved start e sound ending behind) :
    ∃ more, ∃ form : TagForm, sound ++ more = form.text reserved := by
  -- A letter makes any part of a name a name.
  have hnamed (suffix : List Char) (hsuffix : ∀ d ∈ suffix, isNameChar d = true) :
      ∃ more, ∃ form : TagForm, '<' :: (reserved ++ suffix) ++ more = form.text reserved := by
    have hchars : ∀ d ∈ suffix ++ ['x'], isNameChar d = true := by
      intro d hd
      rcases List.mem_append.mp hd with hd | hd
      · exact hsuffix d hd
      · cases List.mem_singleton.mp hd
        decide
    refine ⟨['x', '/', '>'], ⟨suffix ++ ['x'], [], by simp, hchars, trivial, trivial⟩, ?_⟩
    simp [TagForm.text]
  cases h with
  | noName =>
    obtain ⟨more, form, htext⟩ := hnamed [] (List.forall_mem_nil _)
    rw [List.append_nil] at htext
    exact ⟨more, form, htext⟩
  | strange hsuffix | unfinished hsuffix => exact hnamed _ hsuffix
  | item front hitem =>
    obtain ⟨more, parts, htext, hparts⟩ := hitem.completes
    have hfirst : TagParts.BreakFirst (front.parts ++ parts) := by
      obtain ⟨c, rest, hblank⟩ := front.blank_first
      rw [hblank]
      trivial
    refine ⟨more ++ ['/', '>'], ⟨front.suffix, front.parts ++ parts, front.suffix_ne,
      front.suffix_chars, hfirst, front.continued.append hparts⟩, ?_⟩
    simp only [TagForm.text, TagFront.text, TagParts.closed, TagParts.text, List.flatMap_append,
      List.append_assoc, List.cons_append] at htext ⊢
    rw [← htext]
    simp

theorem TagBreaks.opens (h : TagBreaks reserved start e sound ending behind) :
    '<' :: reserved <+: sound := by
  cases h with
  | noName => exact List.prefix_rfl
  | strange | unfinished => exact List.prefix_append _ _
  | item front =>
    rw [TagFront.text, List.cons_append, List.append_assoc]
    exact List.prefix_append ('<' :: reserved) _

end

/-! ## What may follow a token -/

namespace Text
variable {piece text run rest : List Char}

/-- Where a text is cut does not depend on what follows the piece. -/
theorem cutAt_congr (hcut : cutAt piece text = (run, piece ++ rest)) (hpiece : piece ≠ [])
    (rest' : List Char) : cutAt piece (run ++ (piece ++ rest')) = (run, piece ++ rest') := by
  have htext : text = run ++ piece ++ rest := by
    have := cutAt_append piece text
    rw [hcut] at this
    simpa using this.symm
  have hfound : (cutAt piece (run ++ piece)).2 ≠ [] := by
    intro hnil
    have hrun := cutAt_append piece (run ++ piece)
    rw [hnil, List.append_nil] at hrun
    have hnone : ¬ piece <:+: (cutAt piece (run ++ piece)).1 := not_infix_cutAt hpiece
    rw [hrun] at hnone
    exact hnone (List.suffix_append run piece).isInfix
  rw [htext, cutAt_append_of_found hfound, Prod.mk.injEq, List.append_cancel_right_eq] at hcut
  rw [← List.append_assoc, cutAt_append_of_found hfound, hcut.1, hcut.2]

end Text

/-- The tokens that come before what is found. -/
def Scan.prepend (tokens : List Token) (scan : Scan) : Scan :=
  ⟨tokens ++ scan.tokens, scan.error?⟩

section
variable {reserved text run rest : List Char} {pos : Nat} {c : Char} {tokens : List Token}
  {pieces : List (List Char)}

theorem scanFrom_form_append (form : TagForm) : scanFrom reserved pos (form.text reserved ++ rest) =
    (scanFrom reserved (pos + byteSize (form.text reserved)) rest).cons
      (.tag (form.tag reserved pos)) := by
  have hopen : Text.after? ('<' :: reserved) (form.text reserved ++ rest) =
      some (form.suffix ++ (TagParts.closed form.parts ++ rest)) :=
    Text.after?_eq_some_iff.mpr (by simp [TagForm.text])
  exact scanFrom_of_tag hopen (readTag_form form)

theorem scanFrom_of_cut (hcut : Text.cutAt ('<' :: reserved) text = (c :: run, rest)) :
    scanFrom reserved pos text = (scanFrom reserved (pos + byteSize (c :: run)) rest).cons
      (.literal (.ofList (c :: run))) := by
  cases text with
  | nil => cases hcut
  | cons d tail =>
    by_cases hopen : '<' :: reserved <+: d :: tail
    · rw [Text.cutAt_of_starts hopen] at hcut
      cases hcut
    · rw [Text.cutAt_of_not_starts hopen, Prod.mk.injEq, List.cons.injEq] at hcut
      obtain ⟨⟨rfl, rfl⟩, rfl⟩ := hcut
      exact scanFrom_of_run (Text.after?_eq_none_iff.mpr hopen)

/-- Pieces begin with an opening if another one follows them and no literal run comes first. -/
theorem Tiles.opens (h : Tiles reserved pos tokens pieces)
    (hfirst : ∀ run, tokens.head? ≠ some (.literal run)) (more : List Char) :
    '<' :: reserved <+: pieces.flatten ++ '<' :: (reserved ++ more) := by
  cases h with
  | nil => exact List.prefix_append ('<' :: reserved) more
  | literal => exact absurd rfl (hfirst _)
  | tag form =>
    rw [List.flatten_cons, List.append_assoc]
    exact (form.prefix_text reserved).trans (List.prefix_append _ _)

/-- The tokens before a tag that cannot be read do not depend on what stands in it. -/
theorem scanFrom_error_split {e : TagError} (h : (scanFrom reserved pos text).error? = some e) :
    ∃ pieces inside, text = pieces.flatten ++ '<' :: (reserved ++ inside) ∧
      Tiles reserved pos (scanFrom reserved pos text).tokens pieces ∧
      readTag reserved (pos + byteSize pieces.flatten) inside = .error e ∧
      ∀ inside, scanFrom reserved pos (pieces.flatten ++ '<' :: (reserved ++ inside)) =
        (scanFrom reserved (pos + byteSize pieces.flatten) ('<' :: (reserved ++ inside))).prepend
          (scanFrom reserved pos text).tokens := by
  fun_induction scanFrom reserved pos text with
  | case1 => cases h
  | case2 pos c tail inside hopen e' htag =>
    cases h
    have htext : c :: tail = '<' :: (reserved ++ inside) := Text.after?_eq_some_iff.mp hopen
    exact ⟨[], inside, htext, .nil, htag, fun _ => rfl⟩
  | case3 pos c tail inside hopen tag rest htag hlt ih =>
    obtain ⟨pieces, broken, hrest, htiles, herror, hresume⟩ := ih h
    obtain ⟨form, htext, rfl⟩ := readTag_eq_ok_iff.mp htag
    refine ⟨form.text reserved :: pieces, broken, ?_, .tag form htiles, ?_, fun inside => ?_⟩
    · rw [Text.after?_eq_some_iff.mp hopen, List.cons_append, htext, hrest, List.flatten_cons,
        List.append_assoc]
    · rw [List.flatten_cons, Text.byteSize_append, ← Nat.add_assoc]
      exact herror
    · rw [List.flatten_cons, List.append_assoc, scanFrom_form_append, Text.byteSize_append,
        ← Nat.add_assoc]
      exact congrArg (Scan.cons _) (hresume inside)
  | case4 pos c tail hopen run hlt ih =>
    obtain ⟨pieces, broken, hrest, htiles, herror, hresume⟩ := ih h
    have hcut : Text.cutAt ('<' :: reserved) (c :: tail) =
        (run, pieces.flatten ++ '<' :: (reserved ++ broken)) := by
      rw [Text.cutAt_of_not_starts (Text.after?_eq_none_iff.mp hopen), ← hrest]
    have hfirst : ∀ text, (scanFrom reserved (pos + byteSize run)
        (Text.cutAt ('<' :: reserved) tail).2).tokens.head? ≠ some (.literal text) :=
      head?_scanFrom_cutAt
    have hnone : ¬ '<' :: reserved <:+: run := by
      have hfirst : ¬ '<' :: reserved <:+: (Text.cutAt ('<' :: reserved) (c :: tail)).1 :=
        Text.not_infix_cutAt (List.cons_ne_nil '<' reserved)
      rwa [hcut] at hfirst
    refine ⟨run :: pieces, broken, ?_, .literal (List.cons_ne_nil _ _) hnone hfirst htiles, ?_,
      fun inside => ?_⟩
    · rw [List.flatten_cons, List.append_assoc, ← hrest]
      exact congrArg (c :: ·) (Text.cutAt_append ('<' :: reserved) tail).symm
    · rw [List.flatten_cons, Text.byteSize_append, ← Nat.add_assoc]
      exact herror
    · -- The run ends where a tag opens, and one opens there whatever stands in the broken tag.
      obtain ⟨after, hafter⟩ := htiles.opens hfirst broken
      obtain ⟨after', hafter'⟩ := htiles.opens hfirst inside
      rw [← hafter] at hcut
      have hcut' := Text.cutAt_congr hcut (List.cons_ne_nil '<' reserved) after'
      rw [hafter', ← List.append_assoc, ← List.flatten_cons] at hcut'
      rw [scanFrom_of_cut hcut', hresume inside, List.flatten_cons, Text.byteSize_append,
        ← Nat.add_assoc]
      rfl

end

/-! ## Whole texts -/

/-- A scan ends with an error. The pieces are those of the tokens found, and behind them stands the
tag that breaks. -/
structure ScanBreaks (reserved text : String) (e : TagError) (pieces : List (List Char))
    (sound ending behind : List Char) : Prop where
  text_eq : text.toList = pieces.flatten ++ (sound ++ (ending ++ behind))
  pieces_eq : (scan reserved text).tokens.mapM (Token.piece? text.toList) = some pieces
  error_eq : (scan reserved text).error? = some e
  breaks : TagBreaks reserved.toList (byteSize pieces.flatten) e sound ending behind
  /-- The tokens do not depend on what stands in the tag that breaks. -/
  resume : ∀ inside,
    scanFrom reserved.toList 0 (pieces.flatten ++ '<' :: (reserved.toList ++ inside)) =
      (scanFrom reserved.toList (byteSize pieces.flatten)
        ('<' :: (reserved.toList ++ inside))).prepend (scan reserved text).tokens

section
variable {reserved text : String} {e : TagError} {pieces : List (List Char)}
  {sound ending behind more : List Char}

theorem exists_scanBreaks (h : (scan reserved text).error? = some e) :
    ∃ pieces sound ending behind, ScanBreaks reserved text e pieces sound ending behind := by
  obtain ⟨pieces, inside, htext, htiles, herror, hresume⟩ := scanFrom_error_split h
  rw [Nat.zero_add] at herror hresume
  obtain ⟨sound, ending, behind, hinside, hbreaks⟩ := readTag_eq_error_iff.mp herror
  have hpieces : (scan reserved text).tokens.mapM (Token.piece? text.toList) = some pieces := by
    have hstart : 0 = byteSize [] := rfl
    rw [htext]
    exact htiles.mapM_piece? hstart
  rw [hinside] at htext
  exact ⟨pieces, sound, ending, behind, htext, hpieces, h, hbreaks, hresume⟩

/-- The text up to the break, followed by whatever breaks the tag with the same error. -/
theorem ScanBreaks.final (h : ScanBreaks reserved text e pieces sound ending behind)
    (hbreaks : TagBreaks reserved.toList (byteSize pieces.flatten) e sound ending more) :
    scan reserved (.ofList (pieces.flatten ++ (sound ++ (ending ++ more)))) =
      scan reserved text := by
  obtain ⟨inside, hsound⟩ := h.breaks.opens
  have hopening : sound ++ (ending ++ more) =
      '<' :: (reserved.toList ++ (inside ++ (ending ++ more))) := by
    rw [← hsound]
    simp
  have herror : readTag reserved.toList (byteSize pieces.flatten) (inside ++ (ending ++ more)) =
      .error e := readTag_eq_error_iff.mpr ⟨sound, ending, more, hopening.symm, hbreaks⟩
  have hopen : Text.after? ('<' :: reserved.toList)
      ('<' :: (reserved.toList ++ (inside ++ (ending ++ more)))) = some _ :=
    Text.after?_eq_some_iff.mpr rfl
  rw [scan, String.toList_ofList, hopening, h.resume, scanFrom_of_error hopen herror]
  change Scan.mk ((scan reserved text).tokens ++ []) (some e) = scan reserved text
  rw [List.append_nil, ← h.error_eq]

/-- What stands before the break goes on to a text with one more tag and nothing behind it. -/
theorem ScanBreaks.completable (h : ScanBreaks reserved text e pieces sound ending behind) :
    ∃ more tag, scan reserved (.ofList (pieces.flatten ++ (sound ++ more))) =
      ⟨(scan reserved text).tokens ++ [.tag tag], none⟩ := by
  obtain ⟨more, form, hform⟩ := h.breaks.completes
  obtain ⟨inside, hinside⟩ := form.prefix_text reserved.toList
  refine ⟨more, form.tag reserved.toList (byteSize pieces.flatten), ?_⟩
  have hopening : sound ++ more = '<' :: (reserved.toList ++ inside) := by
    rw [hform, ← hinside, List.cons_append]
  rw [scan, String.toList_ofList, hopening, h.resume, ← hopening, hform, scanFrom_form]
  rfl

/-- A text that ends inside a tag goes on so. -/
theorem ScanBreaks.continuable (h : ScanBreaks reserved text e pieces sound [] []) :
    ∃ more tag, scan reserved (text ++ .ofList more) =
      ⟨(scan reserved text).tokens ++ [.tag tag], none⟩ := by
  obtain ⟨more, tag, hmore⟩ := h.completable
  refine ⟨more, tag, ?_⟩
  have htext : text ++ .ofList more = .ofList (pieces.flatten ++ (sound ++ more)) := by
    rw [← String.toList_inj, String.toList_append, h.text_eq, String.toList_ofList,
      String.toList_ofList]
    simp
  rw [htext, hmore]

/-- The span of the error cuts out the piece that it is about, and ends where the tag breaks. -/
theorem ScanBreaks.span (h : ScanBreaks reserved text e pieces sound ending behind) :
    ∃ lead piece, sound ++ ending = lead ++ piece ∧ piece ≠ [] ∧
      e.IsAbout reserved.toList lead piece ∧ Text.slice? e.span text.toList = some piece ∧
      e.span.start = byteSize (pieces.flatten ++ lead) ∧
      Text.cutAtByte? e.span.stop text.toList =
        some (pieces.flatten ++ (sound ++ ending), behind) := by
  obtain ⟨lead, piece, hpiece, hne, hspan, habout⟩ := h.breaks.isAbout
  have htext : text.toList = pieces.flatten ++ (sound ++ ending) ++ behind := by
    rw [h.text_eq]
    simp
  have hstart : e.span.start = byteSize (pieces.flatten ++ lead) := by
    rw [hspan, Text.byteSize_append (a := pieces.flatten)]
  have hstop : e.span.stop = byteSize (pieces.flatten ++ (sound ++ ending)) := by
    rw [hspan, hpiece, Text.byteSize_append (a := pieces.flatten)]
  refine ⟨lead, piece, hpiece, hne, habout, Text.slice?_eq_some_iff.mpr
    ⟨pieces.flatten ++ lead, behind, ?_, hstart, ?_⟩, hstart, Text.cutAtByte?_eq_some_iff.mpr
    ⟨htext, hstop⟩⟩
  · rw [htext, hpiece]
    simp
  · rw [hstop, hpiece, List.append_assoc]

/-- Up to the end of the error's span the text may go on in any way, unless a slash stands there. -/
theorem ScanBreaks.scan_upTo {c : Char}
    (h : ScanBreaks reserved text e pieces sound [c] behind) :
    ∃ upTo piece, Text.cutAtByte? e.span.stop text.toList = some (upTo, behind) ∧
      Text.slice? e.span text.toList = some piece ∧
      (piece.getLast? ≠ some '/' →
        ∀ more : String, scan reserved (.ofList upTo ++ more) = scan reserved text) := by
  obtain ⟨lead, piece, hpiece, hne, -, hslice, -, hcut⟩ := h.span
  refine ⟨_, piece, hcut, hslice, fun hslash more => ?_⟩
  have hlast : piece.getLast? = some c := by
    have hends := congrArg List.getLast? hpiece
    rw [List.getLast?_concat, List.getLast?_append, List.getLast?_eq_some_getLast hne] at hends
    rw [List.getLast?_eq_some_getLast hne, hends]
    rfl
  have hbreaks : TagBreaks reserved.toList (byteSize pieces.flatten) e sound [c] more.toList :=
    h.breaks.congr fun hc => absurd (hlast.trans (congrArg some hc)) hslash
  have htext : String.ofList (pieces.flatten ++ (sound ++ [c])) ++ more =
      .ofList (pieces.flatten ++ (sound ++ ([c] ++ more.toList))) := by
    rw [← String.toList_inj, String.toList_append, String.toList_ofList, String.toList_ofList]
    simp
  rw [htext]
  exact h.final hbreaks

end

theorem joinTokens_of_tag_last {tokens more : List Token}
    (h : tokens = [] ∨ ∃ tag, tokens.getLast? = some (.tag tag)) :
    joinTokens tokens more = tokens ++ more := by
  induction tokens with
  | nil => rfl
  | cons token tokens ih =>
    obtain ⟨tag, hlast⟩ := h.resolve_left (List.cons_ne_nil token tokens)
    cases tokens with
    | nil =>
      cases hlast
      rfl
    | cons next tokens =>
      rw [List.getLast?_cons_cons] at hlast
      rw [joinTokens_of_ne_nil (List.cons_ne_nil next tokens), ih (.inr ⟨tag, hlast⟩)]
      rfl

/-- Behind a tag a scan begins anew. -/
theorem scan_append_behind_tag {reserved first second : String}
    (hscan : (scan reserved first).error? = none)
    (hlast : first = "" ∨ ∃ tag, (scan reserved first).tokens.getLast? = some (.tag tag)) :
    (scan reserved (first ++ second)).tokens = (scan reserved first).tokens ++
        (scan reserved second).tokens.map (Token.shift (byteSize first.toList)) ∧
      (scan reserved (first ++ second)).error? =
        (scan reserved second).error?.map (TagError.shift (byteSize first.toList)) := by
  have htokens : (scan reserved first).tokens = [] ∨
      ∃ tag, (scan reserved first).tokens.getLast? = some (.tag tag) := by
    refine hlast.imp_left ?_
    rintro rfl
    exact congrArg Scan.tokens scanFrom_nil
  have hseam : SeamFree reserved first second := by
    intro run hrun
    rcases htokens with hnil | ⟨tag, htag⟩
    · rw [hnil] at hrun
      cases hrun
    · rw [htag] at hrun
      cases hrun
  rw [scan_append hscan hseam]
  exact ⟨joinTokens_of_tag_last htokens, rfl⟩

/-- **A scan goes on anew behind a tag, and an error stays.** If the first of two texts is empty or
ends with a tag, the second one is scanned as it is alone, only that many bytes further on. Of a
text with an error only what stands up to the end of the error's span matters, unless that ends with
a slash; and a text that ends inside a tag can go on so that it scans without error. -/
theorem scan_goes_on (reserved : String) :
    (∀ first second : String, (scan reserved first).error? = none →
      (first = "" ∨ ∃ tag, (scan reserved first).tokens.getLast? = some (.tag tag)) →
      (scan reserved (first ++ second)).tokens = (scan reserved first).tokens ++
        (scan reserved second).tokens.map (Token.shift (byteSize first.toList)) ∧
      (scan reserved (first ++ second)).error? =
        (scan reserved second).error?.map (TagError.shift (byteSize first.toList))) ∧
    ∀ (text : String) (e : TagError), (scan reserved text).error? = some e →
      (e.atEnd = false → ∃ upTo behind piece,
        Text.cutAtByte? e.span.stop text.toList = some (upTo, behind) ∧
        Text.slice? e.span text.toList = some piece ∧
        (piece.getLast? ≠ some '/' →
          ∀ more : String, scan reserved (.ofList upTo ++ more) = scan reserved text)) ∧
      (e.atEnd = true → ∃ more : String, (scan reserved (text ++ more)).error? = none) := by
  refine ⟨fun first second => scan_append_behind_tag, fun text e herror => ?_⟩
  obtain ⟨pieces, sound, ending, behind, h⟩ := exists_scanBreaks herror
  rcases h.breaks.ending_cases with ⟨hend, rfl, rfl⟩ | ⟨hend, c, rfl⟩
  · refine ⟨fun hbroken => absurd (hend.symm.trans hbroken) Bool.false_ne_true.symm, fun _ => ?_⟩
    obtain ⟨more, tag, hmore⟩ := h.continuable
    exact ⟨.ofList more, congrArg Scan.error? hmore⟩
  · refine ⟨fun _ => ?_, fun hopen => absurd (hopen.symm.trans hend) Bool.false_ne_true.symm⟩
    obtain ⟨upTo, piece, hupTo⟩ := h.scan_upTo
    exact ⟨upTo, behind, piece, hupTo⟩

/-- Behind a tag; up to an equals sign without a name; and inside a quoted value. -/
theorem scan_goes_on_equals :
    (scan "x-" ("é<x-a/>" ++ "<x-b =c")).error? = some (.missingAttributeName ⟨8, 14⟩ "x-b") ∧
    (∀ more : String, scan "x-" (.ofList ['<', 'x', '-', 'b', ' ', '='] ++ more) =
      scan "x-" "<x-b =c") ∧
    ∃ more : String, (scan "x-" ("<x-b a='" ++ more)).error? = none := by
  have hfirst : (scan "x-" "é<x-a/>").error? = none := by decide +kernel
  have hlast : (scan "x-" "é<x-a/>").tokens.getLast? = some (.tag ⟨"x-a", [], ⟨2, 8⟩⟩) := by
    decide +kernel
  have hsecond : (scan "x-" "<x-b =c").error? = some (.missingAttributeName ⟨0, 6⟩ "x-b") := by
    decide +kernel
  have hquote : (scan "x-" "<x-b a='").error? = some (.unterminatedQuote ⟨0, 8⟩ "a") := by
    decide +kernel
  obtain ⟨hseam, herrors⟩ := scan_goes_on "x-"
  refine ⟨?_, ?_, (herrors _ _ hquote).2 rfl⟩
  · rw [(hseam _ "<x-b =c" hfirst (.inr ⟨_, hlast⟩)).2, hsecond]
    decide
  · obtain ⟨upTo, behind, piece, hcut, hslice, hfinal⟩ := (herrors _ _ hsecond).1 rfl
    have hupTo : Text.cutAtByte? 6 "<x-b =c".toList =
        some (['<', 'x', '-', 'b', ' ', '='], ['c']) := by decide +kernel
    have hpiece : Text.slice? ⟨0, 6⟩ "<x-b =c".toList = some ['<', 'x', '-', 'b', ' ', '='] := by
      decide +kernel
    cases hcut.symm.trans hupTo
    cases hslice.symm.trans hpiece
    exact hfinal (by decide)

end TagWeave
