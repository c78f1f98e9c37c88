import TagWeave.Proofs.Markup.TagReading

/-!
# Scanning a text that is put together from two

What a scan finds does not depend on where in a larger text it begins, except that all places move
along (`scanFrom_shift`). If the first of two texts scans without error and no tag opens across the
seam, the whole is scanned like the two one after the other (`scan_append`); a literal run on either
side of the seam is one run of the whole.
-/

namespace TagWeave

open Text (byteSize isAsciiBlank Span)

/-! ## Places further on -/

def Text.Span.shift (span : Span) (n : Nat) : Span := ⟨span.start + n, span.stop + n⟩

def TagError.shift (n : Nat) : TagError → TagError
  | emptyTagName span => emptyTagName (span.shift n)
  | invalidTagName span fragment => invalidTagName (span.shift n) fragment
  | invalidAttributeName span fragment => invalidAttributeName (span.shift n) fragment
  | missingAttributeName span tag => missingAttributeName (span.shift n) tag
  | emptyValue span name => emptyValue (span.shift n) name
  | unterminatedQuote span name => unterminatedQuote (span.shift n) name
  | unterminatedTag span tag => unterminatedTag (span.shift n) tag

def Tag.shift (n : Nat) (tag : Tag) : Tag := { tag with span := tag.span.shift n }

def Token.shift (n : Nat) : Token → Token
  | literal text => literal text
  | tag t => tag (t.shift n)

def Scan.shift (n : Nat) (scan : Scan) : Scan :=
  ⟨scan.tokens.map (Token.shift n), scan.error?.map (TagError.shift n)⟩

def OpenTag.shift (n : Nat) (tag : OpenTag) : OpenTag := { tag with start := tag.start + n }

def TagItem.shift (n : Nat) : TagItem → TagItem
  | close pos rest => close (pos + n) rest
  | entry name value pos rest => entry name value (pos + n) rest

/-- What a reader returns when it begins `n` bytes further on; `move` moves its results. -/
def shiftRead (n : Nat) (move : α → α) : Except TagError α → Except TagError α
  | .error e => .error (e.shift n)
  | .ok a => .ok (move a)

section
variable {tag : OpenTag} {name : String} {pos n : Nat} {text reserved : List Char}

theorem readTagValue_shift : readTagValue (tag.shift n) name (pos + n) text =
    shiftRead n (TagItem.shift n) (readTagValue tag name pos text) := by
  unfold readTagValue
  rw [Nat.add_right_comm]
  generalize pos + byteSize (text.takeWhile isAsciiBlank) = pos
  dsimp only
  split
  · rfl
  · simp only [shiftRead, TagError.shift, Span.shift, OpenTag.shift, Nat.add_right_comm]
  · split
    · split <;> simp only [shiftRead, TagError.shift, TagItem.shift, Span.shift, OpenTag.shift,
        Nat.add_right_comm]
    · split <;> simp only [shiftRead, TagError.shift, TagItem.shift, Span.shift, OpenTag.shift,
        Nat.add_right_comm]

theorem readTagItem_shift : readTagItem (tag.shift n) (pos + n) text =
    shiftRead n (TagItem.shift n) (readTagItem tag pos text) := by
  unfold readTagItem
  rw [Nat.add_right_comm]
  generalize pos + byteSize (text.takeWhile isAsciiBlank) = pos
  dsimp only
  split
  · rfl
  · simp only [shiftRead, TagItem.shift, Nat.add_right_comm]
  split
  · simp only [shiftRead, TagError.shift, Span.shift, OpenTag.shift, Nat.add_right_comm]
  split
  · simp only [shiftRead, TagError.shift, Span.shift, Nat.add_right_comm]
  rw [Nat.add_right_comm]
  split
  · rfl
  · rfl
  split
  · rw [Nat.add_right_comm, readTagValue_shift]
  split
  · rfl
  · simp only [shiftRead, TagError.shift, Span.shift, Nat.add_right_comm]

theorem readAttributes_shift : readAttributes (tag.shift n) (pos + n) text =
    shiftRead n (fun (attributes, stop, rest) => (attributes, stop + n, rest))
      (readAttributes tag pos text) := by
  fun_induction readAttributes tag pos text with
  | case1 pos text e hitem =>
    have hshift : readTagItem (tag.shift n) (pos + n) text = .error (e.shift n) := by
      rw [readTagItem_shift, hitem]; rfl
    rw [readAttributes_of_error hshift]
    rfl
  | case2 pos text stop rest hitem =>
    have hshift : readTagItem (tag.shift n) (pos + n) text = .ok (.close (stop + n) rest) := by
      rw [readTagItem_shift, hitem]; rfl
    rw [readAttributes_of_close hshift]
    rfl
  | case3 pos text name value stop rest hitem hlt e hmore ih =>
    have hshift : readTagItem (tag.shift n) (pos + n) text =
        .ok (.entry name value (stop + n) rest) := by
      rw [readTagItem_shift, hitem]; rfl
    rw [readAttributes_of_entry hshift, ih, hmore]
    rfl
  | case4 pos text name value stop rest hitem hlt more q s hmore ih =>
    have hshift : readTagItem (tag.shift n) (pos + n) text =
        .ok (.entry name value (stop + n) rest) := by
      rw [readTagItem_shift, hitem]; rfl
    rw [readAttributes_of_entry hshift, ih, hmore]
    rfl

theorem readTag_shift {start : Nat} : readTag reserved (start + n) text =
    shiftRead n (fun (tag, rest) => (tag.shift n, rest)) (readTag reserved start text) := by
  unfold readTag
  dsimp only
  rw [Nat.add_right_comm start n 1, Nat.add_right_comm (start + 1) n]
  split
  · rfl
  split
  · split
    · simp only [shiftRead, TagError.shift, Span.shift, Nat.add_right_comm]
    · rename_i c rest _ _ _
      let tag : OpenTag := ⟨start, .ofList (reserved ++ text.takeWhile isNameChar)⟩
      let pos := start + 1 + byteSize (reserved ++ text.takeWhile isNameChar)
      have hread : readAttributes (tag.shift n) (pos + n) (c :: rest) = _ := readAttributes_shift
      simp only [OpenTag.shift, tag, pos] at hread
      rw [hread]
      rcases readAttributes _ _ (c :: rest) with e | ⟨attributes, stop, after⟩ <;> rfl
  · simp only [shiftRead, TagError.shift, Span.shift, Nat.add_right_comm]

end

/-! ## One token at a time -/

section
variable {reserved inside rest tail text : List Char} {pos n : Nat} {c : Char}

theorem scanFrom_nil : scanFrom reserved pos [] = ⟨[], none⟩ := by rw [scanFrom]

theorem scanFrom_of_error {e : TagError} (hopen : Text.after? ('<' :: reserved) text = some inside)
    (h : readTag reserved pos inside = .error e) : scanFrom reserved pos text = ⟨[], some e⟩ := by
  cases text with
  | nil => cases hopen
  | cons c tail =>
    rw [scanFrom]
    split
    · rename_i heq
      cases hopen.symm.trans heq
      split <;> simp_all
    · simp_all

theorem scanFrom_of_tag {tag : Tag} (hopen : Text.after? ('<' :: reserved) text = some inside)
    (h : readTag reserved pos inside = .ok (tag, rest)) :
    scanFrom reserved pos text = (scanFrom reserved tag.span.stop rest).cons (.tag tag) := by
  cases text with
  | nil => cases hopen
  | cons c tail =>
    rw [scanFrom]
    split
    · rename_i heq
      cases hopen.symm.trans heq
      split <;> simp_all
    · simp_all

/-- A written tag is scanned as that tag. -/
theorem scanFrom_form (form : TagForm) :
    scanFrom reserved pos (form.text reserved) = ⟨[.tag (form.tag reserved pos)], none⟩ := by
  have hopen : Text.after? ('<' :: reserved) (form.text reserved) =
      some (form.suffix ++ (TagParts.closed form.parts ++ [])) :=
    Text.after?_eq_some_iff.mpr (by simp [TagForm.text])
  rw [scanFrom_of_tag hopen (readTag_form form), scanFrom_nil]
  rfl

theorem scanFrom_of_run (hopen : Text.after? ('<' :: reserved) (c :: tail) = none) :
    scanFrom reserved pos (c :: tail) =
      (scanFrom reserved (pos + byteSize (c :: (Text.cutAt ('<' :: reserved) tail).1))
        (Text.cutAt ('<' :: reserved) tail).2).cons
      (.literal (.ofList (c :: (Text.cutAt ('<' :: reserved) tail).1))) := by
  rw [scanFrom]
  split
  · simp_all
  · rfl

theorem Scan.shift_cons {token : Token} {found : Scan} :
    (found.cons token).shift n = (found.shift n).cons (token.shift n) := rfl

theorem scanFrom_shift :
    scanFrom reserved (pos + n) text = (scanFrom reserved pos text).shift n := by
  fun_induction scanFrom reserved pos text with
  | case1 => exact scanFrom_nil
  | case2 pos c tail inside hopen e htag =>
    have hshift : readTag reserved (pos + n) inside = .error (e.shift n) := by
      rw [readTag_shift, htag]; rfl
    rw [scanFrom_of_error hopen hshift]
    rfl
  | case3 pos c tail inside hopen tag rest htag hlt ih =>
    have hshift : readTag reserved (pos + n) inside = .ok (tag.shift n, rest) := by
      rw [readTag_shift, htag]; rfl
    rw [scanFrom_of_tag hopen hshift, Scan.shift_cons, ← ih]
    rfl
  | case4 pos c tail hopen run hlt ih =>
    rw [scanFrom_of_run hopen, Scan.shift_cons, ← ih, Nat.add_right_comm]
    rfl

end

/-! ## Two texts one after the other -/

/-- Tokens found one after the other. Literal runs that meet are one run. -/
def joinTokens : List Token → List Token → List Token
  | [], more => more
  | [.literal a], .literal b :: more => .literal (a ++ b) :: more
  | token :: tokens, more => token :: joinTokens tokens more

/-- What is found when these tokens come before. -/
def Scan.after (tokens : List Token) (scan : Scan) : Scan :=
  ⟨joinTokens tokens scan.tokens, scan.error?⟩

section
variable {reserved text more tail : List Char} {pos : Nat} {c : Char} {tokens : List Token}

theorem joinTokens_tag {t : Tag} {ts : List Token} :
    joinTokens (.tag t :: tokens) ts = .tag t :: joinTokens tokens ts := by
  cases tokens <;> rfl

theorem joinTokens_of_ne_nil {token : Token} {ts : List Token} (h : tokens ≠ []) :
    joinTokens (token :: tokens) ts = token :: joinTokens tokens ts := by
  obtain ⟨t, tokens, rfl⟩ := List.exists_cons_of_ne_nil h
  cases token <;> rfl

theorem joinTokens_tag_first {run : String} {ts : List Token}
    (h : ∀ text, ts.head? ≠ some (.literal text)) :
    joinTokens [.literal run] ts = .literal run :: ts := by
  match ts with
  | [] | .tag _ :: _ => rfl
  | .literal text :: _ => exact absurd rfl (h text)

/-- No literal run begins where a tag opens. -/
theorem head?_scanFrom_of_open {inside : List Char}
    (hopen : Text.after? ('<' :: reserved) text = some inside) (run : String) :
    (scanFrom reserved pos text).tokens.head? ≠ some (.literal run) := by
  cases htag : readTag reserved pos inside with
  | error e =>
    rw [scanFrom_of_error hopen htag]
    exact nofun
  | ok found =>
    rw [scanFrom_of_tag hopen htag]
    simp [Scan.cons]

theorem tokens_ne_nil (htext : text ≠ []) (hscan : (scanFrom reserved pos text).error? = none) :
    (scanFrom reserved pos text).tokens ≠ [] := by
  obtain ⟨c, tail, rfl⟩ := List.exists_cons_of_ne_nil htext
  cases hopen : Text.after? ('<' :: reserved) (c :: tail) with
  | none =>
    rw [scanFrom_of_run hopen]
    exact List.cons_ne_nil _ _
  | some inside =>
    cases htag : readTag reserved pos inside with
    | error e =>
      rw [scanFrom_of_error hopen htag] at hscan
      cases hscan
    | ok found =>
      rw [scanFrom_of_tag hopen htag]
      exact List.cons_ne_nil _ _

/-- A text without any tag, followed by another. -/
theorem scanFrom_run_append (hopen : ¬ '<' :: reserved <+: c :: tail)
    (hcut : (Text.cutAt ('<' :: reserved) tail).2 = [])
    (hseam : ¬ Text.Straddles ('<' :: reserved) (c :: tail) more) :
    scanFrom reserved pos (c :: tail ++ more) =
      (scanFrom reserved (pos + byteSize (c :: tail)) more).after
        [.literal (.ofList (c :: tail))] := by
  have hopen' : Text.after? ('<' :: reserved) (c :: (tail ++ more)) = none :=
    Text.after?_eq_none_iff.mpr fun hp =>
      hopen (Text.prefix_of_prefix_append hp (List.cons_ne_nil c tail) hseam)
  have hseam' : ¬ Text.Straddles ('<' :: reserved) tail more := fun h => hseam h.cons
  rw [List.cons_append, scanFrom_of_run hopen', Text.cutAt_append_of_not_found hcut hseam']
  cases more with
  | nil =>
    rw [Text.cutAt, scanFrom_nil, scanFrom_nil, List.append_nil]
    rfl
  | cons d more =>
    cases hmore : Text.after? ('<' :: reserved) (d :: more) with
    | some inside =>
      have hstarts := Text.after?_eq_some_iff.mp hmore
      rw [Text.cutAt_of_starts ⟨inside, hstarts.symm⟩, List.append_nil, Scan.after,
        joinTokens_tag_first (head?_scanFrom_of_open hmore)]
      rfl
    | none =>
      rw [Text.cutAt_of_not_starts (Text.after?_eq_none_iff.mp hmore), scanFrom_of_run hmore]
      simp only [Scan.after, Scan.cons, joinTokens, ← String.ofList_append, List.cons_append,
        Text.byteSize_cons, Text.byteSize_append, Nat.add_assoc]

theorem scanFrom_append (hscan : (scanFrom reserved pos text).error? = none)
    (hseam : ∀ run, (scanFrom reserved pos text).tokens.getLast? = some (.literal run) →
      ¬ Text.Straddles ('<' :: reserved) run.toList more) :
    scanFrom reserved pos (text ++ more) =
      (scanFrom reserved (pos + byteSize text) more).after (scanFrom reserved pos text).tokens := by
  fun_induction scanFrom reserved pos text with
  | case1 => rfl
  | case2 => cases hscan
  | case3 pos c tail inside hopen tag rest htag hlt ih =>
    rw [scanFrom_of_tag (Text.after?_append hopen) (readTag_append htag),
      ih hscan fun run hrun => hseam run (by simp [Scan.cons, List.getLast?_cons, hrun]),
      readTag_stop htag, ← List.cons_append, ← Text.after?_eq_some_iff.mp hopen]
    exact (congrArg (Scan.mk · _) joinTokens_tag).symm
  | case4 pos c tail hopen run hlt ih =>
    have hnot := Text.after?_eq_none_iff.mp hopen
    have htail := Text.cutAt_append ('<' :: reserved) tail
    by_cases hcut : (Text.cutAt ('<' :: reserved) tail).2 = []
    · have hrun : run = c :: tail := by
        rw [hcut, List.append_nil] at htail
        exact congrArg (c :: ·) htail
      rw [hcut, scanFrom_nil, hrun] at hseam ⊢
      refine scanFrom_run_append hnot hcut ?_
      simpa [Scan.cons] using hseam (.ofList (c :: tail)) rfl
    · have hne := tokens_ne_nil hcut hscan
      have hcut' : (Text.cutAt ('<' :: reserved) (c :: tail)).2 ≠ [] := by
        rwa [Text.cutAt_of_not_starts hnot]
      have hfound : Text.cutAt ('<' :: reserved) (c :: tail ++ more) = _ :=
        Text.cutAt_append_of_found hcut'
      have hopen' : Text.after? ('<' :: reserved) (c :: (tail ++ more)) = none := by
        refine Text.after?_eq_none_iff.mpr fun hp => ?_
        rw [Text.cutAt_of_not_starts hnot, List.cons_append, Text.cutAt_of_starts hp] at hfound
        cases hfound
      rw [List.cons_append, scanFrom_of_run hopen', Text.cutAt_append_of_found hcut]
      rw [ih hscan fun r hr => hseam r (by simp [Scan.cons, List.getLast?_cons, hr])]
      have hsize : byteSize (c :: tail) =
          byteSize run + byteSize (Text.cutAt ('<' :: reserved) tail).2 := by
        rw [← Text.byteSize_append]
        exact congrArg byteSize (congrArg (c :: ·) htail.symm)
      rw [hsize, ← Nat.add_assoc]
      exact (congrArg (Scan.mk · _) (joinTokens_of_ne_nil hne)).symm

end

/-- No tag opens in the last literal run of `text` and goes on in `more`. There is no such run if
`text` is empty or ends with a tag. -/
def SeamFree (reserved text more : String) : Prop :=
  ∀ run, (scan reserved text).tokens.getLast? = some (.literal run) →
    ¬ Text.Straddles ('<' :: reserved.toList) run.toList more.toList

theorem scan_append {reserved text more : String} (hscan : (scan reserved text).error? = none)
    (hseam : SeamFree reserved text more) :
    scan reserved (text ++ more) =
      ((scan reserved more).shift (byteSize text.toList)).after (scan reserved text).tokens := by
  unfold scan
  rw [String.toList_append, scanFrom_append hscan hseam, ← scanFrom_shift]

end TagWeave
