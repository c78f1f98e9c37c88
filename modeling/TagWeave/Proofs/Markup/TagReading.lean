import TagWeave.Proofs.Markup.TagForm

/-!
# Reading accepts exactly the written forms

For each function of the tag reader, the texts that it accepts and what it returns, in terms of the
written form: `readTagValue_written` and `readTagValue_eq_ok` for a value, `readTagItem_part` and
`readTagItem_eq_ok` for what stands next in a tag, `readAttributes_eq_ok_iff` for all that follows
the name and `readTag_eq_ok_iff` for the tag.
-/

namespace TagWeave

open Text (byteSize isAsciiBlank Stops)

instance decidableEqExcept [DecidableEq ε] [DecidableEq α] : DecidableEq (Except ε α)
  | .ok a, .ok b => decidable_of_iff (a = b) ⟨congrArg _, Except.ok.inj⟩
  | .error e, .error e' => decidable_of_iff (e = e') ⟨congrArg _, Except.error.inj⟩
  | .ok _, .error _ | .error _, .ok _ => isFalse nofun

/-! ## Values -/

theorem cutBareValue_spec (text : List Char) :
    text = (cutBareValue text).1 ++ (cutBareValue text).2 ∧
      (∀ c ∈ (cutBareValue text).1, isAsciiBlank c = false) ∧
      ¬ ['/', '>'] <:+: (cutBareValue text).1 ∧
      ((cutBareValue text).2 = [] ∨ AtBreak (cutBareValue text).2) := by
  fun_induction cutBareValue text with
  | case1 => simp
  | case2 rest => exact ⟨rfl, by simp, by simp, .inr .close⟩
  | case3 c rest _ hc => exact ⟨rfl, by simp, by simp, .inr (.blank hc)⟩
  | case4 c rest hopen hc value after heq ih =>
    rw [heq] at ih
    obtain ⟨htext, hblank, hclose, hafter⟩ := ih
    refine ⟨congrArg (c :: ·) htext, List.forall_mem_cons.mpr ⟨by simpa using hc, hblank⟩, ?_,
      hafter⟩
    rw [List.infix_cons_iff]
    rintro (hstart | hlater)
    · obtain ⟨more, hmore⟩ := hstart
      obtain ⟨rfl, hvalue⟩ := List.cons.inj hmore
      exact hopen (more ++ after) rfl (by rw [htext, ← hvalue]; rfl)
    · exact hclose hlater

/-- The front of a text that is neither a quote, a blank nor `/>` is a value without quotes. -/
theorem isUnquoted_cutBareValue {c : Char} {rest : List Char}
    (hquote : (c == '"' || c == '\'') = false) (hbreak : ¬ AtBreak (c :: rest)) :
    IsUnquoted (cutBareValue (c :: rest)).1 := by
  obtain ⟨htext, hblank, hclose, hafter⟩ := cutBareValue_spec (c :: rest)
  cases hvalue : (cutBareValue (c :: rest)).1 with
  | nil =>
    rw [hvalue, List.nil_append] at htext
    rw [← htext] at hafter
    exact absurd (hafter.resolve_left (List.cons_ne_nil c rest)) hbreak
  | cons d value =>
    rw [hvalue] at htext hblank hclose
    obtain ⟨rfl, -⟩ := List.cons.inj htext
    exact ⟨List.cons_ne_nil _ _, Text.stops_cons.mpr hquote, hblank, hclose⟩

section
variable {tag : OpenTag} {name : String} {pos : Nat} {gap text rest : List Char} {item : TagItem}

/-- Blanks in front of a text, and what follows them. -/
theorem exists_gap (text : List Char) : ∃ gap rest, text = gap ++ rest ∧
    (∀ c ∈ gap, isAsciiBlank c = true) ∧ Stops isAsciiBlank rest :=
  ⟨text.takeWhile isAsciiBlank, text.dropWhile isAsciiBlank,
    List.takeWhile_append_dropWhile.symm, fun _ => List.mem_takeWhile_imp, Text.stops_dropWhile⟩

theorem utf8Size_quote {quote : Char} (h : quote = '"' ∨ quote = '\'') : quote.utf8Size = 1 := by
  rcases h with rfl | rfl <;> decide

theorem readTagValue_gap (hgap : ∀ c ∈ gap, isAsciiBlank c = true) :
    readTagValue tag name pos (gap ++ rest) = readTagValue tag name (pos + byteSize gap) rest := by
  unfold readTagValue
  rw [List.takeWhile_append_of_pos hgap, List.dropWhile_append_of_pos hgap, Text.byteSize_append,
    Nat.add_assoc]

theorem readTagValue_written {v : WrittenValue} (hv : v.Valid) (hrest : v.Open → AtBreak rest) :
    readTagValue tag name pos (v.text ++ rest) =
      .ok (.entry name v.value (pos + byteSize v.text) rest) := by
  have hstop := hv.stops rest
  unfold readTagValue
  rw [Text.takeWhile_of_stops hstop, Text.dropWhile_of_stops hstop]
  cases v with
  | quoted quote value =>
    have hvalue : ∀ c ∈ value.toList, (c != quote) = true := fun c hc =>
      bne_iff_ne.mpr fun heq => hv.2 (heq ▸ hc)
    have hend : Stops (· != quote) (quote :: rest) := by simp
    have htake := Text.takeWhile_run hvalue hend
    have hdrop := Text.dropWhile_run hvalue hend
    have hsize := utf8Size_quote hv.1
    rcases hv.1 with rfl | rfl <;>
      simp [WrittenValue.text, WrittenValue.value, htake, hdrop, hsize] <;> omega
  | unquoted value =>
    obtain ⟨c, tail, heq⟩ := List.exists_cons_of_ne_nil hv.nonempty
    have hcut := IsUnquoted.cut hv (hrest trivial)
    have hquote := Text.stops_cons.mp (heq ▸ hv.noQuote)
    have hne := (hrest trivial).ne_nil
    simp only [WrittenValue.text, WrittenValue.value, heq, List.cons_append] at hcut ⊢
    split
    · rename_i h
      cases h
    · rename_i h
      rw [h, cutBareValue] at hcut
      cases hcut
    · rename_i h
      cases h
      have hname : String.ofList (c :: tail) = value := by rw [← heq, String.ofList_toList]
      simp only [hquote, hcut, hname, List.isEmpty_iff, hne, if_false, Bool.false_eq_true,
        Text.byteSize_nil, Nat.add_zero]

theorem readTagValue_eq_ok (h : readTagValue tag name pos text = .ok item)
    (hstop : Stops isAsciiBlank text) : ∃ v : WrittenValue, ∃ rest, text = v.text ++ rest ∧
      v.Valid ∧ (v.Open → AtBreak rest) ∧
      item = .entry name v.value (pos + byteSize v.text) rest := by
  unfold readTagValue at h
  rw [Text.takeWhile_of_stops hstop, Text.dropWhile_of_stops hstop] at h
  dsimp only at h
  split at h
  · cases h
  · cases h
  rename_i c rest hopen
  split at h
  · rename_i hquote
    have hvalue := (List.takeWhile_append_dropWhile (p := (· != c)) (l := rest)).symm
    have hend : Stops (· != c) (rest.dropWhile (· != c)) := Text.stops_dropWhile
    split at h
    · cases h
    rename_i d after hafter
    cases h
    rw [hafter] at hvalue hend
    obtain rfl : d = c := by simpa using hend
    refine ⟨.quoted d (.ofList (rest.takeWhile (· != d))), after, ?_, ⟨?_, ?_⟩, False.elim, ?_⟩
    · simpa [WrittenValue.text] using hvalue
    · simpa using hquote
    · rw [String.toList_ofList]
      exact fun hmem => absurd (List.mem_takeWhile_imp hmem) (by simp)
    · have := utf8Size_quote (by simpa using hquote)
      simp [WrittenValue.text, WrittenValue.value, this]
      omega
  · rename_i hquote
    have hbreak : ¬ AtBreak (c :: rest) := by
      rintro (hc | _)
      · exact absurd hc (Bool.eq_false_iff.mp (Text.stops_cons.mp hstop))
      · exact hopen _ rfl rfl
    obtain ⟨hcut, -, -, hafter⟩ := cutBareValue_spec (c :: rest)
    split at h
    · cases h
    rename_i hne
    cases h
    refine ⟨.unquoted (.ofList (cutBareValue (c :: rest)).1), (cutBareValue (c :: rest)).2,
      ?_, ?_, fun _ => hafter.resolve_left (by simpa using hne), ?_⟩
    · simpa [WrittenValue.text] using hcut
    · simpa [WrittenValue.Valid] using isUnquoted_cutBareValue (by simpa using hquote) hbreak
    · simp [WrittenValue.text, WrittenValue.value]

end

/-! ## Items -/

section
variable {tag : OpenTag} {pos : Nat} {gap text rest : List Char} {item : TagItem}

theorem readTagItem_gap (hgap : ∀ c ∈ gap, isAsciiBlank c = true) :
    readTagItem tag pos (gap ++ rest) = readTagItem tag (pos + byteSize gap) rest := by
  unfold readTagItem
  rw [List.takeWhile_append_of_pos hgap, List.dropWhile_append_of_pos hgap, Text.byteSize_append,
    Nat.add_assoc]

theorem readTagItem_close :
    readTagItem tag pos ('/' :: '>' :: rest) = .ok (.close (pos + 2) rest) := rfl

/-- What is read behind the name of an attribute, which begins at `pos`. -/
def readBehindName (tag : OpenTag) (pos : Nat) (name : List Char) :
    List Char → Except TagError TagItem
  | [] => .error (.unterminatedTag ⟨tag.start, pos + byteSize name⟩ tag.name)
  | '/' :: '>' :: rest =>
    .ok (.entry (.ofList name) "" (pos + byteSize name) ('/' :: '>' :: rest))
  | c :: rest =>
    if c == '=' then readTagValue tag (.ofList name) (pos + byteSize name + 1) rest
    else if isAsciiBlank c then .ok (.entry (.ofList name) "" (pos + byteSize name) (c :: rest))
    else .error (.invalidAttributeName ⟨pos, pos + byteSize name + c.utf8Size⟩
      (.ofList (name ++ [c])))

theorem readBehindName_equals {name : List Char} : readBehindName tag pos name ('=' :: rest) =
    readTagValue tag (.ofList name) (pos + byteSize name + 1) rest := rfl

theorem readTagItem_name {name tail : List Char} {c : Char} (hc : isNameStart c = true)
    (hname : ∀ d ∈ name, isNameChar d = true) (htail : Stops isNameChar tail) :
    readTagItem tag pos (c :: (name ++ tail)) = readBehindName tag pos (c :: name) tail := by
  have hstop : Stops isAsciiBlank (c :: (name ++ tail)) :=
    Text.stops_cons.mpr (isAsciiBlank_eq_false_of_isNameChar (isNameChar_of_isNameStart hc))
  unfold readTagItem
  rw [Text.takeWhile_of_stops hstop, Text.dropWhile_of_stops hstop]
  dsimp only
  split
  · rename_i h
    cases h
  · rename_i h
    obtain ⟨rfl, -⟩ := List.cons.inj h
    exact absurd hc (by decide)
  · rename_i h
    cases h
    rw [Text.takeWhile_run hname htail, Text.dropWhile_run hname htail, hc, if_neg]
    · rfl
    · rintro h
      cases eq_of_beq h
      exact absurd hc (by decide)

theorem readBehindName_atBreak {name : List Char} (h : AtBreak rest) :
    readBehindName tag pos name rest =
      .ok (.entry (.ofList name) "" (pos + byteSize name) rest) := by
  cases h with
  | close => rfl
  | @blank c rest hc =>
    have hequals : ¬ (c == '=') = true := by
      rintro h
      cases eq_of_beq h
      exact absurd hc (by decide)
    unfold readBehindName
    split
    · rename_i h
      cases h
    · rename_i h
      cases h
      exact absurd hc (by decide)
    · rename_i h
      cases h
      rw [if_neg hequals, if_pos hc]

theorem readBehindName_eq_ok {name : List Char}
    (h : readBehindName tag pos name text = .ok item) :
    (AtBreak text ∧ item = .entry (.ofList name) "" (pos + byteSize name) text) ∨
      ∃ gap, ∃ v : WrittenValue, ∃ rest, text = '=' :: (gap ++ (v.text ++ rest)) ∧
        (∀ c ∈ gap, isAsciiBlank c = true) ∧ v.Valid ∧ (v.Open → AtBreak rest) ∧
        item = .entry (.ofList name) v.value
          (pos + byteSize (name ++ '=' :: (gap ++ v.text))) rest := by
  unfold readBehindName at h
  split at h
  · cases h
  · cases h
    exact .inl ⟨.close, rfl⟩
  rename_i c rest _
  split at h
  · rename_i hc
    cases eq_of_beq hc
    obtain ⟨gap, text, rfl, hgap, hstop⟩ := exists_gap rest
    rw [readTagValue_gap hgap] at h
    obtain ⟨v, rest, rfl, hv, hrest, rfl⟩ := readTagValue_eq_ok h hstop
    refine .inr ⟨gap, v, rest, rfl, hgap, hv, hrest, ?_⟩
    simp only [Text.byteSize_append, Text.byteSize_cons, Nat.add_assoc]
    rfl
  · split at h
    · rename_i hc
      cases h
      exact .inl ⟨.blank hc, rfl⟩
    · cases h

theorem readTagItem_part {part : TagPart} {name value : String} (hpart : part.Valid)
    (hrest : part.Open → AtBreak rest) (hattribute : part.attribute? = some (name, value)) :
    readTagItem tag pos (part.text ++ rest) =
      .ok (.entry name value (pos + byteSize part.text) rest) := by
  rcases part.blank_or_named with ⟨c, rfl⟩ | ⟨_, tail, hn⟩
  · cases hattribute
  obtain ⟨c, cs, hname, hc, hcs⟩ := isName_iff.mp (hn.isName hpart)
  have hread : readTagItem tag pos (c :: (cs ++ (tail ++ rest))) = _ :=
    readTagItem_name hc (List.forall_mem_cons.mp hcs).2 (hn.stops hrest)
  rw [hn.text_eq, List.append_assoc, hname, List.cons_append, hread, ← hname]
  cases hn with
  | bare =>
    cases hattribute
    rw [List.nil_append, readBehindName_atBreak (hrest trivial), String.ofList_toList,
      List.append_nil]
  | @valued gap value =>
    cases hattribute
    rw [List.cons_append, List.append_assoc, readBehindName_equals, readTagValue_gap hpart.2.1,
      readTagValue_written hpart.2.2 hrest, String.ofList_toList]
    simp only [Text.byteSize_append, Text.byteSize_cons, Nat.add_assoc]
    rfl

theorem readTagItem_eq_ok (h : readTagItem tag pos text = .ok item)
    (hstop : Stops isAsciiBlank text) :
    (∃ rest, text = '/' :: '>' :: rest ∧ item = .close (pos + 2) rest) ∨
      ∃ part name value rest, text = TagPart.text part ++ rest ∧ part.Valid ∧
        (part.Open → AtBreak rest) ∧ part.attribute? = some (name, value) ∧
        item = .entry name value (pos + byteSize part.text) rest := by
  have hread := h
  unfold readTagItem at hread
  rw [Text.takeWhile_of_stops hstop, Text.dropWhile_of_stops hstop] at hread
  dsimp only at hread
  split at hread
  · cases hread
  · cases hread
    exact .inl ⟨_, rfl, rfl⟩
  rename_i c rest _
  split at hread
  · cases hread
  split at hread
  · cases hread
  rename_i hc
  have hc : isNameStart c = true := by simpa using hc
  have hname : ∀ d ∈ rest.takeWhile isNameChar, isNameChar d = true :=
    fun _ => List.mem_takeWhile_imp
  have hisName : isName (.ofList (c :: rest.takeWhile isNameChar)) = true :=
    isName_iff.mpr ⟨c, _, String.toList_ofList, hc,
      List.forall_mem_cons.mpr ⟨isNameChar_of_isNameStart hc, hname⟩⟩
  rw [← List.takeWhile_append_dropWhile (p := isNameChar) (l := rest),
    readTagItem_name hc hname Text.stops_dropWhile] at h
  have htext : c :: rest = c :: rest.takeWhile isNameChar ++ rest.dropWhile isNameChar := by simp
  rcases readBehindName_eq_ok h with ⟨hbreak, rfl⟩ | ⟨gap, v, after, htail, hgap, hv, hafter, rfl⟩
  · exact .inr ⟨.bare (.ofList (c :: rest.takeWhile isNameChar)), _, _, _,
      by simp [TagPart.text], hisName, fun _ => hbreak, rfl, by simp [TagPart.text]⟩
  · exact .inr ⟨.valued (.ofList (c :: rest.takeWhile isNameChar)) gap v, _, _, after,
      by simpa [TagPart.text, htail] using htext, ⟨hisName, hgap, hv⟩, hafter, rfl,
      by simp [TagPart.text]⟩

end

/-! ## All that follows the name -/

section
variable {tag : OpenTag} {pos stop : Nat} {gap text rest : List Char}
  {attributes : List (String × String)}

theorem readAttributes_of_error {e : TagError} (h : readTagItem tag pos text = .error e) :
    readAttributes tag pos text = .error e := by
  rw [readAttributes]
  split <;> simp_all

theorem readAttributes_of_close (h : readTagItem tag pos text = .ok (.close stop rest)) :
    readAttributes tag pos text = .ok ([], stop, rest) := by
  rw [readAttributes]
  split <;> simp_all

theorem readAttributes_of_entry {name value : String}
    (h : readTagItem tag pos text = .ok (.entry name value stop rest)) :
    readAttributes tag pos text =
      (readAttributes tag stop rest).map fun (attributes, found) =>
        ((name, value) :: attributes, found) := by
  rw [readAttributes]
  split
  · simp_all
  · simp_all
  · rename_i heq
    cases h.symm.trans heq
    cases readAttributes tag stop rest <;> rfl

theorem readAttributes_congr {pos' : Nat} {text' : List Char}
    (h : readTagItem tag pos text = readTagItem tag pos' text') :
    readAttributes tag pos text = readAttributes tag pos' text' := by
  cases hitem : readTagItem tag pos' text' with
  | error e => rw [readAttributes_of_error hitem, readAttributes_of_error (h.trans hitem)]
  | ok item =>
    cases item with
    | close => rw [readAttributes_of_close hitem, readAttributes_of_close (h.trans hitem)]
    | entry => rw [readAttributes_of_entry hitem, readAttributes_of_entry (h.trans hitem)]

theorem readAttributes_gap (hgap : ∀ c ∈ gap, isAsciiBlank c = true) :
    readAttributes tag pos (gap ++ rest) = readAttributes tag (pos + byteSize gap) rest :=
  readAttributes_congr (readTagItem_gap hgap)

theorem readAttributes_closed {parts : List TagPart} (hparts : TagParts.WellFormed parts) :
    readAttributes tag pos (TagParts.closed parts ++ rest) =
      .ok (parts.filterMap TagPart.attribute?, pos + byteSize (TagParts.closed parts), rest) := by
  induction parts generalizing pos with
  | nil => exact readAttributes_of_close readTagItem_close
  | cons part parts ih =>
    obtain ⟨hpart, hopen, hparts⟩ := hparts
    rw [TagParts.closed_cons, List.append_assoc]
    cases hattribute : part.attribute? with
    | none =>
      rcases part.blank_or_named with ⟨c, rfl⟩ | ⟨_, _, hn⟩
      · have hgap : ∀ d ∈ [c], isAsciiBlank d = true := List.forall_mem_singleton.mpr hpart
        rw [show TagPart.text (.blank c) = [c] from rfl, readAttributes_gap hgap, ih hparts,
          List.filterMap_cons_none hattribute, Text.byteSize_append, Nat.add_assoc]
      · cases hn <;> cases hattribute
    | some pair =>
      have hrest (ho : part.Open) : AtBreak (TagParts.closed parts ++ rest) :=
        TagParts.atBreak_closed hparts (hopen ho)
      rw [readAttributes_of_entry (readTagItem_part hpart hrest hattribute), ih hparts,
        List.filterMap_cons_some hattribute, Text.byteSize_append, ← Nat.add_assoc]
      rfl

theorem readAttributes_eq_ok_iff : readAttributes tag pos text = .ok (attributes, stop, rest) ↔
    ∃ parts, TagParts.WellFormed parts ∧ text = TagParts.closed parts ++ rest ∧
      attributes = parts.filterMap TagPart.attribute? ∧
      stop = pos + byteSize (TagParts.closed parts) := by
  constructor
  · intro h
    fun_induction readAttributes tag pos text generalizing attributes stop rest with
    | case1 => cases h
    | case2 pos text p r hitem =>
      cases h
      obtain ⟨gap, text, rfl, hgap, hstop⟩ := exists_gap text
      rw [readTagItem_gap hgap] at hitem
      rcases readTagItem_eq_ok hitem hstop with ⟨_, rfl, hclose⟩ | ⟨_, _, _, _, _, _, _, _, hentry⟩
      · cases hclose
        refine ⟨gap.map TagPart.blank ++ [], TagParts.wellFormed_blanks hgap trivial, ?_, ?_, ?_⟩
        · rw [TagParts.closed_blanks, List.append_assoc]
          rfl
        · rw [TagParts.attributes_blanks]
          rfl
        · rw [TagParts.closed_blanks, Text.byteSize_append, ← Nat.add_assoc]
          rfl
      · cases hentry
    | case3 => cases h
    | case4 pos text name value p r hitem hlt more q s hmore ih =>
      cases h
      obtain ⟨parts, hparts, rfl, rfl, rfl⟩ := ih hmore
      obtain ⟨gap, text, rfl, hgap, hstop⟩ := exists_gap text
      rw [readTagItem_gap hgap] at hitem
      rcases readTagItem_eq_ok hitem hstop with
        ⟨_, _, hclose⟩ | ⟨part, _, _, _, rfl, hpart, hrest, hattribute, hentry⟩
      · cases hclose
      · cases hentry
        refine ⟨gap.map TagPart.blank ++ part :: parts, TagParts.wellFormed_blanks hgap ⟨hpart,
          fun ho => TagParts.breakFirst_of_atBreak hparts (hrest ho), hparts⟩, ?_, ?_, ?_⟩
        · rw [TagParts.closed_blanks, TagParts.closed_cons, List.append_assoc, List.append_assoc]
        · rw [TagParts.attributes_blanks, List.filterMap_cons_some hattribute]
        · rw [TagParts.closed_blanks, TagParts.closed_cons, Text.byteSize_append,
            Text.byteSize_append, ← Nat.add_assoc, ← Nat.add_assoc]
  · rintro ⟨parts, hparts, rfl, rfl, rfl⟩
    exact readAttributes_closed hparts

end

/-! ## Tags -/

theorem utf8Size_of_atBreak {c : Char} {rest : List Char} (h : AtBreak (c :: rest)) :
    c.utf8Size = 1 := by
  cases h with
  | close => rfl
  | blank hc =>
    simp only [isAsciiBlank, Bool.or_eq_true, beq_iff_eq] at hc
    obtain (((rfl | rfl) | rfl) | rfl) | rfl := hc <;> rfl

section
variable {reserved inside suffix rest : List Char} {start : Nat} {tag : Tag}

theorem atBreak_of_test {c : Char}
    (h : (isAsciiBlank c || ['/', '>'].isPrefixOf (c :: rest)) = true) : AtBreak (c :: rest) := by
  rcases (Bool.or_eq_true _ _).mp h with hc | hclose
  · exact .blank hc
  · obtain ⟨more, hmore⟩ := List.isPrefixOf_iff_prefix.mp hclose
    cases hmore
    exact .close

theorem test_of_atBreak {c : Char} (h : AtBreak (c :: rest)) :
    (isAsciiBlank c || ['/', '>'].isPrefixOf (c :: rest)) = true := by
  cases h with
  | blank hc => rw [hc, Bool.true_or]
  | close => exact Bool.or_true _

theorem byteSize_opening {text : List Char} : start + byteSize ('<' :: text) =
    start + 1 + byteSize text := (Nat.add_assoc start 1 _).symm

theorem readTag_of_end (hsuffix : ∀ d ∈ suffix, isNameChar d = true) :
    readTag reserved start suffix = .error (.unterminatedTag
      ⟨start, start + byteSize ('<' :: (reserved ++ suffix))⟩ (.ofList (reserved ++ suffix))) := by
  have htake := Text.takeWhile_run hsuffix Text.stops_nil
  have hdrop := Text.dropWhile_run hsuffix Text.stops_nil
  rw [List.append_nil] at htake hdrop
  unfold readTag
  dsimp only
  rw [htake, hdrop, byteSize_opening]

theorem readTag_of_strange {c : Char} {behind : List Char}
    (hsuffix : ∀ d ∈ suffix, isNameChar d = true) (hc : isNameChar c = false)
    (hbreak : ¬ AtBreak (c :: behind)) : readTag reserved start (suffix ++ c :: behind) =
      .error (.invalidTagName ⟨start, start + byteSize ('<' :: (reserved ++ (suffix ++ [c])))⟩
        (.ofList (reserved ++ (suffix ++ [c])))) := by
  have hstop : Stops isNameChar (c :: behind) := Text.stops_cons.mpr hc
  unfold readTag
  dsimp only
  rw [Text.takeWhile_run hsuffix hstop, Text.dropWhile_run hsuffix hstop]
  dsimp only
  rw [if_neg fun htest => hbreak (atBreak_of_test htest), byteSize_opening, ← List.append_assoc,
    Text.byteSize_append (b := [c]), Text.byteSize_cons, Nat.add_assoc]
  rfl

theorem readTag_of_noName {c : Char} {behind : List Char} (hbreak : AtBreak (c :: behind)) :
    readTag reserved start (c :: behind) = .error (.emptyTagName
      ⟨start, start + byteSize ('<' :: (reserved ++ [c]))⟩) := by
  have hstop := hbreak.stops_isNameChar
  have hsize : start + byteSize ('<' :: (reserved ++ [c])) = start + 1 + byteSize reserved + 1 := by
    rw [byteSize_opening, Text.byteSize_append, Text.byteSize_cons, utf8Size_of_atBreak hbreak]
    rfl
  unfold readTag
  dsimp only
  rw [Text.takeWhile_of_stops hstop, Text.dropWhile_of_stops hstop]
  dsimp only
  rw [if_pos (test_of_atBreak hbreak), List.append_nil, hsize]
  rfl

theorem readTag_of_name (hsuffix : ∀ d ∈ suffix, isNameChar d = true) (hne : suffix ≠ [])
    (hbreak : AtBreak rest) : readTag reserved start (suffix ++ rest) =
      (readAttributes ⟨start, .ofList (reserved ++ suffix)⟩
        (start + byteSize ('<' :: (reserved ++ suffix))) rest).map fun found =>
          (⟨.ofList (reserved ++ suffix), found.1, ⟨start, found.2.1⟩⟩, found.2.2) := by
  have hstop := hbreak.stops_isNameChar
  obtain ⟨c, tail, rfl⟩ := List.exists_cons_of_ne_nil hbreak.ne_nil
  unfold readTag
  dsimp only
  rw [Text.takeWhile_run hsuffix hstop, Text.dropWhile_run hsuffix hstop]
  dsimp only
  rw [if_pos (test_of_atBreak hbreak), if_neg (by simpa using hne), byteSize_opening]
  cases readAttributes ⟨start, .ofList (reserved ++ suffix)⟩
    (start + 1 + byteSize (reserved ++ suffix)) (c :: tail) <;> rfl

/-- The place behind a name, and one further on. -/
theorem byteSize_behind_name {text : List Char} :
    start + byteSize ('<' :: (reserved ++ (suffix ++ text))) =
      start + byteSize ('<' :: (reserved ++ suffix)) + byteSize text := by
  rw [← List.append_assoc, ← List.cons_append, Text.byteSize_append, Nat.add_assoc]

theorem readTag_form (form : TagForm) :
    readTag reserved start (form.suffix ++ (TagParts.closed form.parts ++ rest)) =
      .ok (form.tag reserved start, rest) := by
  rw [readTag_of_name form.suffix_chars form.suffix_ne (form.atBreak_parts rest),
    readAttributes_closed form.parts_wf, TagForm.tag, TagForm.text, byteSize_behind_name]
  rfl

/-- The characters of a name, as far as they go, and what follows them. -/
theorem exists_suffix (inside : List Char) : ∃ suffix rest, inside = suffix ++ rest ∧
    (∀ d ∈ suffix, isNameChar d = true) ∧ Stops isNameChar rest :=
  ⟨inside.takeWhile isNameChar, inside.dropWhile isNameChar,
    List.takeWhile_append_dropWhile.symm, fun _ => List.mem_takeWhile_imp, Text.stops_dropWhile⟩

/-- Behind a name, the parts of the tag are those that are read as its attributes. -/
theorem exists_form_of_attributes {attributes : List (String × String)} {stop : Nat}
    (hsuffix : ∀ d ∈ suffix, isNameChar d = true) (hne : suffix ≠ []) (hbreak : AtBreak inside)
    (h : readAttributes ⟨start, .ofList (reserved ++ suffix)⟩
      (start + byteSize ('<' :: (reserved ++ suffix))) inside = .ok (attributes, stop, rest)) :
    ∃ form : TagForm, '<' :: (reserved ++ (suffix ++ inside)) = form.text reserved ++ rest ∧
      ⟨.ofList (reserved ++ suffix), attributes, ⟨start, stop⟩⟩ = form.tag reserved start := by
  obtain ⟨parts, hparts, rfl, rfl, rfl⟩ := readAttributes_eq_ok_iff.mp h
  let form : TagForm :=
    ⟨suffix, parts, hne, hsuffix, TagParts.breakFirst_of_atBreak hparts hbreak, hparts⟩
  refine ⟨form, by simp [form, TagForm.text], ?_⟩
  rw [TagForm.tag, TagForm.text, byteSize_behind_name]
  rfl

theorem readTag_eq_ok_iff : readTag reserved start inside = .ok (tag, rest) ↔
    ∃ form : TagForm, '<' :: (reserved ++ inside) = form.text reserved ++ rest ∧
      tag = form.tag reserved start := by
  constructor
  · intro h
    obtain ⟨suffix, behind, rfl, hsuffix, hstop⟩ := exists_suffix inside
    by_cases hbreak : AtBreak behind
    · by_cases hne : suffix = []
      · obtain ⟨c, behind, rfl⟩ := List.exists_cons_of_ne_nil hbreak.ne_nil
        rw [hne, List.nil_append, readTag_of_noName hbreak] at h
        cases h
      · rw [readTag_of_name hsuffix hne hbreak] at h
        cases hread : readAttributes ⟨start, .ofList (reserved ++ suffix)⟩
            (start + byteSize ('<' :: (reserved ++ suffix))) behind with
        | error e =>
          rw [hread] at h
          cases h
        | ok found =>
          rw [hread] at h
          cases h
          exact exists_form_of_attributes hsuffix hne hbreak hread
    · cases behind with
      | nil =>
        rw [List.append_nil, readTag_of_end hsuffix] at h
        cases h
      | cons c behind =>
        rw [readTag_of_strange hsuffix (Text.stops_cons.mp hstop) hbreak] at h
        cases h
  · rintro ⟨form, htext, rfl⟩
    simp only [TagForm.text, List.cons_append, List.append_assoc, List.cons.injEq, true_and,
      List.append_cancel_left_eq] at htext
    rw [htext]
    exact readTag_form form

/-- Text added behind a tag is left. -/
theorem readTag_append {more : List Char} (h : readTag reserved start inside = .ok (tag, rest)) :
    readTag reserved start (inside ++ more) = .ok (tag, rest ++ more) := by
  rw [readTag_eq_ok_iff] at h ⊢
  obtain ⟨form, htext, rfl⟩ := h
  exact ⟨form, by simpa using congrArg (· ++ more) htext, rfl⟩

/-- The end of a tag is where the rest of the text begins. -/
theorem readTag_stop (h : readTag reserved start inside = .ok (tag, rest)) :
    tag.span.stop + byteSize rest = start + byteSize ('<' :: (reserved ++ inside)) := by
  obtain ⟨form, htext, rfl⟩ := readTag_eq_ok_iff.mp h
  rw [htext, Text.byteSize_append, ← Nat.add_assoc]
  rfl

/-- **A tag is read exactly where one is written.** At any place of a source behind which `<` and
the reserved characters stand, a tag with its name, attributes and end is read if and only if the
source goes on with a written form of that tag; and it goes on with one form at most. -/
theorem tag_read_iff_written (reserved before inside rest : List Char) (tag : Tag) :
    (readTag reserved (byteSize before) inside = .ok (tag, rest) ↔
      ∃ form : TagForm,
        before ++ '<' :: (reserved ++ inside) = before ++ (form.text reserved ++ rest) ∧
        tag.name = .ofList (reserved ++ form.suffix) ∧ tag.attributes = form.attributes ∧
        tag.span = ⟨byteSize before, byteSize (before ++ form.text reserved)⟩) ∧
    ∀ form form' : TagForm, ∀ rest' rest'' : List Char,
      '<' :: (reserved ++ inside) = form.text reserved ++ rest' →
      '<' :: (reserved ++ inside) = form'.text reserved ++ rest'' →
      form = form' ∧ rest' = rest'' := by
  refine ⟨?_, fun form form' rest' rest'' h h' => TagForm.text_unique (h.symm.trans h')⟩
  rw [readTag_eq_ok_iff]
  refine exists_congr fun form => ?_
  rw [List.append_cancel_left_eq, Text.byteSize_append]
  refine and_congr_right fun _ => ?_
  constructor
  · rintro rfl
    exact ⟨rfl, rfl, rfl⟩
  · rintro ⟨hname, hattributes, hspan⟩
    cases tag
    cases hname
    cases hattributes
    cases hspan
    rfl

end

end TagWeave
