import TagWeave.Proofs.Markup.TagReading

/-!
# Tags that break off

A tag that cannot be read breaks at one place of the text. `TagBreaks` says for each error what
stands before that place, which character breaks the tag and what may follow, and the reader reports
an error exactly if the text is of that form (`readTag_eq_error_iff`).
-/

namespace TagWeave

open Text (byteSize isAsciiBlank Stops)

/-! ## Fronts -/

namespace TagParts

/-- Parts behind which another one may begin: an open part has a blank behind it. -/
def Continued : List TagPart → Prop
  | [] => True
  | part :: rest => part.Valid ∧ (part.Open → ∃ c more, rest = .blank c :: more) ∧ Continued rest

end TagParts

/-- A tag up to a place where an attribute may begin. -/
structure TagFront where
  /-- The name without the reserved characters. -/
  suffix : List Char
  parts : List TagPart
  suffix_ne : suffix ≠ []
  suffix_chars : ∀ c ∈ suffix, isNameChar c = true
  blank_first : ∃ c rest, parts = .blank c :: rest
  continued : TagParts.Continued parts

namespace TagFront

def text (front : TagFront) (reserved : List Char) : List Char :=
  '<' :: (reserved ++ (front.suffix ++ TagParts.text front.parts))

/-- The tag with its name read. -/
def opened (front : TagFront) (reserved : List Char) (start : Nat) : OpenTag :=
  ⟨start, .ofList (reserved ++ front.suffix)⟩

end TagFront

/-! ## The grammar of errors -/

/-- A value breaks behind its equals sign and the blanks there: `sound` may still become a value,
and `ending` breaks it. -/
inductive ValueBreaks (tag : OpenTag) (name : String) (pos : Nat) :
    TagError → (sound ending behind : List Char) → Prop
  | noValue : ValueBreaks tag name pos (.emptyValue ⟨tag.start, pos + 2⟩ name) ['/'] ['>'] behind
  | openQuote : (quote = '"' ∨ quote = '\'') → quote ∉ value →
    ValueBreaks tag name pos
      (.unterminatedQuote ⟨tag.start, pos + byteSize (quote :: value)⟩ name) (quote :: value) [] []
  | unfinished : (value = [] ∨ IsUnquoted value) →
    ValueBreaks tag name pos
      (.unterminatedTag ⟨tag.start, pos + byteSize value⟩ tag.name) value [] []

/-- A tag breaks where an attribute or its end should stand. -/
inductive ItemBreaks (tag : OpenTag) (pos : Nat) :
    TagError → (sound ending behind : List Char) → Prop
  | noName :
    ItemBreaks tag pos (.missingAttributeName ⟨tag.start, pos + 1⟩ tag.name) [] ['='] behind
  /-- A character with which the name, as far as it goes, is none. -/
  | strange : (name = "" ∨ isName name = true) → isName (.ofList (name.toList ++ [c])) = false →
    c ≠ '=' → ¬ AtBreak (c :: behind) →
    ItemBreaks tag pos (.invalidAttributeName ⟨pos, pos + byteSize (name.toList ++ [c])⟩
      (.ofList (name.toList ++ [c]))) name.toList [c] behind
  | unfinished : (name = "" ∨ isName name = true) →
    ItemBreaks tag pos (.unterminatedTag ⟨tag.start, pos + byteSize name.toList⟩ tag.name)
      name.toList [] []
  | value : isName name = true → (∀ c ∈ gap, isAsciiBlank c = true) →
    ValueBreaks tag name (pos + byteSize (name.toList ++ '=' :: gap)) e sound ending behind →
    ItemBreaks tag pos e (name.toList ++ '=' :: (gap ++ sound)) ending behind

/-- A tag breaks with an error, its `<` standing at `start`: `sound` may still become a tag, and
`ending` breaks it. Nothing breaks a tag at the end of the text, where it is only not finished. -/
inductive TagBreaks (reserved : List Char) (start : Nat) :
    TagError → (sound ending behind : List Char) → Prop
  | noName : AtBreak (c :: behind) →
    TagBreaks reserved start
      (.emptyTagName ⟨start, start + byteSize ('<' :: (reserved ++ [c]))⟩)
      ('<' :: reserved) [c] behind
  | strange : (∀ d ∈ suffix, isNameChar d = true) → isNameChar c = false →
    ¬ AtBreak (c :: behind) →
    TagBreaks reserved start
      (.invalidTagName ⟨start, start + byteSize ('<' :: (reserved ++ (suffix ++ [c])))⟩
        (.ofList (reserved ++ (suffix ++ [c]))))
      ('<' :: (reserved ++ suffix)) [c] behind
  | unfinished : (∀ d ∈ suffix, isNameChar d = true) →
    TagBreaks reserved start
      (.unterminatedTag ⟨start, start + byteSize ('<' :: (reserved ++ suffix))⟩
        (.ofList (reserved ++ suffix)))
      ('<' :: (reserved ++ suffix)) [] []
  | item (front : TagFront) :
    ItemBreaks (front.opened reserved start) (start + byteSize (front.text reserved)) e
      sound ending behind →
    TagBreaks reserved start e (front.text reserved ++ sound) ending behind

/-! ## Values -/

section
variable {tag : OpenTag} {name : String} {pos : Nat} {text : List Char} {e : TagError}

theorem valueBreaks_of_error (h : readTagValue tag name pos text = .error e)
    (hstop : Stops isAsciiBlank text) : ∃ sound ending behind, text = sound ++ (ending ++ behind) ∧
      ValueBreaks tag name pos e sound ending behind := by
  unfold readTagValue at h
  rw [Text.takeWhile_of_stops hstop, Text.dropWhile_of_stops hstop] at h
  dsimp only at h
  split at h
  · cases h
    exact ⟨[], [], [], rfl, .unfinished (.inl rfl)⟩
  · cases h
    exact ⟨['/'], ['>'], _, rfl, .noValue⟩
  rename_i c rest hopen
  split at h
  · rename_i hquote
    split at h
    · rename_i hrest
      cases h
      have hvalue : rest.takeWhile (· != c) = rest := by
        have := List.takeWhile_append_dropWhile (p := (· != c)) (l := rest)
        rwa [hrest, List.append_nil] at this
      have hc : c = '"' ∨ c = '\'' := by simpa using hquote
      have hmem : c ∉ rest := by
        rw [← hvalue]
        intro hmem
        exact absurd (List.mem_takeWhile_imp hmem) (by simp)
      refine ⟨c :: rest, [], [], by simp, ?_⟩
      have hsize : pos + byteSize [] + 1 + byteSize (rest.takeWhile (· != c)) =
          pos + byteSize (c :: rest) := by
        rw [hvalue, Text.byteSize_cons, utf8Size_quote hc, Text.byteSize_nil]
        omega
      rw [hsize]
      exact .openQuote hc hmem
    · cases h
  · rename_i hquote
    have hbreak : ¬ AtBreak (c :: rest) := by
      intro hbreak
      cases hbreak with
      | blank hc => exact absurd hc (Bool.eq_false_iff.mp (Text.stops_cons.mp hstop))
      | close => exact hopen _ rfl rfl
    have hunquoted := isUnquoted_cutBareValue (by simpa using hquote) hbreak
    have hcut := (cutBareValue_spec (c :: rest)).1
    split at h
    · rename_i hempty
      cases h
      rw [List.isEmpty_iff.mp hempty, List.append_nil] at hcut
      refine ⟨c :: rest, [], [], by simp, ?_⟩
      rw [← hcut] at hunquoted ⊢
      exact .unfinished (.inr hunquoted)
    · cases h

theorem ValueBreaks.readTagValue {sound ending behind : List Char}
    (h : ValueBreaks tag name pos e sound ending behind) :
    readTagValue tag name pos (sound ++ (ending ++ behind)) = .error e := by
  cases h with
  | noValue => rfl
  | @openQuote quote value hquote hmem =>
    have hstop : Stops isAsciiBlank (quote :: value) := by
      rcases hquote with rfl | rfl <;> exact Text.stops_cons.mpr (by decide)
    have hvalue : ∀ c ∈ value, (c != quote) = true := by
      intro c hc
      exact bne_iff_ne.mpr fun heq => hmem (heq ▸ hc)
    have htake : value.takeWhile (· != quote) = value := by
      simpa using Text.takeWhile_run hvalue Text.stops_nil
    have hdrop : value.dropWhile (· != quote) = [] := by
      simpa using Text.dropWhile_run hvalue Text.stops_nil
    have hsize := utf8Size_quote hquote
    unfold TagWeave.readTagValue
    rw [List.append_nil, List.append_nil, Text.takeWhile_of_stops hstop,
      Text.dropWhile_of_stops hstop]
    rcases hquote with rfl | rfl <;> simp [htake, hdrop, hsize] <;> omega
  | unfinished hvalue =>
    rw [List.append_nil, List.append_nil]
    rcases hvalue with rfl | hvalue
    · rfl
    obtain ⟨c, rest, rfl⟩ := List.exists_cons_of_ne_nil hvalue.nonempty
    have hstop : Stops isAsciiBlank (c :: rest) := Text.stops_of_forall hvalue.noBlank
    have hquote := Text.stops_cons.mp hvalue.noQuote
    have hcut := cutBareValue_append hvalue.noBlank hvalue.noClose (.inl rfl)
    rw [List.append_nil] at hcut
    unfold TagWeave.readTagValue
    rw [Text.takeWhile_of_stops hstop, Text.dropWhile_of_stops hstop]
    dsimp only
    split
    · rename_i h
      cases h
    · rename_i h
      cases h
      exact absurd (List.prefix_append ['/', '>'] _).isInfix hvalue.noClose
    · rename_i h
      cases h
      rw [if_neg (by simp [hquote]), hcut]
      rfl

end

/-! ## Items -/

section
variable {name : String} {c : Char}

theorem isName_single : isName (.ofList [c]) = isNameStart c := by
  simp [isName]

theorem isName_concat (h : isName name = true) :
    isName (.ofList (name.toList ++ [c])) = isNameChar c := by
  obtain ⟨first, rest, htext, hfirst, hchars⟩ := isName_iff.mp h
  have hrest : ∀ d ∈ rest, isNameChar d = true := (List.forall_mem_cons.mp hchars).2
  rw [htext]
  simp [isName, hfirst, List.all_eq_true.mpr hrest]

end

section
variable {tag : OpenTag} {pos : Nat} {text : List Char} {e : TagError}

theorem itemBreaks_of_name_error {name : List Char} (hname : isName (.ofList name) = true)
    (htext : Stops isNameChar text) (h : readBehindName tag pos name text = .error e) :
    ∃ sound ending behind, name ++ text = sound ++ (ending ++ behind) ∧
      ItemBreaks tag pos e sound ending behind := by
  have hlist : (String.ofList name).toList = name := String.toList_ofList
  unfold readBehindName at h
  split at h
  · cases h
    refine ⟨_, [], [], rfl, ?_⟩
    have hbreaks : ItemBreaks tag pos _ _ _ _ := .unfinished (.inr hname)
    rwa [hlist] at hbreaks
  · cases h
  rename_i c rest hclose
  split at h
  · rename_i hc
    cases eq_of_beq hc
    obtain ⟨gap, text, rfl, hgap, hstop⟩ := exists_gap rest
    rw [readTagValue_gap hgap] at h
    obtain ⟨sound, ending, behind, rfl, hbreaks⟩ := valueBreaks_of_error h hstop
    have hplace : pos + byteSize name + 1 + byteSize gap =
        pos + byteSize ((String.ofList name).toList ++ '=' :: gap) := by
      have hsize : '='.utf8Size = 1 := by decide
      rw [hlist, Text.byteSize_append, Text.byteSize_cons, hsize]
      omega
    rw [hplace] at hbreaks
    have hitem := ItemBreaks.value hname hgap hbreaks
    rw [hlist] at hitem
    exact ⟨_, ending, behind, by simp, hitem⟩
  · rename_i hc
    split at h
    · cases h
    rename_i hblank
    cases h
    have hstrange : isName (.ofList ((String.ofList name).toList ++ [c])) = false := by
      rw [isName_concat hname]
      exact Text.stops_cons.mp htext
    have hbreak : ¬ AtBreak (c :: rest) := by
      intro hbreak
      cases hbreak with
      | blank hc => exact hblank hc
      | close => exact hclose _ rfl rfl
    have hitem : ItemBreaks tag pos _ _ _ rest :=
      .strange (.inr hname) hstrange (by simpa using hc) hbreak
    rw [hlist, Text.byteSize_append, Text.byteSize_cons, Text.byteSize_nil, Nat.add_zero,
      ← Nat.add_assoc] at hitem
    exact ⟨name, [c], rest, rfl, hitem⟩

theorem itemBreaks_of_error (h : readTagItem tag pos text = .error e)
    (hstop : Stops isAsciiBlank text) : ∃ sound ending behind, text = sound ++ (ending ++ behind) ∧
      ItemBreaks tag pos e sound ending behind := by
  have hread := h
  unfold readTagItem at hread
  rw [Text.takeWhile_of_stops hstop, Text.dropWhile_of_stops hstop] at hread
  dsimp only at hread
  split at hread
  · cases hread
    exact ⟨[], [], [], rfl, .unfinished (.inl rfl)⟩
  · cases hread
  rename_i c rest hclose
  split at hread
  · rename_i hc
    cases hread
    cases eq_of_beq hc
    exact ⟨[], ['='], rest, rfl, .noName⟩
  rename_i hequals
  split at hread
  · rename_i hc
    cases hread
    have hbreak : ¬ AtBreak (c :: rest) := by
      intro hbreak
      cases hbreak with
      | blank hblank => exact absurd hblank (Bool.eq_false_iff.mp (Text.stops_cons.mp hstop))
      | close => exact hclose _ rfl rfl
    have hstrange : isName (.ofList ("".toList ++ [c])) = false := by
      rw [String.toList_empty, List.nil_append, isName_single]
      simpa using hc
    exact ⟨[], [c], rest, rfl, .strange (.inl rfl) hstrange (by simpa using hequals) hbreak⟩
  · rename_i hc
    have hc : isNameStart c = true := by simpa using hc
    have hchars : ∀ d ∈ rest.takeWhile isNameChar, isNameChar d = true :=
      fun _ => List.mem_takeWhile_imp
    have hname : isName (.ofList (c :: rest.takeWhile isNameChar)) = true :=
      isName_iff.mpr ⟨c, _, String.toList_ofList, hc,
        List.forall_mem_cons.mpr ⟨isNameChar_of_isNameStart hc, hchars⟩⟩
    have htext : c :: rest = c :: rest.takeWhile isNameChar ++ rest.dropWhile isNameChar := by simp
    rw [htext, List.cons_append, readTagItem_name hc hchars Text.stops_dropWhile] at h
    obtain ⟨sound, ending, behind, heq, hbreaks⟩ :=
      itemBreaks_of_name_error hname Text.stops_dropWhile h
    exact ⟨sound, ending, behind, htext.trans heq, hbreaks⟩

theorem readTagItem_strange {c : Char} {behind : List Char} (hc : isNameStart c = false)
    (hequals : c ≠ '=') (hbreak : ¬ AtBreak (c :: behind)) : readTagItem tag pos (c :: behind) =
      .error (.invalidAttributeName ⟨pos, pos + c.utf8Size⟩ (.ofList [c])) := by
  have hstop : Stops isAsciiBlank (c :: behind) := by
    rw [Text.stops_cons, Bool.eq_false_iff]
    exact fun hblank => hbreak (.blank hblank)
  unfold readTagItem
  rw [Text.takeWhile_of_stops hstop, Text.dropWhile_of_stops hstop]
  dsimp only
  split
  · rename_i h
    cases h
  · rename_i h
    cases h
    exact absurd .close hbreak
  · rename_i h
    cases h
    rw [if_neg (by simpa using hequals), if_pos (by simpa using hc)]
    rfl

theorem readBehindName_strange {name behind : List Char} {c : Char} (hequals : c ≠ '=')
    (hbreak : ¬ AtBreak (c :: behind)) : readBehindName tag pos name (c :: behind) =
      .error (.invalidAttributeName ⟨pos, pos + byteSize name + c.utf8Size⟩
        (.ofList (name ++ [c]))) := by
  unfold readBehindName
  split
  · rename_i h
    cases h
  · rename_i h
    cases h
    exact absurd .close hbreak
  · rename_i h
    cases h
    rw [if_neg (by simpa using hequals), if_neg fun hblank => hbreak (.blank hblank)]

/-- Behind a name, what is read depends on what follows it. -/
theorem readTagItem_of_isName {name : String} (hname : isName name = true)
    (htext : Stops isNameChar text) :
    readTagItem tag pos (name.toList ++ text) = readBehindName tag pos name.toList text := by
  obtain ⟨c, rest, hlist, hc, hchars⟩ := isName_iff.mp hname
  rw [hlist]
  exact readTagItem_name hc (List.forall_mem_cons.mp hchars).2 htext

theorem ItemBreaks.readTagItem {sound ending behind : List Char}
    (h : ItemBreaks tag pos e sound ending behind) :
    readTagItem tag pos (sound ++ (ending ++ behind)) = .error e := by
  cases h with
  | noName => rfl
  | @strange name c _ hname hstrange hequals hbreak =>
    rcases hname with rfl | hname
    · rw [String.toList_empty, List.nil_append, isName_single] at hstrange
      exact readTagItem_strange hstrange hequals hbreak
    · rw [isName_concat hname] at hstrange
      rw [List.singleton_append, readTagItem_of_isName hname (Text.stops_cons.mpr hstrange),
        readBehindName_strange hequals hbreak, Text.byteSize_append, Text.byteSize_cons,
        Text.byteSize_nil, Nat.add_zero, Nat.add_assoc]
  | @unfinished name hname =>
    rcases hname with rfl | hname
    · rfl
    · exact readTagItem_of_isName hname Text.stops_nil
  | @value name gap _ sound ending behind hname hgap hvalue =>
    have hplace : pos + byteSize name.toList + 1 + byteSize gap =
        pos + byteSize (name.toList ++ '=' :: gap) := by
      have hsize : '='.utf8Size = 1 := by decide
      rw [Text.byteSize_append, Text.byteSize_cons, hsize]
      omega
    have htail : Stops isNameChar ('=' :: (gap ++ (sound ++ (ending ++ behind)))) :=
      Text.stops_cons.mpr (by decide)
    rw [List.append_assoc, List.cons_append, List.append_assoc, readTagItem_of_isName hname htail,
      readBehindName_equals, readTagValue_gap hgap, hplace, String.ofList_toList]
    exact hvalue.readTagValue

theorem ItemBreaks.not_atBreak {sound ending behind : List Char}
    (h : ItemBreaks tag pos e sound ending behind) : ¬ AtBreak (sound ++ (ending ++ behind)) := by
  have hnamed {name : String} (hname : isName name = true) (rest : List Char) :
      ¬ AtBreak (name.toList ++ rest) := TagPart.Named.bare.not_atBreak hname
  cases h with
  | noName => exact not_atBreak_equals
  | strange hname _ _ hbreak =>
    rcases hname with rfl | hname
    · exact hbreak
    · exact hnamed hname _
  | unfinished hname =>
    rcases hname with rfl | hname
    · exact nofun
    · exact hnamed hname _
  | value hname =>
    rw [List.append_assoc]
    exact hnamed hname _

end

/-! ## All that follows the name -/

namespace TagParts
variable {part : TagPart} {parts more : List TagPart} {rest : List Char}

theorem continued_blanks {gap : List Char} (hgap : ∀ c ∈ gap, isAsciiBlank c = true)
    (hparts : Continued parts) : Continued (gap.map TagPart.blank ++ parts) := by
  induction gap with
  | nil => exact hparts
  | cons c gap ih =>
    obtain ⟨hc, hgap⟩ := List.forall_mem_cons.mp hgap
    exact ⟨hc, False.elim, ih hgap⟩

/-- Any parts may follow. -/
theorem Continued.append (hparts : Continued parts) (hmore : WellFormed more) :
    WellFormed (parts ++ more) := by
  induction parts with
  | nil => exact hmore
  | cons part parts ih =>
    obtain ⟨hpart, hopen, hrest⟩ := hparts
    refine ⟨hpart, fun ho => ?_, ih hrest⟩
    obtain ⟨c, others, rfl⟩ := hopen ho
    trivial

theorem Continued.atBreak (hparts : Continued (part :: parts)) (ho : part.Open) :
    AtBreak (text parts ++ rest) := by
  obtain ⟨c, others, rfl⟩ := hparts.2.1 ho
  exact .blank hparts.2.2.1

end TagParts

section
variable {tag : OpenTag} {pos : Nat} {text rest : List Char} {e : TagError}

/-- Where the parts in front of a broken item are behind a break, a blank is the first of them, for
what breaks a tag is no break. -/
theorem ItemBreaks.blank_first {parts : List TagPart} {sound ending behind : List Char}
    (h : ItemBreaks tag pos e sound ending behind) (hparts : TagParts.Continued parts)
    (hbreak : AtBreak (TagParts.text parts ++ (sound ++ (ending ++ behind)))) :
    ∃ c more, parts = .blank c :: more := by
  cases parts with
  | nil => exact absurd hbreak h.not_atBreak
  | cons part parts =>
    rcases part.blank_or_named with ⟨c, rfl⟩ | ⟨_, _, hn⟩
    · exact ⟨c, parts, rfl⟩
    · rw [TagParts.text_cons, List.append_assoc] at hbreak
      exact absurd hbreak (hn.not_atBreak hparts.1)

theorem readAttributes_error_of_parts {parts : List TagPart} (hparts : TagParts.Continued parts)
    (h : readAttributes tag (pos + byteSize (TagParts.text parts)) rest = .error e) :
    readAttributes tag pos (TagParts.text parts ++ rest) = .error e := by
  induction parts generalizing pos with
  | nil => exact h
  | cons part parts ih =>
    rw [TagParts.text_cons, Text.byteSize_append, ← Nat.add_assoc] at h
    rw [TagParts.text_cons, List.append_assoc]
    rcases part.blank_or_named with ⟨c, rfl⟩ | ⟨name, tail, hn⟩
    · have hgap : ∀ d ∈ [c], isAsciiBlank d = true := List.forall_mem_singleton.mpr hparts.1
      exact (readAttributes_gap hgap).trans (ih hparts.2.2 h)
    · obtain ⟨⟨name, value⟩, hattribute⟩ : ∃ pair, part.attribute? = some pair := by
        cases hn <;> exact ⟨_, rfl⟩
      rw [readAttributes_of_entry (readTagItem_part hparts.1 hparts.atBreak hattribute),
        ih hparts.2.2 h]
      rfl

theorem readAttributes_eq_error_iff : readAttributes tag pos text = .error e ↔
    ∃ parts sound ending behind, TagParts.Continued parts ∧
      text = TagParts.text parts ++ (sound ++ (ending ++ behind)) ∧
      ItemBreaks tag (pos + byteSize (TagParts.text parts)) e sound ending behind := by
  constructor
  · intro h
    fun_induction readAttributes tag pos text with
    | case1 pos text e' hitem =>
      cases h
      obtain ⟨gap, text, rfl, hgap, hstop⟩ := exists_gap text
      rw [readTagItem_gap hgap] at hitem
      obtain ⟨sound, ending, behind, rfl, hbreaks⟩ := itemBreaks_of_error hitem hstop
      have hparts : TagParts.text (gap.map TagPart.blank ++ []) = gap ++ [] := TagParts.text_blanks
      rw [List.append_nil, List.append_nil] at hparts
      refine ⟨gap.map TagPart.blank, sound, ending, behind, ?_, by rw [hparts], by rwa [hparts]⟩
      have hcontinued : TagParts.Continued (gap.map TagPart.blank ++ []) :=
        TagParts.continued_blanks hgap trivial
      rwa [List.append_nil] at hcontinued
    | case2 => cases h
    | case3 pos text name value stop rest hitem hlt e' hmore ih =>
      cases h
      obtain ⟨parts, sound, ending, behind, hparts, rfl, hbreaks⟩ := ih hmore
      obtain ⟨gap, text, rfl, hgap, hstop⟩ := exists_gap text
      rw [readTagItem_gap hgap] at hitem
      rcases readTagItem_eq_ok hitem hstop with
        ⟨_, _, hclose⟩ | ⟨part, _, _, _, rfl, hpart, hrest, -, hentry⟩
      · cases hclose
      cases hentry
      refine ⟨gap.map TagPart.blank ++ part :: parts, sound, ending, behind,
        TagParts.continued_blanks hgap
          ⟨hpart, fun ho => hbreaks.blank_first hparts (hrest ho), hparts⟩, ?_, ?_⟩
      · rw [TagParts.text_blanks, TagParts.text_cons, List.append_assoc, List.append_assoc]
      · rw [TagParts.text_blanks, TagParts.text_cons, Text.byteSize_append, Text.byteSize_append,
          ← Nat.add_assoc, ← Nat.add_assoc]
        exact hbreaks
    | case4 => cases h
  · rintro ⟨parts, sound, ending, behind, hparts, rfl, hbreaks⟩
    exact readAttributes_error_of_parts hparts (readAttributes_of_error hbreaks.readTagItem)

end

/-! ## Tags -/

section
variable {reserved inside suffix rest : List Char} {start : Nat} {e : TagError}

theorem TagFront.atBreak (front : TagFront) :
    AtBreak (TagParts.text front.parts ++ rest) := by
  obtain ⟨c, parts, hparts⟩ := front.blank_first
  have hcontinued := front.continued
  rw [hparts] at hcontinued ⊢
  exact .blank hcontinued.1

/-- Behind a name, a tag breaks where its attributes do. -/
theorem tagBreaks_of_attributes_error (hsuffix : ∀ d ∈ suffix, isNameChar d = true)
    (hne : suffix ≠ []) (hbreak : AtBreak rest)
    (h : readAttributes ⟨start, .ofList (reserved ++ suffix)⟩
      (start + byteSize ('<' :: (reserved ++ suffix))) rest = .error e) :
    ∃ sound ending behind, '<' :: (reserved ++ (suffix ++ rest)) = sound ++ (ending ++ behind) ∧
      TagBreaks reserved start e sound ending behind := by
  obtain ⟨parts, sound, ending, behind, hparts, rfl, hitem⟩ := readAttributes_eq_error_iff.mp h
  let front : TagFront :=
    ⟨suffix, parts, hne, hsuffix, hitem.blank_first hparts hbreak, hparts⟩
  have hsize : start + byteSize (front.text reserved) = _ := byteSize_behind_name
  rw [← hsize] at hitem
  exact ⟨_, ending, behind, by simp [front, TagFront.text], .item front hitem⟩

theorem readAttributes_of_front {front : TagFront} {sound ending behind : List Char}
    (h : ItemBreaks (front.opened reserved start) (start + byteSize (front.text reserved)) e
      sound ending behind) :
    readAttributes (front.opened reserved start)
      (start + byteSize ('<' :: (reserved ++ front.suffix)))
      (TagParts.text front.parts ++ (sound ++ (ending ++ behind))) = .error e := by
  rw [TagFront.text, byteSize_behind_name] at h
  exact readAttributes_eq_error_iff.mpr
    ⟨front.parts, sound, ending, behind, front.continued, rfl, h⟩

/-- **A tag cannot be read exactly where it breaks.** -/
theorem readTag_eq_error_iff : readTag reserved start inside = .error e ↔
    ∃ sound ending behind, '<' :: (reserved ++ inside) = sound ++ (ending ++ behind) ∧
      TagBreaks reserved start e sound ending behind := by
  constructor
  · intro h
    obtain ⟨suffix, rest, rfl, hsuffix, hstop⟩ := exists_suffix inside
    cases rest with
    | nil =>
      rw [List.append_nil, readTag_of_end hsuffix] at h
      cases h
      exact ⟨_, [], [], by simp, .unfinished hsuffix⟩
    | cons c behind =>
      by_cases hbreak : AtBreak (c :: behind)
      · by_cases hne : suffix = []
        · subst hne
          rw [List.nil_append, readTag_of_noName hbreak] at h
          cases h
          exact ⟨_, [c], behind, rfl, .noName hbreak⟩
        · rw [readTag_of_name hsuffix hne hbreak] at h
          cases hread : readAttributes ⟨start, .ofList (reserved ++ suffix)⟩
              (start + byteSize ('<' :: (reserved ++ suffix))) (c :: behind) with
          | ok found =>
            rw [hread] at h
            cases h
          | error e' =>
            rw [hread] at h
            cases h
            exact tagBreaks_of_attributes_error hsuffix hne hbreak hread
      · rw [readTag_of_strange hsuffix (Text.stops_cons.mp hstop) hbreak] at h
        cases h
        exact ⟨_, [c], behind, by simp, .strange hsuffix (Text.stops_cons.mp hstop) hbreak⟩
  · rintro ⟨sound, ending, behind, htext, hbreaks⟩
    cases hbreaks with
    | noName hbreak =>
      obtain rfl : inside = _ := by simpa using htext
      exact readTag_of_noName hbreak
    | strange hsuffix hc hbreak =>
      obtain rfl : inside = _ := by simpa using htext
      exact readTag_of_strange hsuffix hc hbreak
    | unfinished hsuffix =>
      obtain rfl : inside = _ := by simpa using htext
      exact readTag_of_end hsuffix
    | @item _ sound _ _ front hitem =>
      have hinside : inside =
          front.suffix ++ (TagParts.text front.parts ++ (sound ++ (ending ++ behind))) := by
        simpa [TagFront.text] using htext
      have hread := readAttributes_of_front hitem
      rw [TagFront.opened] at hread
      rw [hinside, readTag_of_name front.suffix_chars front.suffix_ne front.atBreak, hread]
      rfl

end

end TagWeave
