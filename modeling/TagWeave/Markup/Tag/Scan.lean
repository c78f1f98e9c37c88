import TagWeave.Markup.Name
import TagWeave.Markup.Tag
import TagWeave.Text.Blank
import TagWeave.Text.Find

/-!
# Scanning a text for tags

A text is scanned once from the left. Each tag is read attribute by attribute; the first error ends
the scan, and what was found before it is kept.
-/

namespace TagWeave

open Text (byteSize)

/-- A tag of which the name has been read. -/
structure OpenTag where
  /-- The place of its `<`. -/
  start : Nat
  name : String

/-- What stands next inside a tag: its end, or an attribute. Either goes with the place behind it
and the rest of the text. -/
inductive TagItem
  | close (pos : Nat) (rest : List Char)
  | entry (name value : String) (pos : Nat) (rest : List Char)

def TagItem.rest : TagItem → List Char
  | close _ rest => rest
  | entry _ _ _ rest => rest

/-- Cuts a value without quotes off the front of a text: it ends before a blank or the end of the
tag. -/
def cutBareValue : List Char → List Char × List Char
  | [] => ([], [])
  | '/' :: '>' :: rest => ([], '/' :: '>' :: rest)
  | c :: rest =>
    if Text.isAsciiBlank c then ([], c :: rest)
    else
      let (value, after) := cutBareValue rest
      (c :: value, after)

/-- Reads a value from behind its equals sign. -/
def readTagValue (tag : OpenTag) (name : String) (pos : Nat) (text : List Char) :
    Except TagError TagItem :=
  let pos := pos + byteSize (text.takeWhile Text.isAsciiBlank)
  match text.dropWhile Text.isAsciiBlank with
  | [] => .error (.unterminatedTag ⟨tag.start, pos⟩ tag.name)
  | '/' :: '>' :: _ => .error (.emptyValue ⟨tag.start, pos + 2⟩ name)
  | c :: rest =>
    if c == '"' || c == '\'' then
      let value := rest.takeWhile (· != c)
      let pos := pos + 1 + byteSize value
      match rest.dropWhile (· != c) with
      | [] => .error (.unterminatedQuote ⟨tag.start, pos⟩ name)
      | _ :: after => .ok (.entry name (.ofList value) (pos + 1) after)
    else
      let cut := cutBareValue (c :: rest)
      let pos := pos + byteSize cut.1
      if cut.2.isEmpty then .error (.unterminatedTag ⟨tag.start, pos⟩ tag.name)
      else .ok (.entry name (.ofList cut.1) pos cut.2)

/-- Reads the next item of a tag. -/
def readTagItem (tag : OpenTag) (pos : Nat) (text : List Char) : Except TagError TagItem :=
  let pos := pos + byteSize (text.takeWhile Text.isAsciiBlank)
  match text.dropWhile Text.isAsciiBlank with
  | [] => .error (.unterminatedTag ⟨tag.start, pos⟩ tag.name)
  | '/' :: '>' :: rest => .ok (.close (pos + 2) rest)
  | c :: rest =>
    if c == '=' then .error (.missingAttributeName ⟨tag.start, pos + 1⟩ tag.name)
    else if !isNameStart c then
      .error (.invalidAttributeName ⟨pos, pos + c.utf8Size⟩ (.ofList [c]))
    else
      let name := c :: rest.takeWhile isNameChar
      let stop := pos + byteSize name
      match rest.dropWhile isNameChar with
      | [] => .error (.unterminatedTag ⟨tag.start, stop⟩ tag.name)
      | '/' :: '>' :: rest => .ok (.entry (.ofList name) "" stop ('/' :: '>' :: rest))
      | d :: rest =>
        if d == '=' then readTagValue tag (.ofList name) (stop + 1) rest
        else if Text.isAsciiBlank d then .ok (.entry (.ofList name) "" stop (d :: rest))
        else .error (.invalidAttributeName ⟨pos, stop + d.utf8Size⟩ (.ofList (name ++ [d])))

theorem length_cutBareValue (text : List Char) :
    (cutBareValue text).2.length ≤ text.length := by
  fun_induction cutBareValue text <;> simp_all
  omega

theorem length_readTagValue {tag : OpenTag} {name : String} {pos : Nat} {text : List Char}
    {item : TagItem} (h : readTagValue tag name pos text = .ok item) :
    item.rest.length ≤ text.length := by
  have hdrop := (List.dropWhile_sublist (l := text) Text.isAsciiBlank).length_le
  unfold readTagValue at h
  dsimp only at h
  split at h
  · simp at h
  · simp at h
  · rename_i c rest _ heq
    rw [heq] at hdrop
    split at h
    · split at h
      · simp at h
      · rename_i after hafter
        have := (List.dropWhile_sublist (l := rest) (· != c)).length_le
        rw [hafter] at this
        simp only [Except.ok.injEq] at h
        subst h
        simp only [TagItem.rest]
        simp only [List.length_cons] at this hdrop
        omega
    · have := length_cutBareValue (c :: rest)
      split at h
      · simp at h
      · simp only [Except.ok.injEq] at h
        subst h
        simp only [TagItem.rest]
        omega

/-- Every item takes at least one character. -/
theorem length_readTagItem {tag : OpenTag} {pos : Nat} {text : List Char} {item : TagItem}
    (h : readTagItem tag pos text = .ok item) : item.rest.length < text.length := by
  have hdrop := (List.dropWhile_sublist (l := text) Text.isAsciiBlank).length_le
  unfold readTagItem at h
  dsimp only at h
  split at h
  · simp at h
  · rename_i heq
    rw [heq] at hdrop
    simp only [Except.ok.injEq] at h
    subst h
    simp only [TagItem.rest, List.length_cons] at *
    omega
  · rename_i c rest _ heq
    rw [heq] at hdrop
    have hname := (List.dropWhile_sublist (l := rest) isNameChar).length_le
    split at h
    · simp at h
    · split at h
      · simp at h
      · split at h
        · simp at h
        · rename_i hrest
          rw [hrest] at hname
          simp only [Except.ok.injEq] at h
          subst h
          simp only [TagItem.rest]
          simp only [List.length_cons] at hname hdrop ⊢
          omega
        · rename_i hrest
          rw [hrest] at hname
          simp only [List.length_cons] at hname hdrop
          split at h
          · have := length_readTagValue h
            omega
          · split at h
            · simp only [Except.ok.injEq] at h
              subst h
              simp only [TagItem.rest]
              simp only [List.length_cons]
              omega
            · simp at h

/-- Reads the attributes of a tag and its end. -/
def readAttributes (tag : OpenTag) (pos : Nat) (text : List Char) :
    Except TagError (List (String × String) × Nat × List Char) :=
  match h : readTagItem tag pos text with
  | .error e => .error e
  | .ok (.close pos rest) => .ok ([], pos, rest)
  | .ok (.entry name value pos rest) =>
    have : rest.length < text.length := length_readTagItem h
    match readAttributes tag pos rest with
    | .error e => .error e
    | .ok (attributes, pos, rest) => .ok ((name, value) :: attributes, pos, rest)
termination_by text.length

theorem length_readAttributes {tag : OpenTag} {pos stop : Nat} {text rest : List Char}
    {attributes : List (String × String)}
    (h : readAttributes tag pos text = .ok (attributes, stop, rest)) :
    rest.length < text.length := by
  fun_induction readAttributes tag pos text generalizing attributes stop rest with
  | case1 => simp at h
  | case2 pos text p r hitem =>
    simp only [Except.ok.injEq, Prod.mk.injEq] at h
    obtain ⟨_, _, rfl⟩ := h
    exact length_readTagItem hitem
  | case3 => simp at h
  | case4 pos text name value p r hitem hlt more q s hmore ih =>
    simp only [Except.ok.injEq, Prod.mk.injEq] at h
    obtain ⟨_, _, rfl⟩ := h
    exact Nat.lt_trans (ih hmore) hlt

/-- Reads a tag whose `<` stands at `start`, from behind its reserved characters. -/
def readTag (reserved : List Char) (start : Nat) (text : List Char) :
    Except TagError (Tag × List Char) :=
  let suffix := text.takeWhile isNameChar
  let name := reserved ++ suffix
  let pos := start + 1 + byteSize name
  let openTag : OpenTag := ⟨start, .ofList name⟩
  match text.dropWhile isNameChar with
  | [] => .error (.unterminatedTag ⟨start, pos⟩ openTag.name)
  | c :: rest =>
    if Text.isAsciiBlank c || ['/', '>'].isPrefixOf (c :: rest) then
      if suffix.isEmpty then .error (.emptyTagName ⟨start, pos + 1⟩)
      else
        match readAttributes openTag pos (c :: rest) with
        | .error e => .error e
        | .ok (attributes, stop, rest) => .ok (⟨openTag.name, attributes, ⟨start, stop⟩⟩, rest)
    else .error (.invalidTagName ⟨start, pos + c.utf8Size⟩ (.ofList (name ++ [c])))

theorem length_readTag {reserved : List Char} {start : Nat} {text rest : List Char} {tag : Tag}
    (h : readTag reserved start text = .ok (tag, rest)) : rest.length < text.length := by
  have hname := (List.dropWhile_sublist (l := text) isNameChar).length_le
  unfold readTag at h
  dsimp only at h
  split at h
  · simp at h
  · rename_i c tail heq
    rw [heq] at hname
    split at h
    · split at h
      · simp at h
      · split at h
        · simp at h
        · rename_i hattributes
          have := length_readAttributes hattributes
          simp only [Except.ok.injEq, Prod.mk.injEq] at h
          obtain ⟨_, rfl⟩ := h
          omega
    · simp at h

/-- What a scan finds: the tokens up to the end of the text, or up to the first error. -/
structure Scan where
  tokens : List Token
  error? : Option TagError
  deriving DecidableEq, Repr

/-- A token found before the others. -/
def Scan.cons (token : Token) (scan : Scan) : Scan := ⟨token :: scan.tokens, scan.error?⟩

/-- Scans a text from the place `pos` on. -/
def scanFrom (reserved : List Char) (pos : Nat) (text : List Char) : Scan :=
  match text with
  | [] => ⟨[], none⟩
  | c :: tail =>
    match hopen : Text.after? ('<' :: reserved) (c :: tail) with
    | some inside =>
      match htag : readTag reserved pos inside with
      | .error e => ⟨[], some e⟩
      | .ok (tag, rest) =>
        have : rest.length < tail.length + 1 := by
          have := length_readTag htag
          have := congrArg List.length (Text.after?_eq_some_iff.mp hopen)
          simp only [List.length_cons, List.length_append] at this
          omega
        (scanFrom reserved tag.span.stop rest).cons (.tag tag)
    | none =>
      let run := c :: (Text.cutAt ('<' :: reserved) tail).1
      have : (Text.cutAt ('<' :: reserved) tail).2.length < tail.length + 1 := by
        have := congrArg List.length (Text.cutAt_append ('<' :: reserved) tail)
        simp only [List.length_append] at this
        omega
      (scanFrom reserved (pos + byteSize run) (Text.cutAt ('<' :: reserved) tail).2).cons
        (.literal (.ofList run))
termination_by text.length

/-- Scans a text for tags whose names begin with `reserved`. -/
def scan (reserved text : String) : Scan := scanFrom reserved.toList 0 text.toList

end TagWeave
