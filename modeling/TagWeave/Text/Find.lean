/-!
# Looking for a piece of text inside another
-/

namespace TagWeave.Text

/-- What follows `piece` in a text that begins with it. -/
def after? : (piece text : List Char) → Option (List Char)
  | [], text => some text
  | _ :: _, [] => none
  | p :: piece, c :: text => if p = c then after? piece text else none

theorem after?_eq_some_iff {piece text rest : List Char} :
    after? piece text = some rest ↔ text = piece ++ rest := by
  induction piece generalizing text with
  | nil => simp [after?]
  | cons p piece ih =>
    cases text with
    | nil => simp [after?]
    | cons c text =>
      by_cases h : p = c
      · simp [after?, h, ih]
      · simp [after?, h, Ne.symm h]

/-- Cuts a text where `piece` first occurs; the second part is empty if it does not. -/
def cutAt (piece : List Char) : List Char → List Char × List Char
  | [] => ([], [])
  | c :: rest =>
    if piece.isPrefixOf (c :: rest) then ([], c :: rest)
    else
      let (before, after) := cutAt piece rest
      (c :: before, after)

theorem cutAt_append (piece text : List Char) :
    (cutAt piece text).1 ++ (cutAt piece text).2 = text := by
  induction text with
  | nil => rfl
  | cons c rest ih =>
    unfold cutAt
    split
    · rfl
    · simpa using ih

/-- What stands before and after the first occurrence of `piece`. -/
def splitOnce? (piece text : List Char) : Option (List Char × List Char) :=
  let (before, after) := cutAt piece text
  (after? piece after).map (before, ·)

/-- What stands behind the last occurrence of `piece`; all of the text if there is none. -/
def afterLast (piece text : List Char) : List Char := (cutAt piece.reverse text.reverse).1.reverse

/-- Whether `piece` occurs in the text. -/
def occurs (piece text : List Char) : Bool :=
  piece.isPrefixOf text || match text with
    | [] => false
    | _ :: rest => occurs piece rest

/-- Writes `new` for every occurrence of `old`, from the left and not overlapping. An empty `old`
occurs before every character and at the end. -/
def replace (old new text : List Char) : List Char :=
  go 0 text
where
  /-- `skip` characters of an occurrence already replaced are left. -/
  go : Nat → List Char → List Char
    | _, [] => if old.isEmpty then new else []
    | skip + 1, _ :: rest => go skip rest
    | 0, c :: rest =>
      if old.isEmpty then new ++ c :: go 0 rest
      else if old.isPrefixOf (c :: rest) then new ++ go (old.length - 1) rest
      else c :: go 0 rest

end TagWeave.Text
