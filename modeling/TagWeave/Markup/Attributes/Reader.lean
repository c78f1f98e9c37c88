import TagWeave.Markup.Attributes

/-!
# Reading attributes from a text

The text is cut at its equals signs. The words before one are names; the last of them takes the
value that follows, which stands in quotes or goes on to the next blank.
-/

namespace TagWeave.AttributeSet

/-- Adds names without values, up to the first that is none. -/
def addNames (attributes : AttributeSet) (names : List String) :
    Except AttributeError AttributeSet :=
  names.foldlM
    (fun attributes name =>
      if isName name then .ok (attributes.insert name "") else .error (.invalidName name))
    attributes

/-- The value at the front of a text, blanks before it aside, and the rest of the text; nothing if
its closing quote is missing. -/
def readValue? (text : List Char) : Option (String × List Char) :=
  match text.dropWhile Text.isBlank with
  | [] => some ("", [])
  | c :: rest =>
    if c == '"' || c == '\'' then
      match rest.dropWhile (· != c) with
      | [] => none
      | _ :: after => some (.ofList (rest.takeWhile (· != c)), after)
    else
      some (.ofList ((c :: rest).takeWhile (!Text.isBlank ·)),
        (c :: rest).dropWhile (!Text.isBlank ·))

theorem length_readValue? {text rest : List Char} {value : String}
    (h : readValue? text = some (value, rest)) : rest.length ≤ text.length := by
  have hdrop : (text.dropWhile Text.isBlank).length ≤ text.length :=
    (List.dropWhile_sublist _).length_le
  unfold readValue? at h
  split at h
  · simp only [Option.some.injEq, Prod.mk.injEq] at h
    simp [← h.2]
  · rename_i c tail htail
    rw [htail] at hdrop
    simp only [List.length_cons] at hdrop
    split at h
    · split at h
      · simp at h
      · rename_i after hafter
        have := (List.dropWhile_sublist (l := tail) (· != c)).length_le
        rw [hafter] at this
        simp only [Option.some.injEq, Prod.mk.injEq] at h
        simp only [List.length_cons] at this
        rw [← h.2]
        omega
    · simp only [Option.some.injEq, Prod.mk.injEq] at h
      have := (List.dropWhile_sublist (l := c :: tail) (!Text.isBlank ·)).length_le
      simp only [List.length_cons] at this
      rw [← h.2]
      omega

theorem length_lt_of_readValue? {text after rest : List Char} {c : Char} {value : String}
    (htext : text.dropWhile (· != '=') = c :: after) (h : readValue? after = some (value, rest)) :
    rest.length < text.length := by
  have := length_readValue? h
  have := (List.dropWhile_sublist (l := text) (· != '=')).length_le
  rw [htext] at this
  simp only [List.length_cons] at this
  omega

/-- Adds what the rest of a text holds; `whole` is the text that an error quotes. -/
def readOnto (whole : String) (attributes : AttributeSet) (text : List Char) :
    Except AttributeError AttributeSet :=
  let names := (Text.words (text.takeWhile (· != '='))).map String.ofList
  match addNames attributes names with
  | .error e => .error e
  | .ok attributes =>
    match htext : text.dropWhile (· != '=') with
    | [] => .ok attributes
    | _ :: after =>
      match names.getLast? with
      | none => .error (.missingName whole)
      | some name =>
        match hvalue : readValue? after with
        | none => .error (.unterminatedQuote name)
        | some (value, rest) =>
          have := length_lt_of_readValue? htext hvalue
          if hasBothQuotes value then .error (.ambiguousQuotes name value)
          else readOnto whole (attributes.insert name value) rest
termination_by text.length

def parse (text : String) : Except AttributeError AttributeSet :=
  readOnto text .empty text.toList

end TagWeave.AttributeSet
