import TagWeave.Markup.Classes
import TagWeave.Proofs.Markup.Name

/-!
# Classes written and read

Tokens that are added stand where they are added first (`ClassSet.tokens_foldl_insert`), up to one
that is no name (`ClassSet.addTokens_eq`). So tokens that come from a text are names
(`ClassSet.Named`), and names are found again between the spaces of the text that is written for
them (`ClassSet.tokensOf_write`).
-/

namespace TagWeave

theorem ne_empty_of_isName {name : String} (h : isName name = true) : name ≠ "" := by
  rintro rfl
  exact absurd h (by decide)

namespace ClassSet

variable {classes other result : ClassSet} {token text : String} {tokens : List String}

/-! ## Tokens that are added -/

/-- A list without repetitions is left as it is. -/
theorem eraseDups_of_nodup (h : tokens.Nodup) : tokens.eraseDups = tokens := by
  induction tokens with
  | nil => rfl
  | cons token tokens ih =>
    obtain ⟨hnew, hrest⟩ := List.nodup_cons.mp h
    have hfilter : tokens.filter (fun other => !other == token) = tokens := by
      refine List.filter_eq_self.mpr fun other hother => ?_
      simpa using ne_of_mem_of_not_mem hother hnew
    rw [List.eraseDups_cons, hfilter, ih hrest]

/-- Of tokens added one by one each stands where it was added first. -/
theorem tokens_foldl_insert :
    (tokens.foldl insert classes).tokens = (classes.tokens ++ tokens).eraseDups := by
  induction tokens generalizing classes with
  | nil =>
    rw [List.append_nil]
    exact (eraseDups_of_nodup classes.nodup).symm
  | cons token tokens ih =>
    rw [List.foldl_cons, ih]
    unfold insert
    split
    · rename_i hmem
      have hold : (token :: tokens).removeAll classes.tokens = tokens.removeAll classes.tokens := by
        rw [List.cons_removeAll, if_neg (by simpa using hmem)]
      rw [List.eraseDups_append, List.eraseDups_append, hold]
    · rw [List.append_assoc]
      rfl

/-- All tokens are names. -/
def Named (classes : ClassSet) : Prop := ∀ token ∈ classes.tokens, isName token = true

theorem Named.foldl_insert (h : classes.Named) (htokens : ∀ token ∈ tokens, isName token = true) :
    (tokens.foldl ClassSet.insert classes).Named := by
  intro token htoken
  rw [tokens_foldl_insert, List.mem_eraseDups, List.mem_append] at htoken
  exact htoken.elim (h token) (htokens token)

/-- The names that tokens begin with, up to the first token that is none. -/
def leadingNames (tokens : List String) : List String :=
  (tokens.map Text.trimmed).takeWhile (isName ·)

theorem isTrimmedName_of_mem_leadingNames (h : token ∈ leadingNames tokens) :
    IsTrimmedName token := by
  obtain ⟨raw, -, rfl⟩ := List.mem_map.mp ((List.takeWhile_sublist _).subset h)
  exact isTrimmedName_trimmed (List.all_eq_true.mp List.all_takeWhile _ h)

/-- The names in front of the first token that is none are added, and that token is the error. -/
theorem addTokens_eq : classes.addTokens tokens =
    (match (tokens.map Text.trimmed).find? (!isName ·) with
      | none => .ok ()
      | some token => .error (.invalidClass token),
    (leadingNames tokens).foldl ClassSet.insert classes) := by
  induction tokens generalizing classes with
  | nil => rfl
  | cons token tokens ih =>
    unfold ClassSet.addTokens leadingNames
    dsimp only
    rw [List.map_cons, List.find?_cons, List.takeWhile_cons]
    cases isName (Text.trimmed token) with
    | true => exact ih
    | false => rfl

theorem Named.addTokens (h : classes.Named) : (classes.addTokens tokens).2.Named := by
  rw [addTokens_eq]
  exact h.foldl_insert fun _ htoken => (isTrimmedName_of_mem_leadingNames htoken).isName

theorem eq_of_addWords (h : classes.addWords text = .ok result) :
    result = (classes.addTokens ((Text.words text.toList).map String.ofList)).2 := by
  unfold ClassSet.addWords at h
  split at h
  · rename_i heq
    cases h
    rw [heq]
  · cases h

theorem Named.addWords (h : classes.Named) (hadd : classes.addWords text = .ok result) :
    result.Named := by
  rw [eq_of_addWords hadd]
  exact h.addTokens

theorem named_parse (h : parse text = .ok result) : result.Named := by
  have hempty : ClassSet.empty.Named := List.forall_mem_nil _
  exact hempty.addWords h

theorem Named.union (h : classes.Named) (hother : other.Named) : (classes.union other).Named :=
  h.foldl_insert hother

/-! ## The text of a class attribute -/

/-- The tokens between the spaces of a text. -/
def tokensOf (text : String) : List String :=
  ((text.toList.splitOn ' ').map String.ofList).filter (!·.isEmpty)

/-- Names are found again in the text that is written for them. -/
theorem tokensOf_write (h : classes.Named) : tokensOf classes.write = classes.tokens := by
  have hspace : ∀ word ∈ classes.tokens.map String.toList, ' ' ∉ word := by
    intro word hword
    obtain ⟨token, htoken, rfl⟩ := List.mem_map.mp hword
    exact not_mem_of_isName (h token htoken) (by decide)
  have hfull : ∀ token ∈ classes.tokens, (!token.isEmpty) = true := by
    intro token htoken
    simpa using ne_empty_of_isName (h token htoken)
  unfold tokensOf write
  by_cases hnone : classes.tokens = []
  · rw [hnone]
    rfl
  · have hsplit : (" ".toList.intercalate (classes.tokens.map String.toList)).splitOn ' ' =
        classes.tokens.map String.toList :=
      List.splitOn_intercalate ' ' hspace (by simpa using hnone)
    rw [String.toList_intercalate, hsplit, List.map_map]
    simpa [Function.comp_def] using hfull

theorem write_eq_empty (h : classes.isEmpty = true) : classes.write = "" := by
  rw [write, List.isEmpty_iff.mp h]
  rfl

end ClassSet

end TagWeave
