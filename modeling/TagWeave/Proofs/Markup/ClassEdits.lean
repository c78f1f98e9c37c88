import Mathlib.Data.List.Nodup
import TagWeave.Proofs.Markup.Classes

/-!
# Edits of classes

A set of classes is empty or comes from a text, and then it is edited (`ClassSet.Edit`,
`ClassSet.Reached`). Tokens that stay keep their order; new ones come behind them, in the order in
which they are seen first, or one of them takes the place of another token (`Edit.tokens_run`,
`Edit.common_run`). A replacement does what it promises unless a token is to replace itself
(`Replacing.replaced_iff`).
-/

namespace TagWeave.ClassSet

/-- A change of a set of classes. -/
inductive Edit
  | addTokens (tokens : List String)
  | union (other : ClassSet)
  | removeTokens (tokens : List String)
  | toggle (token : String)
  | replace (old new : String)
  deriving DecidableEq

namespace Edit

/-- What is wrong with an edit, if anything, and the set after it. -/
def run (classes : ClassSet) : Edit → Except AttributeError Unit × ClassSet
  | addTokens tokens => classes.addTokens tokens
  | union other => (.ok (), classes.union other)
  | removeTokens tokens => (.ok (), classes.removeTokens tokens)
  | toggle token => ((classes.toggle token).1.map fun _ => (), (classes.toggle token).2)
  | replace old new =>
    ((classes.replace old new).1.map fun _ => (), (classes.replace old new).2)

/-- The set whose tokens are added. -/
def other? : Edit → Option ClassSet
  | union other => some other
  | _ => none

/-- The tokens that are to be taken out. -/
def taken : Edit → List String
  | removeTokens tokens => tokens.map Text.trimmed
  | toggle token => [token]
  | replace old new => if isName (Text.trimmed new) then [old] else []
  | addTokens _ | union _ => []

/-- The names that are to stand behind the tokens of the set. -/
def offered (classes : ClassSet) : Edit → List String
  | addTokens tokens => leadingNames tokens
  | union other => other.tokens
  | toggle token => if token ∈ classes.tokens then [] else leadingNames [token]
  | removeTokens _ | replace _ _ => []

end Edit

/-- The set is empty or comes from a text, and has been edited since, with sets that were made in
the same way. -/
inductive Reached : ClassSet → Prop
  | empty : Reached .empty
  | parse (h : parse text = .ok classes) : Reached classes
  | edit (h : Reached classes) (edit : Edit) (hother : ∀ other ∈ edit.other?, Reached other) :
    Reached (edit.run classes).2

/-- How the replacement of a token by a name goes. -/
inductive Replacing (classes : ClassSet) (old name : String) :
    Except AttributeError Bool × ClassSet → Prop
  | refused : isName name = false →
    Replacing classes old name (.error (.invalidClass name), classes)
  | absent : isName name = true → old ∉ classes.tokens →
    Replacing classes old name (.ok false, classes)
  /-- The name is there already, and the old token is taken out. -/
  | dropped : isName name = true → name ∈ classes.tokens →
    classes.tokens = front ++ old :: back → after.tokens = front ++ back →
    Replacing classes old name (.ok true, after)
  | placed : isName name = true → name ∉ classes.tokens →
    classes.tokens = front ++ old :: back → after.tokens = front ++ name :: back →
    Replacing classes old name (.ok true, after)

/-- What the replacement of a token by a name promises. -/
structure Replaced (old name : String) (classes after : ClassSet) : Prop where
  once : after.tokens.count name = 1
  gone : old ∈ after.tokens → old = name
  others : after.tokens.filter (fun token => token ≠ old ∧ token ≠ name) =
    classes.tokens.filter (fun token => token ≠ old ∧ token ≠ name)
  place : name ∉ classes.tokens → ∃ front back,
    classes.tokens = front ++ old :: back ∧ after.tokens = front ++ name :: back

variable {classes other after : ClassSet} {token old new name text : String}
  {tokens names taken front back : List String}

theorem eq_of_tokens (h : classes.tokens = other.tokens) : classes = other := by
  cases classes
  cases other
  cases h
  rfl

/-! ## Tokens that are added -/

/-- What tokens add to a set: those that are not in it, each at its first occurrence. -/
def fresh (classes : ClassSet) (tokens : List String) : List String :=
  (tokens.removeAll classes.tokens).eraseDups

theorem mem_fresh : token ∈ classes.fresh tokens ↔ token ∈ tokens ∧ token ∉ classes.tokens := by
  simp [fresh, List.mem_eraseDups, List.removeAll]

theorem tokens_foldl_fresh :
    (tokens.foldl insert classes).tokens = classes.tokens ++ classes.fresh tokens := by
  rw [tokens_foldl_insert, List.eraseDups_append, eraseDups_of_nodup classes.nodup, fresh]

theorem tokens_addTokens :
    (classes.addTokens tokens).2.tokens =
      classes.tokens ++ classes.fresh (leadingNames tokens) := by
  rw [addTokens_eq, tokens_foldl_fresh]

/-- The first token that is no name is the error, and only what stands before it is added. -/
theorem addTokens_error {e : AttributeError} (h : (classes.addTokens tokens).1 = .error e) :
    ∃ valid token rest, tokens = valid ++ token :: rest ∧
      (∀ each ∈ valid, isName (Text.trimmed each) = true) ∧ isName (Text.trimmed token) = false ∧
      e = .invalidClass (Text.trimmed token) ∧ (classes.addTokens tokens).2.tokens =
        classes.tokens ++ classes.fresh (valid.map Text.trimmed) := by
  rw [addTokens_eq] at h
  dsimp only at h
  split at h
  · cases h
  rename_i bad hbad
  cases h
  obtain ⟨hname, front, back, hsplit, hfront⟩ := List.find?_eq_some_iff_append.mp hbad
  obtain ⟨valid, behind, rfl, rfl, hbehind⟩ := List.map_eq_append_iff.mp hsplit
  obtain ⟨token, rest, rfl, rfl, -⟩ := List.map_eq_cons_iff.mp hbehind
  have hvalid : ∀ name ∈ valid.map Text.trimmed, isName name = true := fun name hmem => by
    simpa using hfront name hmem
  have hname : isName (Text.trimmed token) = false := by simpa using hname
  have hleading : leadingNames (valid ++ token :: rest) = valid.map Text.trimmed := by
    rw [leadingNames, hsplit, List.takeWhile_append_of_pos hvalid, List.takeWhile_cons_of_neg,
      List.append_nil]
    exact Bool.eq_false_iff.mp hname
  refine ⟨valid, token, rest, rfl, List.forall_mem_map.mp hvalid, hname, rfl, ?_⟩
  rw [tokens_addTokens, hleading]

/-! ## Tokens that are taken out -/

theorem removeAll_of_not_mem (h : token ∉ tokens) : tokens.removeAll [token] = tokens := by
  refine List.filter_eq_self.mpr fun other hother => ?_
  simpa using fun heq : other = token => h (heq ▸ hother)

theorem tokens_erase : (classes.erase token).tokens = classes.tokens.removeAll [token] := by
  show classes.tokens.erase token = _
  rw [classes.nodup.erase_eq_filter, List.removeAll_cons, List.removeAll_nil]
  rfl

theorem tokens_removeTokens :
    (classes.removeTokens tokens).tokens = classes.tokens.removeAll (tokens.map Text.trimmed) := by
  unfold removeTokens
  induction tokens generalizing classes with
  | nil => exact List.removeAll_nil.symm
  | cons token tokens ih =>
    rw [List.foldl_cons, ih, tokens_erase, List.map_cons, List.removeAll_cons, List.removeAll_cons,
      List.removeAll_nil]

/-! ## Tokens in the place of others -/

theorem mem_place : token ∈ front ++ name :: back ↔ token = name ∨ token ∈ front ++ back := by
  rw [List.mem_append, List.mem_cons, List.mem_append]
  exact or_left_comm

/-- A token stands in one place only. -/
theorem not_mem_around (h : classes.tokens = front ++ old :: back) : old ∉ front ++ back := by
  have hnodup : (front ++ old :: back).Nodup := h ▸ classes.nodup
  exact (List.nodup_cons.mp (List.nodup_middle.mp hnodup)).1

theorem tokens_erase_place (h : classes.tokens = front ++ old :: back) :
    (classes.erase old).tokens = front ++ back := by
  have hfront : old ∉ front := mt (List.mem_append_left back) (not_mem_around h)
  show classes.tokens.erase old = _
  rw [h, List.erase_append_right _ hfront, List.erase_cons_head]

/-- A token is found at its place. -/
theorem idxOf?_place (h : classes.tokens = front ++ old :: back) :
    classes.tokens.idxOf? old = some front.length := by
  have hfront : old ∉ front := mt (List.mem_append_left back) (not_mem_around h)
  have hnone : front.findIdx? (· == old) = none := List.idxOf?_eq_none_iff.mpr hfront
  rw [h, List.idxOf?, List.findIdx?_append, hnone, Option.none_or, List.findIdx?_cons,
    if_pos (beq_self_eq_true old), Option.map_some, Nat.zero_add]

theorem tokens_eraseAt_place (h : classes.tokens = front ++ token :: back) :
    (classes.eraseAt front.length).tokens = front ++ back := by
  show classes.tokens.eraseIdx front.length = _
  rw [h, List.eraseIdx_append_of_length_le (Nat.le_refl _), Nat.sub_self, List.eraseIdx_cons_zero]

/-- The last token is moved to a place, and all that stood from there on stands behind it. -/
theorem tokens_move_last (h : classes.tokens = front ++ back ++ [token]) :
    (classes.move (classes.size - 1) front.length).tokens = front ++ token :: back := by
  have hlast : classes.size - 1 = (front ++ back).length := by
    rw [size, h, List.length_append, List.length_singleton, Nat.add_sub_cancel]
  have hsource : (front ++ back).length < classes.tokens.length := by simp [h]
  have htarget : front.length < classes.tokens.length := by
    rw [List.length_append] at hsource
    omega
  have hkept : classes.tokens.eraseIdx (front ++ back).length = front ++ back := by
    rw [h, List.eraseIdx_append_of_length_le (Nat.le_refl _), Nat.sub_self, List.eraseIdx_cons_zero,
      List.append_nil]
  have htoken : classes.tokens[(front ++ back).length] = token := by
    simp only [h, List.getElem_concat_length]
  rw [hlast, move, dif_pos ⟨hsource, htarget⟩]
  show (classes.tokens.eraseIdx _).insertIdx _ _ = _
  rw [hkept, htoken]
  exact List.modifyTailIdx_add (List.cons token) 0 front back

/-- A new token that is added, moved to the place of another, and then rid of it, stands in its
place. -/
theorem tokens_replace_place (h : classes.tokens = front ++ old :: back)
    (hnew : new ∉ classes.tokens) :
    (((classes.insert new).move ((classes.insert new).size - 1) front.length).eraseAt
      (front.length + 1)).tokens = front ++ new :: back := by
  have hadded : (classes.insert new).tokens = front ++ old :: back ++ [new] := by
    rw [insert, dif_neg hnew, ← h]
  have hmoved := tokens_move_last hadded
  have hlength : front.length + 1 = (front ++ [new]).length := by
    rw [List.length_append, List.length_singleton]
  rw [hlength, tokens_eraseAt_place (hmoved.trans (List.append_cons ..)), ← List.append_cons]

theorem replacing (classes : ClassSet) (old new : String) :
    Replacing classes old (Text.trimmed new) (classes.replace old new) := by
  unfold replace
  dsimp only
  cases hname : isName (Text.trimmed new) with
  | false => exact .refused hname
  | true =>
    rw [Bool.not_true, if_neg Bool.false_ne_true]
    by_cases hold : old ∈ classes.tokens
    · obtain ⟨front, back, hsplit⟩ := List.append_of_mem hold
      rw [idxOf?_place hsplit]
      dsimp only
      split
      · rename_i hnew
        exact .dropped hname (List.contains_iff_mem.mp hnew) hsplit (tokens_eraseAt_place hsplit)
      · rename_i hnew
        have hnew := mt List.contains_iff_mem.mpr hnew
        exact .placed hname hnew hsplit (tokens_replace_place hsplit hnew)
    · rw [List.idxOf?_eq_none_iff.mpr hold]
      exact .absent hname hold

theorem Replacing.replaced_iff (h : Replacing classes old name (.ok true, after)) :
    Replaced old name classes after ↔ old ≠ name := by
  have honce (hmem : name ∈ after.tokens) : after.tokens.count name = 1 :=
    List.count_eq_one_of_mem after.nodup hmem
  cases h with
  | dropped hname hnew hsplit hafter =>
    have hout := not_mem_around hsplit
    constructor
    · -- A token that replaces itself is taken out of its only place.
      rintro hreplaced rfl
      have hcount := hreplaced.once
      rw [hafter, List.count_eq_zero.mpr hout] at hcount
      cases hcount
    · intro hne
      have hmem : name ∈ after.tokens :=
        hafter ▸ (mem_place.mp (hsplit ▸ hnew)).resolve_left hne.symm
      refine ⟨honce hmem, fun hold => absurd (hafter ▸ hold) hout, ?_, fun h => absurd hnew h⟩
      simp [hsplit, hafter]
  | placed hname hnew hsplit hafter =>
    have hout := not_mem_around hsplit
    refine iff_of_true ⟨honce ?_, fun hold => ?_, ?_, fun _ => ⟨_, _, hsplit, hafter⟩⟩ ?_
    · exact hafter ▸ mem_place.mpr (.inl rfl)
    · exact (mem_place.mp (hafter ▸ hold)).resolve_right hout
    · simp [hsplit, hafter]
    · rintro rfl
      exact hnew (hsplit ▸ mem_place.mpr (.inl rfl))

theorem Replacing.eq_erase (h : Replacing classes old name (.ok true, after))
    (hsame : old = name) : after = classes.erase old := by
  cases h with
  | dropped _ _ hsplit hafter =>
    exact eq_of_tokens (hafter.trans (tokens_erase_place hsplit).symm)
  | placed _ hnew hsplit => exact absurd (hsame ▸ hsplit ▸ List.mem_append_cons_self) hnew

theorem replace_eq_error_iff {e : AttributeError} : (classes.replace old new).1 = .error e ↔
    isName (Text.trimmed new) = false ∧ e = .invalidClass (Text.trimmed new) := by
  have hgoes := replacing classes old new
  generalize classes.replace old new = outcome at hgoes
  cases hgoes with
  | refused hname => simp [hname, eq_comm]
  | absent hname | dropped hname | placed hname => simp [hname]

theorem replace_eq_false_iff : (classes.replace old new).1 = .ok false ↔
    isName (Text.trimmed new) = true ∧ old ∉ classes.tokens := by
  have hgoes := replacing classes old new
  generalize classes.replace old new = outcome at hgoes
  cases hgoes with
  | refused hname => simp [hname]
  | absent hname hold => simp [hname, hold]
  | dropped _ _ hsplit | placed _ _ hsplit => simp [hsplit]

theorem replace_eq_true_iff : (classes.replace old new).1 = .ok true ↔
    isName (Text.trimmed new) = true ∧ old ∈ classes.tokens := by
  have hgoes := replacing classes old new
  generalize classes.replace old new = outcome at hgoes
  cases hgoes with
  | refused hname => simp [hname]
  | absent hname hold => simp [hold]
  | dropped hname _ hsplit | placed hname _ hsplit => simp [hname, hsplit]

/-- Where nothing is replaced, nothing changes. -/
theorem replace_eq_self (h : (classes.replace old new).1 ≠ .ok true) :
    (classes.replace old new).2 = classes := by
  have hgoes := replacing classes old new
  generalize classes.replace old new = outcome at hgoes h
  cases hgoes with
  | refused | absent => rfl
  | dropped | placed => exact absurd rfl h

/-- **A token is replaced by a name**, if there is the token and the name is one. Then the name is
there once, the token is not, and all others stay as they are, the name in the place of the token if
it is new. It is otherwise only if a token is to replace itself: it is taken out. -/
theorem replaced_unless_itself (classes : ClassSet) (old new : String) :
    let name := Text.trimmed new
    let outcome := (classes.replace old new).1
    let after := (classes.replace old new).2
    (∀ e, outcome = .error e ↔ isName name = false ∧ e = .invalidClass name) ∧
    (outcome = .ok false ↔ isName name = true ∧ old ∉ classes.tokens) ∧
    (outcome = .ok true ↔ isName name = true ∧ old ∈ classes.tokens) ∧
    (outcome = .ok true →
      (Replaced old name classes after ↔ old ≠ name) ∧ (old = name → after = classes.erase old)) ∧
    (outcome ≠ .ok true → after = classes) := by
  intro name outcome after
  refine ⟨fun _ => replace_eq_error_iff, replace_eq_false_iff, replace_eq_true_iff,
    fun hreplaced => ?_, replace_eq_self⟩
  have hresult : classes.replace old new = (.ok true, after) := Prod.ext hreplaced rfl
  have hgoes := replacing classes old new
  rw [hresult] at hgoes
  exact ⟨hgoes.replaced_iff, hgoes.eq_erase⟩

/-- A class in the middle is replaced. -/
theorem replaced_unless_itself_middle : ∃ classes after, parse "a b c" = .ok classes ∧
    classes.replace "b" " x\n" = (.ok true, after) ∧ after.tokens = ["a", "x", "c"] ∧
    Replaced "b" "x" classes after := by
  let classes : ClassSet := ⟨["a", "b", "c"], by decide⟩
  let after : ClassSet := ⟨["a", "x", "c"], by decide⟩
  have hparse : parse "a b c" = .ok classes := by decide +kernel
  have hreplace : classes.replace "b" " x\n" = (.ok true, after) := by decide +kernel
  have hname : Text.trimmed " x\n" = "x" := by decide +kernel
  obtain ⟨-, -, -, hreplaced, -⟩ := replaced_unless_itself classes "b" " x\n"
  rw [hname, hreplace] at hreplaced
  exact ⟨classes, after, hparse, hreplace, rfl, (hreplaced rfl).1.mpr (by decide)⟩

/-- A class that is to replace itself is gone, although it was found and is a name. -/
theorem lost_by_replacing_itself : ∃ classes after, parse "a b" = .ok classes ∧
    classes.replace "a" "a" = (.ok true, after) ∧ after.tokens = ["b"] ∧
    ¬ Replaced "a" "a" classes after := by
  refine ⟨⟨["a", "b"], by decide⟩, ⟨["b"], by decide⟩, by decide +kernel, by decide +kernel, rfl,
    fun hreplaced => ?_⟩
  have hcount := hreplaced.once
  exact absurd hcount (by decide)

/-! ## Tokens that stay -/

/-- The tokens that are in another set too, in their order. -/
def common (classes other : ClassSet) : List String := classes.tokens.filter (other.contains ·)

section
variable (h : after.tokens = classes.tokens.removeAll taken ++ classes.fresh names)
include h

theorem common_of_removeAll : classes.common after = classes.tokens.removeAll taken := by
  refine List.filter_congr fun token htoken => ?_
  have hfresh : token ∉ classes.fresh names := fun hmem => (mem_fresh.mp hmem).2 htoken
  rw [Bool.eq_iff_iff, contains, List.contains_iff_mem, h, List.mem_append, or_iff_left hfresh,
    List.removeAll, List.mem_filter, and_iff_right htoken]

theorem common_comm_of_removeAll : classes.common after = after.common classes := by
  have hfresh : (classes.fresh names).filter (classes.contains ·) = [] :=
    List.filter_eq_nil_iff.mpr fun token hmem => by
      simpa [contains] using (mem_fresh.mp hmem).2
  have hstay : (classes.tokens.removeAll taken).filter (classes.contains ·) =
      classes.tokens.removeAll taken :=
    List.filter_eq_self.mpr fun token hmem => by
      simpa [contains] using List.mem_of_mem_filter hmem
  rw [common_of_removeAll h, common, h, List.filter_append, hfresh, hstay, List.append_nil]

end

theorem common_of_place (h : classes.tokens = front ++ old :: back) (hold : old ∉ other.tokens)
    (hothers : ∀ token ∈ front ++ back, token ∈ other.tokens) :
    classes.common other = front ++ back := by
  have hgone : ¬ other.contains old = true := mt List.contains_iff_mem.mp hold
  have hstay : ∀ token ∈ front ++ back, other.contains token = true := fun token hmem =>
    List.contains_iff_mem.mpr (hothers token hmem)
  rw [common, h, List.filter_append, List.filter_cons_of_neg hgone, ← List.filter_append,
    List.filter_eq_self.mpr hstay]

theorem common_comm_of_place (hnew : name ∉ classes.tokens)
    (hsplit : classes.tokens = front ++ old :: back)
    (hafter : after.tokens = front ++ name :: back) :
    classes.common after = after.common classes := by
  have hold : old ∉ after.tokens := by
    rw [hafter, mem_place]
    rintro (rfl | hmem)
    · exact hnew (hsplit ▸ mem_place.mpr (.inl rfl))
    · exact not_mem_around hsplit hmem
  have hbefore : classes.common after = front ++ back :=
    common_of_place hsplit hold fun _ hmem => hafter ▸ mem_place.mpr (.inr hmem)
  have hbehind : after.common classes = front ++ back :=
    common_of_place hafter hnew fun _ hmem => hsplit ▸ mem_place.mpr (.inr hmem)
  rw [hbefore, hbehind]

/-! ## Edits -/

theorem tokens_toggle : (classes.toggle token).2.tokens =
    if token ∈ classes.tokens then classes.tokens.removeAll [token]
    else classes.tokens ++ classes.fresh (leadingNames [token]) := by
  unfold toggle
  split
  · rename_i hmem
    rw [if_pos (List.contains_iff_mem.mp hmem), tokens_erase]
  · rename_i hout
    rw [if_neg (mt List.contains_iff_mem.mpr hout), ← tokens_addTokens]
    split <;> simp [*]

namespace Edit

/-- New names come behind the tokens that stay, or one of them is in the place of another token. -/
theorem tokens_run (edit : Edit) (classes : ClassSet) :
    (edit.run classes).2.tokens =
      classes.tokens.removeAll edit.taken ++ classes.fresh (edit.offered classes) ∨
    ∃ old new front back, edit = .replace old new ∧ isName (Text.trimmed new) = true ∧
      Text.trimmed new ∉ classes.tokens ∧ classes.tokens = front ++ old :: back ∧
      (edit.run classes).2.tokens = front ++ Text.trimmed new :: back := by
  have hnone (kept : List String) : kept = kept ++ classes.fresh [] := (List.append_nil kept).symm
  cases edit with
  | addTokens tokens =>
    left
    rw [taken, List.removeAll_nil]
    exact tokens_addTokens
  | union other =>
    left
    rw [taken, List.removeAll_nil]
    exact tokens_foldl_fresh
  | removeTokens tokens => exact .inl (tokens_removeTokens.trans (hnone _))
  | toggle token =>
    left
    rw [run, offered, taken, tokens_toggle]
    split
    · exact hnone _
    · rename_i hout
      rw [removeAll_of_not_mem hout]
  | replace old new =>
    have hgoes := replacing classes old new
    rw [run, offered, taken, ← hnone]
    generalize classes.replace old new = outcome at hgoes
    cases hgoes with
    | refused hname =>
      left
      rw [hname, if_neg Bool.false_ne_true, List.removeAll_nil]
    | absent hname hold =>
      left
      rw [if_pos hname, removeAll_of_not_mem hold]
    | dropped hname _ hsplit hafter =>
      left
      rw [if_pos hname, ← tokens_erase, tokens_erase_place hsplit]
      exact hafter
    | placed hname hnew hsplit hafter =>
      exact .inr ⟨old, new, _, _, rfl, hname, hnew, hsplit, hafter⟩

/-- Tokens that stay keep their order. -/
theorem common_run (edit : Edit) (classes : ClassSet) :
    classes.common (edit.run classes).2 = (edit.run classes).2.common classes := by
  rcases edit.tokens_run classes with htokens | ⟨_, _, _, _, -, -, hnew, hsplit, htokens⟩
  · exact common_comm_of_removeAll htokens
  · exact common_comm_of_place hnew hsplit htokens

theorem isTrimmedName_of_mem_offered {edit : Edit} (h : token ∈ edit.offered classes)
    (hother : ∀ other ∈ edit.other?, ∀ token ∈ other.tokens, IsTrimmedName token) :
    IsTrimmedName token := by
  cases edit with
  | addTokens tokens => exact isTrimmedName_of_mem_leadingNames h
  | union other => exact hother other rfl token h
  | toggle token =>
    rw [offered] at h
    split at h
    · cases h
    · exact isTrimmedName_of_mem_leadingNames h
  | removeTokens tokens => cases h
  | replace old new => cases h

end Edit

theorem isTrimmedName_of_mem_parse (h : parse text = .ok classes) :
    ∀ token ∈ classes.tokens, IsTrimmedName token := by
  intro token htoken
  rw [eq_of_addWords h, tokens_addTokens] at htoken
  have htoken : token ∈ leadingNames _ := (mem_fresh.mp htoken).1
  exact isTrimmedName_of_mem_leadingNames htoken

theorem Reached.isTrimmedName (h : Reached classes) :
    ∀ token ∈ classes.tokens, IsTrimmedName token := by
  induction h with
  | empty => exact List.forall_mem_nil _
  | parse h => exact isTrimmedName_of_mem_parse h
  | @edit classes _ edit _ ih ihother =>
    -- A token stays, comes behind the others or takes a place; only the last two are new.
    intro token htoken
    rcases edit.tokens_run classes with
      htokens | ⟨old, new, front, back, -, hname, -, hsplit, htokens⟩
    · rw [htokens, List.mem_append] at htoken
      rcases htoken with hstays | hfresh
      · exact ih token (List.mem_of_mem_filter hstays)
      · exact Edit.isTrimmedName_of_mem_offered (mem_fresh.mp hfresh).1 ihother
    · rw [htokens, mem_place] at htoken
      rcases htoken with rfl | hstays
      · exact isTrimmedName_trimmed hname
      · exact ih token (hsplit ▸ mem_place.mpr (.inr hstays))

/-- **Classes are distinct names in a lasting order.** However a set has come about, its tokens are
distinct names without blanks at their ends, and an edit keeps the order of the tokens that stay.
What it adds stands behind them in the order in which it is seen first, or in the place of a token
that it replaces. If tokens that are to be added hold one that is no name, exactly those before the
first such token are added. -/
theorem edits_keep_order (h : Reached classes) (edit : Edit) :
    let after := (edit.run classes).2
    classes.tokens.Nodup ∧ (∀ token ∈ classes.tokens, IsTrimmedName token) ∧
    classes.common after = after.common classes ∧
    (after.tokens = classes.tokens.removeAll edit.taken ++ classes.fresh (edit.offered classes) ∨
      ∃ old new front back, edit = .replace old new ∧ isName (Text.trimmed new) = true ∧
        Text.trimmed new ∉ classes.tokens ∧ classes.tokens = front ++ old :: back ∧
        after.tokens = front ++ Text.trimmed new :: back) ∧
    ∀ tokens e, edit = .addTokens tokens → (edit.run classes).1 = .error e →
      ∃ valid token rest, tokens = valid ++ token :: rest ∧
        (∀ each ∈ valid, isName (Text.trimmed each) = true) ∧
        isName (Text.trimmed token) = false ∧ e = .invalidClass (Text.trimmed token) ∧
        after.tokens = classes.tokens ++ classes.fresh (valid.map Text.trimmed) := by
  refine ⟨classes.nodup, h.isTrimmedName, edit.common_run classes, edit.tokens_run classes, ?_⟩
  rintro tokens e rfl herror
  exact addTokens_error herror

/-- Tokens are added to those of a text, up to one that is no name. -/
theorem edits_keep_order_failing : ∃ classes, parse "b a" = .ok classes ∧ Reached classes ∧
    let edit : Edit := .addTokens ["a", "c ", "d", "c", "1x", "e"]
    (edit.run classes).1 = .error (.invalidClass "1x") ∧
      (edit.run classes).2.tokens = ["b", "a"] ++ ["c", "d"] := by
  let classes : ClassSet := ⟨["b", "a"], by decide⟩
  have hparse : parse "b a" = .ok classes := by decide +kernel
  have hreached : Reached classes := .parse hparse
  refine ⟨classes, hparse, hreached, ?_⟩
  intro edit
  have hfresh : classes.fresh (edit.offered classes) = ["c", "d"] := by decide +kernel
  obtain ⟨-, -, -, htokens, -⟩ := edits_keep_order hreached edit
  refine ⟨by decide +kernel, ?_⟩
  rcases htokens with htokens | ⟨old, new, _, _, hreplace, -⟩
  · rw [htokens, hfresh]
    rfl
  · exact Edit.noConfusion hreplace

end TagWeave.ClassSet
