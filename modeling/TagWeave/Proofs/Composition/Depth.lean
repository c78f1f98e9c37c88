import TagWeave.Proofs.Composition.Expansion

/-!
# Depth

Only the distance to the limit matters for a component, not the depth at which it stands: if both
are raised by the same number, then the component comes to the same tree (`Composer.Writes.deepen`)
or fails in the same place (`Composer.Fails.deepen`). The error about the limit, which names both,
is the only difference.
-/

namespace TagWeave

/-- The error of a composition some levels deeper. -/
def ComposeError.deepen (k : Nat) : ComposeError → ComposeError
  | recursionLimit depth max => recursionLimit (depth + k) (max + k)
  | e => e

namespace Composer
variable {composer : Composer} {k : Nat}

/-- The composer with a higher limit. -/
def deepen (k : Nat) (composer : Composer) : Composer :=
  { composer with
    settings := { composer.settings with maxDepth := composer.settings.maxDepth + k } }

mutual
theorem Writes.deepen {depth : Nat} {r r' : Registry} {p : Placement} {frame : Frame}
    {nodes : List Node} (h : composer.Writes depth r p frame nodes r') :
    (composer.deepen k).Writes (depth + k) r p frame nodes r' := by
  match h with
  | .void hdepth hframe hvoid => exact .void (Nat.add_lt_add_right hdepth k) hframe hvoid
  | .content hdepth hframe hcontent hbody hscan hnodes =>
    -- Raised from one level deeper is one level deeper than raised.
    have hinner := Expands.deepen hnodes
    rw [Nat.add_right_comm] at hinner
    exact .content (Nat.add_lt_add_right hdepth k) hframe hcontent hbody hscan hinner
termination_by structural h

theorem Expands.deepen {depth : Nat} {r r' : Registry} {root : Data} {tokens : List Token}
    {nodes : List Node} (h : composer.Expands depth r root tokens nodes r') :
    (composer.deepen k).Expands (depth + k) r root tokens nodes r' := by
  match h with
  | .nil => exact .nil
  | .literal hrest => exact .literal hrest.deepen
  | .unregistered hlookup hstrict hrest => exact .unregistered hlookup hstrict hrest.deepen
  | .component hlookup hmade hid hwrites hrest =>
    exact .component hlookup hmade hid hwrites.deepen hrest.deepen
termination_by structural h
end

mutual
theorem Fails.deepen {depth : Nat} {r r' : Registry} {p : Placement} {trail : Trail}
    {e : ComposeError} (h : composer.Fails depth r p trail e r') :
    (composer.deepen k).Fails (depth + k) r p trail (e.deepen k) r' := by
  match h with
  | .recursionLimit hlimit => exact .recursionLimit (Nat.add_le_add_right hlimit k)
  | .container hdepth htag hmerge =>
    exact .container (Nat.add_lt_add_right hdepth k) htag hmerge
  | .template hdepth hframe hcontent hbody =>
    exact .template (Nat.add_lt_add_right hdepth k) hframe hcontent hbody
  | .content hdepth hframe hcontent hbody hfails =>
    have hinner := FailsWithin.deepen hfails
    rw [Nat.add_right_comm] at hinner
    exact .content (Nat.add_lt_add_right hdepth k) hframe hcontent hbody hinner
termination_by structural h

theorem FailsWithin.deepen {depth : Nat} {r r' : Registry} {root : Data} {text : String}
    {before : List Node} {trail : Trail} {e : ComposeError}
    (h : composer.FailsWithin depth r root text before trail e r') :
    (composer.deepen k).FailsWithin (depth + k) r root text before trail (e.deepen k) r' := by
  match h with
  | .tagSyntax hscan hbefore => exact .tagSyntax hscan hbefore.deepen
  | .tag htokens hbefore hfails => exact .tag htokens hbefore.deepen (TagFails.deepen hfails)
termination_by structural h

theorem TagFails.deepen {depth : Nat} {r r' : Registry} {root : Data} {tag : Tag} {trail : Trail}
    {e : ComposeError} (h : composer.TagFails depth r root tag trail e r') :
    (composer.deepen k).TagFails (depth + k) r root tag trail (e.deepen k) r' := by
  match h with
  | .unregistered hlookup hstrict => exact .unregistered hlookup hstrict
  | .fieldBinding hlookup hmade => exact .fieldBinding hlookup hmade
  | .component hlookup hmade hid hfails => exact .component hlookup hmade hid (Fails.deepen hfails)
termination_by structural h
end

end Composer

end TagWeave
