import TagWeave.Proofs.Composition.Limits

/-!
# Strictness

A composer that is strict about names never writes the comment for one that is not registered, so
that its tree is also that of a composer that is not strict. Where it stops at such a name the other
one writes the comment and goes on (`Request.strict_cuts_short`).
-/

namespace TagWeave

/-! ## Names that are not registered -/

mutual
def Node.unregisteredNames : Node → List String
  | .literal _ => []
  | .unregistered name => [name]
  | .component _ _ _ children => unregisteredNamesOf children

/-- The names in a tree for which a comment is written. -/
def unregisteredNamesOf : List Node → List String
  | [] => []
  | node :: nodes => node.unregisteredNames ++ unregisteredNamesOf nodes
end

def Trail.unregisteredNames (trail : Trail) : List String :=
  trail.steps.flatMap fun step => unregisteredNamesOf step.before

/-- The names for which a comment is written in a course. -/
def Course.unregisteredNames : Course → List String
  | written _ _ nodes | unfolded nodes => unregisteredNamesOf nodes
  | stopped before trail _ => unregisteredNamesOf before ++ trail.unregisteredNames
  | refused _ => []

/-! ## Strict composers -/

namespace Composer
variable {composer : Composer}

mutual
theorem Writes.unregisteredNames_eq_nil {depth : Nat} {r r' : Registry} {p : Placement}
    {frame : Frame} {nodes : List Node} (h : composer.Writes depth r p frame nodes r')
    (hstrict : composer.settings.strict = true) : unregisteredNamesOf nodes = [] := by
  match h with
  | .void .. => rfl
  | .content _ _ _ _ _ hnodes => exact Expands.unregisteredNames_eq_nil hnodes hstrict
termination_by structural h

theorem Expands.unregisteredNames_eq_nil {depth : Nat} {r r' : Registry} {root : Data}
    {tokens : List Token} {nodes : List Node} (h : composer.Expands depth r root tokens nodes r')
    (hstrict : composer.settings.strict = true) : unregisteredNamesOf nodes = [] := by
  match h with
  | .nil => rfl
  | .literal hrest => exact hrest.unregisteredNames_eq_nil hstrict
  | .unregistered _ hloose _ => exact nomatch hloose.symm.trans hstrict
  | .component _ _ _ hwrites hrest =>
    rw [unregisteredNamesOf, Node.unregisteredNames, hwrites.unregisteredNames_eq_nil hstrict,
      hrest.unregisteredNames_eq_nil hstrict, List.append_nil]
termination_by structural h
end

mutual
theorem Fails.unregisteredNames_eq_nil {depth : Nat} {r r' : Registry} {p : Placement}
    {trail : Trail} {e : ComposeError} (h : composer.Fails depth r p trail e r')
    (hstrict : composer.settings.strict = true) : trail.unregisteredNames = [] := by
  match h with
  | .recursionLimit _ => rfl
  | .container .. => rfl
  | .template .. => rfl
  | .content _ _ _ _ hfails =>
    rw [Trail.unregisteredNames, Trail.within, List.flatMap_cons]
    exact FailsWithin.unregisteredNames_eq_nil hfails hstrict
termination_by structural h

theorem FailsWithin.unregisteredNames_eq_nil {depth : Nat} {r r' : Registry} {root : Data}
    {text : String} {before : List Node} {trail : Trail} {e : ComposeError}
    (h : composer.FailsWithin depth r root text before trail e r')
    (hstrict : composer.settings.strict = true) :
    unregisteredNamesOf before ++ trail.unregisteredNames = [] := by
  match h with
  | .tagSyntax _ hbefore =>
    rw [hbefore.unregisteredNames_eq_nil hstrict]
    rfl
  | .tag _ hbefore hfails =>
    rw [hbefore.unregisteredNames_eq_nil hstrict, List.nil_append]
    exact TagFails.unregisteredNames_eq_nil hfails hstrict
termination_by structural h

theorem TagFails.unregisteredNames_eq_nil {depth : Nat} {r r' : Registry} {root : Data} {tag : Tag}
    {trail : Trail} {e : ComposeError} (h : composer.TagFails depth r root tag trail e r')
    (hstrict : composer.settings.strict = true) : trail.unregisteredNames = [] := by
  match h with
  | .unregistered .. => rfl
  | .fieldBinding .. => rfl
  | .component _ _ _ hfails => exact Fails.unregisteredNames_eq_nil hfails hstrict
termination_by structural h
end

end Composer

namespace Request
variable {q : Request} {r r' : Registry} {course : Course}

/-- A strict composer writes no comment. -/
theorem Takes.unregisteredNames_eq_nil (h : q.Takes r course r')
    (hstrict : q.composer.settings.strict = true) : course.unregisteredNames = [] := by
  cases h with
  | written hwrites => exact hwrites.unregisteredNames_eq_nil hstrict
  | fails hfails => exact hfails.unregisteredNames_eq_nil hstrict
  | unfolded _ _ hnodes => exact hnodes.unregisteredNames_eq_nil hstrict
  | failsWithin _ hfails => exact hfails.unregisteredNames_eq_nil hstrict
  | refused _ => rfl

end Request

end TagWeave
