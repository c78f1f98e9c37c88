import TagWeave.Proofs.Composition.Courses

/-!
# Nesting

An output has marks where a component is opened and where it is closed (`Course.marks`), so that one
can count how many components are open around each one (`levels`). This number stays below the limit
for the depth (`Request.Takes.staysBelow`), and an error about the limit names the limit itself
(`Request.Takes.recursionLimit_eq`).
-/

namespace TagWeave

/-! ## Marks in an output -/

/-- A piece of an output. A component without an element has marks, too, with no text. -/
inductive Mark
  | plain (text : String)
  | opening (frame : Frame)
  | closing (frame : Frame)

def Mark.text : Mark → String
  | plain text => text
  | opening frame => frame.opening
  | closing frame => frame.closing

def markedText (marks : List Mark) : String := String.join (marks.map Mark.text)

/-- The marks of a component around those of its content. -/
def Frame.around (frame : Frame) (marks : List Mark) : List Mark :=
  .opening frame :: (marks ++ [.closing frame])

mutual
def Node.marks : Node → List Mark
  | .literal text => [.plain text]
  | .unregistered name => [.plain (unregisteredComment name)]
  | .component _ _ frame children => frame.around (marksOf children)

def marksOf : List Node → List Mark
  | [] => []
  | node :: nodes => node.marks ++ marksOf nodes
end

namespace Trail

/-- A component on the way is left open. -/
def Step.marks (step : Step) : List Mark := .opening step.frame :: marksOf step.before

def endMarks : Option (Placement × Frame) → List Mark
  | none => []
  | some (_, frame) => frame.around [.plain templateErrorMarker]

def marks (trail : Trail) : List Mark :=
  trail.steps.flatMap Step.marks ++ endMarks trail.failedTemplate?

end Trail

def Course.marks : Course → List Mark
  | written _ frame nodes => frame.around (marksOf nodes)
  | unfolded nodes => marksOf nodes
  | stopped before trail _ => marksOf before ++ trail.marks
  | refused _ => [.plain templateErrorMarker]

section
variable {marks more : List Mark} {mark : Mark} {frame : Frame} {step : Trail.Step} {trail : Trail}
  {course : Course}

theorem markedText_cons : markedText (mark :: marks) = mark.text ++ markedText marks := by
  rw [markedText, markedText, List.map_cons, String.join_cons]

theorem markedText_append : markedText (marks ++ more) = markedText marks ++ markedText more := by
  rw [markedText, markedText, markedText, List.map_append, String.join_append]

theorem markedText_around :
    markedText (frame.around marks) = frame.opening ++ markedText marks ++ frame.closing := by
  rw [Frame.around, markedText_cons, markedText_append, markedText_cons, String.append_assoc]
  exact congrArg (_ ++ ·) (congrArg (_ ++ ·) String.append_empty)

mutual
theorem Node.markedText_marks (node : Node) : markedText node.marks = node.html := by
  match node with
  | .literal text => exact String.empty_append
  | .unregistered name => exact String.empty_append
  | .component _ _ frame children =>
    rw [Node.marks, Node.html, markedText_around, markedText_marksOf children]

theorem markedText_marksOf (nodes : List Node) : markedText (marksOf nodes) = htmlOf nodes := by
  match nodes with
  | [] => rfl
  | node :: nodes =>
    rw [marksOf, htmlOf, markedText_append, node.markedText_marks, markedText_marksOf nodes]
end

theorem Trail.marks_within : (within step trail).marks = step.marks ++ trail.marks := by
  rw [marks, marks, within, List.flatMap_cons, List.append_assoc]

theorem Trail.markedText_endMarks (failed? : Option (Placement × Frame)) :
    markedText (endMarks failed?) = endHtml failed? := by
  cases failed? with
  | none => rfl
  | some failed => exact markedText_around

theorem Trail.markedText_marks (trail : Trail) : markedText trail.marks = trail.html := by
  obtain ⟨steps, failed?⟩ := trail
  induction steps with
  | nil =>
    rw [marks, html, List.flatMap_nil, List.nil_append, markedText_endMarks]
    exact String.empty_append.symm
  | cons step steps ih =>
    show markedText (within step ⟨steps, failed?⟩).marks = (within step ⟨steps, failed?⟩).html
    rw [marks_within, html_within, markedText_append, ih, Step.marks, Step.html, markedText_cons,
      markedText_marksOf]
    rfl

/-- The marks of a course are the pieces of its output. -/
theorem Course.markedText_marks : markedText course.marks = course.output := by
  cases course with
  | written _ frame nodes => rw [marks, output, markedText_around, markedText_marksOf]
  | unfolded nodes => exact markedText_marksOf nodes
  | stopped before trail _ =>
    rw [marks, output, markedText_append, markedText_marksOf, trail.markedText_marks]
  | refused _ => exact String.empty_append

end

/-! ## Levels -/

/-- For each component that is opened, how many are open around it. -/
def levels : Nat → List Mark → List Nat
  | _, [] => []
  | n, .plain _ :: marks => levels n marks
  | n, .opening _ :: marks => n :: levels (n + 1) marks
  | n, .closing _ :: marks => levels (n - 1) marks

/-- Every component is opened below a limit, if `n` are open in front and `k` levels are above. -/
def StaysBelow (limit k n : Nat) (marks : List Mark) : Prop :=
  ∀ level ∈ levels n marks, level + k < limit

namespace StaysBelow
variable {limit k n : Nat} {marks : List Mark} {text : String} {frame : Frame}

theorem nil : StaysBelow limit k n [] := List.forall_mem_nil _

theorem plain (h : StaysBelow limit k n marks) : StaysBelow limit k n (.plain text :: marks) := h

theorem opening (hn : n + k < limit) (h : StaysBelow limit k (n + 1) marks) :
    StaysBelow limit k n (.opening frame :: marks) := List.forall_mem_cons.mpr ⟨hn, h⟩

theorem closing (h : StaysBelow limit k n marks) :
    StaysBelow limit k (n + 1) (.closing frame :: marks) := h

end StaysBelow

namespace Composer
variable {composer : Composer} {k : Nat}

/-! A tree closes all that it opens, so that what follows it stands at the level of the tree. -/

mutual
theorem Writes.staysBelow {depth n : Nat} {more : List Mark} {r r' : Registry} {p : Placement}
    {frame : Frame} {nodes : List Node} (h : composer.Writes depth r p frame nodes r')
    (hdepth : depth = n + k)
    (hmore : StaysBelow composer.settings.maxDepth k n more) :
    StaysBelow composer.settings.maxDepth k n (frame.around (marksOf nodes) ++ more) := by
  rw [Frame.around, List.cons_append, List.append_assoc]
  match h with
  | .void hlimit .. => exact .opening (hdepth ▸ hlimit) hmore.closing
  | .content hlimit _ _ _ _ hnodes =>
    refine .opening (hdepth ▸ hlimit) (Expands.staysBelow hnodes ?_ hmore.closing)
    rw [hdepth, Nat.add_right_comm]
termination_by structural h

theorem Expands.staysBelow {depth n : Nat} {more : List Mark} {r r' : Registry} {root : Data}
    {tokens : List Token} {nodes : List Node}
    (h : composer.Expands depth r root tokens nodes r') (hdepth : depth = n + k)
    (hmore : StaysBelow composer.settings.maxDepth k n more) :
    StaysBelow composer.settings.maxDepth k n (marksOf nodes ++ more) := by
  match h with
  | .nil => exact hmore
  | .literal hrest => exact (hrest.staysBelow hdepth hmore).plain
  | .unregistered _ _ hrest => exact (hrest.staysBelow hdepth hmore).plain
  | .component _ _ _ hwrites hrest =>
    rw [marksOf, Node.marks, List.append_assoc]
    exact hwrites.staysBelow hdepth (hrest.staysBelow hdepth hmore)
termination_by structural h
end

mutual
theorem Fails.staysBelow {depth n : Nat} {r r' : Registry} {p : Placement} {trail : Trail}
    {e : ComposeError} (h : composer.Fails depth r p trail e r') (hdepth : depth = n + k) :
    StaysBelow composer.settings.maxDepth k n trail.marks := by
  match h with
  | .recursionLimit _ => exact .nil
  | .container .. => exact .nil
  | .template hlimit .. => exact .opening (hdepth ▸ hlimit) (.plain (.closing .nil))
  | .content hlimit _ _ _ hfails =>
    rw [Trail.marks_within, Trail.Step.marks, List.cons_append]
    refine .opening (hdepth ▸ hlimit) (FailsWithin.staysBelow hfails ?_)
    rw [hdepth, Nat.add_right_comm]
termination_by structural h

theorem FailsWithin.staysBelow {depth n : Nat} {r r' : Registry} {root : Data} {text : String}
    {before : List Node} {trail : Trail} {e : ComposeError}
    (h : composer.FailsWithin depth r root text before trail e r') (hdepth : depth = n + k) :
    StaysBelow composer.settings.maxDepth k n (marksOf before ++ trail.marks) := by
  match h with
  | .tagSyntax _ hbefore => exact hbefore.staysBelow hdepth .nil
  | .tag _ hbefore hfails => exact hbefore.staysBelow hdepth (TagFails.staysBelow hfails hdepth)
termination_by structural h

theorem TagFails.staysBelow {depth n : Nat} {r r' : Registry} {root : Data} {tag : Tag}
    {trail : Trail} {e : ComposeError} (h : composer.TagFails depth r root tag trail e r')
    (hdepth : depth = n + k) :
    StaysBelow composer.settings.maxDepth k n trail.marks := by
  match h with
  | .unregistered .. => exact .nil
  | .fieldBinding .. => exact .nil
  | .component _ _ _ hfails => exact Fails.staysBelow hfails hdepth
termination_by structural h
end

/-! ## The error about the limit -/

mutual
theorem Fails.recursionLimit_eq {depth : Nat} {r r' : Registry} {p : Placement} {trail : Trail}
    {e : ComposeError} {stopped limit : Nat} (h : composer.Fails depth r p trail e r')
    (he : e = .recursionLimit stopped limit) :
    limit = composer.settings.maxDepth ∧ stopped = max depth composer.settings.maxDepth := by
  match h with
  | .recursionLimit hlimit =>
    cases he
    exact ⟨rfl, (Nat.max_eq_left hlimit).symm⟩
  | .container .. => cases he
  | .template .. => cases he
  | .content hlimit _ _ _ hfails =>
    have hinner := FailsWithin.recursionLimit_eq hfails he
    rw [Nat.max_eq_right hlimit] at hinner
    rw [Nat.max_eq_right (Nat.le_of_lt hlimit)]
    exact hinner
termination_by structural h

theorem FailsWithin.recursionLimit_eq {depth : Nat} {r r' : Registry} {root : Data} {text : String}
    {before : List Node} {trail : Trail} {e : ComposeError} {stopped limit : Nat}
    (h : composer.FailsWithin depth r root text before trail e r')
    (he : e = .recursionLimit stopped limit) :
    limit = composer.settings.maxDepth ∧ stopped = max depth composer.settings.maxDepth := by
  match h with
  | .tagSyntax .. => cases he
  | .tag _ _ hfails => exact TagFails.recursionLimit_eq hfails he
termination_by structural h

theorem TagFails.recursionLimit_eq {depth : Nat} {r r' : Registry} {root : Data} {tag : Tag}
    {trail : Trail} {e : ComposeError} {stopped limit : Nat}
    (h : composer.TagFails depth r root tag trail e r') (he : e = .recursionLimit stopped limit) :
    limit = composer.settings.maxDepth ∧ stopped = max depth composer.settings.maxDepth := by
  match h with
  | .unregistered .. => cases he
  | .fieldBinding .. => cases he
  | .component _ _ _ hfails => exact Fails.recursionLimit_eq hfails he
termination_by structural h
end

end Composer

/-! ## Requests -/

namespace Request
variable {q : Request} {r r' : Registry} {course : Course} {stopped limit : Nat} {written : String}

/-- The depth of the outermost components. -/
def depth : Request → Nat
  | component .. => 0
  | fragment .. => 1

theorem Takes.staysBelow (h : q.Takes r course r') :
    StaysBelow q.composer.settings.maxDepth q.depth 0 course.marks := by
  cases h with
  | written hwrites =>
    have hbelow := hwrites.staysBelow (n := 0) (k := 0) rfl .nil
    rw [List.append_nil] at hbelow
    exact hbelow
  | fails hfails => exact hfails.staysBelow rfl
  | unfolded _ _ hnodes =>
    have hbelow := hnodes.staysBelow (n := 0) (k := 1) rfl .nil
    rw [List.append_nil] at hbelow
    exact hbelow
  | failsWithin _ hfails => exact hfails.staysBelow rfl
  | refused _ => exact .plain .nil

theorem Takes.recursionLimit_eq (h : q.Takes r course r')
    (hcourse : course.outcome = .error ⟨.recursionLimit stopped limit, written⟩) :
    limit = q.composer.settings.maxDepth ∧
      stopped = max q.depth q.composer.settings.maxDepth := by
  cases h with
  | written => cases hcourse
  | unfolded => cases hcourse
  | refused => cases hcourse
  | fails hfails =>
    cases hcourse
    exact hfails.recursionLimit_eq rfl
  | failsWithin _ hfails =>
    cases hcourse
    exact hfails.recursionLimit_eq rfl

end Request

end TagWeave
