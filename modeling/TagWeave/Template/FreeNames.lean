import TagWeave.Template.Tree

/-!
# The names that a macro takes from around it

A macro keeps what the names that it reads stand for where it is defined. Those that it assigns
first are its own, and an assignment counts before the value that is assigned. What a body assigns
is forgotten behind it, except that of a macro; a macro inside another one has a caller of its own.
-/

namespace TagWeave.Template

/-! ## Expressions -/

mutual

/-- The names that an expression reads. -/
def Expr.names : Expr → List String
  | .literal _ => []
  | .variable name => [name]
  | .list items => Expr.namesOfAll items
  | .map entries => Expr.namesOfEntries entries
  | .field subject _ => subject.names
  | .item subject key => subject.names ++ key.names
  | .slice subject start stop step => subject.names ++ start.names ++ stop.names ++ step.names
  | .not operand | .negate operand => operand.names
  | .binary _ left right => left.names ++ right.names
  | .comparison first links => first.names ++ Expr.namesOfLinks links
  | .choice condition yes none => condition.names ++ yes.names
  | .choice condition yes (some no) => condition.names ++ yes.names ++ no.names
  | .filter subject _ arguments | .test subject _ arguments =>
    subject.names ++ Expr.namesOfArguments arguments
  | .call function arguments => function.names ++ Expr.namesOfArguments arguments

def Expr.namesOfAll : List Expr → List String
  | [] => []
  | e :: rest => e.names ++ Expr.namesOfAll rest

def Expr.namesOfEntries : List (Expr × Expr) → List String
  | [] => []
  | (key, value) :: rest => key.names ++ value.names ++ Expr.namesOfEntries rest

def Expr.namesOfLinks : List (Relation × Expr) → List String
  | [] => []
  | (_, right) :: rest => right.names ++ Expr.namesOfLinks rest

def Expr.namesOfArguments : List Argument → List String
  | [] => []
  | a :: rest => a.names ++ Expr.namesOfArguments rest

def Argument.names : Argument → List String
  | .positional value | .named _ value | .spread value | .spreadNamed value => value.names

end

/-! ## Assignments -/

mutual

/-- The names that a target assigns. -/
def Target.names : Target → List String
  | .variable name => [name]
  | .list targets => Target.namesOfAll targets
  | .field .. => []

def Target.namesOfAll : List Target → List String
  | [] => []
  | target :: rest => target.names ++ Target.namesOfAll rest

end

mutual

/-- The names that a target reads, to assign parts of what they stand for. -/
def Target.reads : Target → List String
  | .variable _ => []
  | .list targets => Target.readsOfAll targets
  | .field subject _ => subject.names

def Target.readsOfAll : List Target → List String
  | [] => []
  | target :: rest => target.reads ++ Target.readsOfAll rest

end

mutual

/-- The names that a statement assigns for those that follow it. -/
def Statement.assigned : Statement → List String
  | .assign target _ | .capture target _ _ => target.names
  | .define (.mk name parameters defaults body) =>
    name :: (Macro.mk name parameters defaults body).assigned
  | .callBack _ _ body => body.assigned
  | _ => []

def Statement.assignedIn : List Statement → List String
  | [] => []
  | s :: rest => s.assigned ++ Statement.assignedIn rest

def Macro.assigned : Macro → List String
  | .mk _ parameters _ body => "caller" :: parameters ++ Statement.assignedIn body

end

/-! ## Statements -/

/-- Those of some names that are not known. -/
def unknown (known names : List String) : List String := names.filter (!known.contains ·)

/-- The names that assignments one after the other read, besides known ones. -/
def freeInAssignments (known : List String) : List (Target × Expr) → List String
  | [] => []
  | (target, value) :: rest =>
    unknown (target.names ++ known) value.names ++ freeInAssignments (target.names ++ known) rest

mutual

/-- The names that a statement reads, besides known ones. What filters and settings of a body read
does not count. -/
def Statement.free (known : List String) : Statement → List String
  | .print value | .perform value => unknown known value.names
  | .loop l => l.free known
  | .branch condition yes no =>
    unknown known condition.names ++ Statement.freeIn known yes ++ Statement.freeIn known no
  | .scope bound body =>
    freeInAssignments known bound ++
      Statement.freeIn (bound.flatMap (·.1.names) ++ known) body
  | .assign target value => unknown (target.names ++ known) (target.reads ++ value.names)
  | .capture target _ body =>
    unknown known target.reads ++ Statement.freeIn (target.names ++ known) body
  | .filtered _ body | .escaping _ body => Statement.freeIn known body
  | .define (.mk name parameters defaults body) =>
    (Macro.mk name parameters defaults body).free (name :: "caller" :: known)
  | .callBack function arguments body =>
    unknown known (function.names ++ Expr.namesOfArguments arguments) ++
      body.free ("caller" :: known)
  | .literal _ | .block _ | .refer .. | .depend _ | .gap _ => []

def Statement.freeIn (known : List String) : List Statement → List String
  | [] => []
  | s :: rest => s.free known ++ Statement.freeIn (s.assigned ++ known) rest

def Loop.free (known : List String) : Loop → List String
  | .mk target items condition? _ body otherwise =>
    let inside := target.names ++ "loop" :: known
    unknown ("loop" :: known) items.names ++
      unknown inside ((condition?.map Expr.names).getD []) ++
      Statement.freeIn inside body ++ Statement.freeIn known otherwise

def Macro.free (known : List String) : Macro → List String
  | .mk _ parameters defaults body =>
    let inside := parameters ++ known
    unknown inside (defaults.flatMap Expr.names) ++ Statement.freeIn inside body

end

/-- The names that a macro reads and does not assign. -/
def Macro.freeNames (m : Macro) : List String := (m.free []).eraseDups

end TagWeave.Template
