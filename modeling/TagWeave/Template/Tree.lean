import TagWeave.Template.Operators

/-!
# Templates as trees
-/

namespace TagWeave.Template

mutual

inductive Expr where
  | literal (value : Value)
  | variable (name : String)
  | list (items : List Expr)
  | map (entries : List (Expr × Expr))
  | field (subject : Expr) (name : String)
  | item (subject key : Expr)
  /-- Missing ends and a missing step are the literal nothing. -/
  | slice (subject start stop step : Expr)
  | not (operand : Expr)
  | negate (operand : Expr)
  | binary (operator : Operator) (left right : Expr)
  /-- Relations of which each holds between two neighbours, if all hold. -/
  | comparison (first : Expr) (links : List (Relation × Expr))
  | choice (condition yes : Expr) (no? : Option Expr)
  | filter (subject : Expr) (name : String) (arguments : List Argument)
  | test (subject : Expr) (name : String) (arguments : List Argument)
  | call (function : Expr) (arguments : List Argument)

inductive Argument where
  | positional (value : Expr)
  | named (name : String) (value : Expr)
  /-- The items of a sequence, each an argument. -/
  | spread (values : Expr)
  /-- The entries of a map, each a named argument. -/
  | spreadNamed (values : Expr)

end

instance : Inhabited Expr := ⟨.literal .none⟩

/-- What a value is assigned to. -/
inductive Target where
  | variable (name : String)
  /-- The items of a sequence, one by one. -/
  | list (targets : List Target)
  | field (subject : Expr) (name : String)
  deriving Inhabited

/-- A filter without its subject. -/
abbrev FilterCall := String × List Argument

mutual

inductive Statement where
  | literal (text : String)
  | print (value : Expr)
  | loop (l : Loop)
  | branch (condition : Expr) (yes no : List Statement)
  /-- Assignments that hold for a body. -/
  | scope (assignments : List (Target × Expr)) (body : List Statement)
  | assign (target : Target) (value : Expr)
  /-- Assigns the text of a body. -/
  | capture (target : Target) (filters : List FilterCall) (body : List Statement)
  /-- Writes the text of a body through filters. -/
  | filtered (filters : List FilterCall) (body : List Statement)
  | escaping (setting : Expr) (body : List Statement)
  | block (name : String)
  | define (m : Macro)
  /-- Calls a function that may call the body back. -/
  | callBack (function : Expr) (arguments : List Argument) (body : Macro)
  | perform (call : Expr)
  /-- Refers to templates by their names. -/
  | refer (names : Expr) (optional : Bool)
  /-- Refers to a template that has to be there. -/
  | depend (name : Expr)
  /-- Stands where another template has to fill in a block. -/
  | gap (block : String)

inductive Loop where
  | mk (target : Target) (items : Expr) (condition? : Option Expr) (recursive : Bool)
    (body otherwise : List Statement)

inductive Macro where
  /-- The last parameters have the defaults. -/
  | mk (name : String) (parameters : List String) (defaults : List Expr) (body : List Statement)

end

/-- A template and its named blocks. -/
structure Document where
  body : List Statement
  blocks : List (String × List Statement)

end TagWeave.Template
