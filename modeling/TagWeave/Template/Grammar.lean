import TagWeave.Template.Lexeme
import TagWeave.Template.Tree

/-!
# Reading templates

Recursive descent over the lexemes. Every function takes the number of steps that may still nest;
`Document.read` allows more than any template can need. Expressions and statements may nest
`Read.mostNested` deep.
-/

namespace TagWeave.Template

structure Progress where
  rest : List Lexeme
  blocks : List (String × List Statement) := []
  inMacro : Bool := false
  /-- How many expressions and statements are being read. -/
  depth : Nat := 0

abbrev Read := StateT Progress (Except Fault)

namespace Read

def refuse (expected : String) : Read α := throw (.malformed expected)

/-- How deep expressions and statements may nest. -/
def mostNested : Nat := 150

/-- How many arguments a call may have. -/
def mostArguments : Nat := 2000

/-- Reads what stands inside what is being read. -/
def nested (read : Read α) : Read α := do
  let outside ← get
  if mostNested ≤ outside.depth then throw .tooDeep
  set { outside with depth := outside.depth + 1 }
  let found ← read
  modify fun p => { p with depth := outside.depth }
  return found

/-- The next lexeme, which is not taken. -/
def peek? : Read (Option Lexeme) := return (← get).rest.head?

def advance : Read Unit := modify fun p => { p with rest := p.rest.tail }

/-- Takes a lexeme if it is the next one. -/
def skip (lexeme : Lexeme) : Read Bool := do
  if (← peek?) == some lexeme then
    advance
    return true
  return false

def skipMark (symbol : String) : Read Bool := skip (.mark symbol)

def skipWord (name : String) : Read Bool := skip (.word name)

def take (lexeme : Lexeme) (expected : String) : Read Unit := do
  unless ← skip lexeme do refuse expected

def takeMark (symbol : String) : Read Unit := take (.mark symbol) symbol

def takeWord : Read String := do
  match ← peek? with
  | some (.word name) =>
    advance
    return name
  | _ => refuse "identifier"

/-- Takes names with points between them as one name. -/
def takeDotted : Nat → Read String
  | 0 => throw .tooDeep
  | steps + 1 => do
    let name ← takeWord
    if ← skipMark "." then return name ++ "." ++ (← takeDotted steps) else return name

/-- Names that stand for something else and cannot be assigned to. -/
def reserved : List String :=
  ["true", "True", "false", "False", "none", "None", "loop", "self"]

def takeVariable : Read String := do
  let name ← takeWord
  if reserved.contains name then refuse "name that is not reserved"
  return name

/-! ## Expressions -/

/-- How binary operators bind; those of one level group to the left. -/
def operatorAt (level : Nat) : Lexeme → Option Operator
  | .word "or" => if level == 0 then some .or else none
  | .word "and" => if level == 1 then some .and else none
  | .mark "+" => if level == 4 then some .plus else none
  | .mark "-" => if level == 4 then some .minus else none
  | .mark "~" => if level == 5 then some .concat else none
  | .mark "*" => if level == 6 then some .times else none
  | .mark "/" => if level == 6 then some .divided else none
  | .mark "//" => if level == 6 then some .floorDivided else none
  | .mark "%" => if level == 6 then some .modulo else none
  | .mark "**" => if level == 7 then some .power else none
  | _ => none

def relation? : Lexeme → Option Relation
  | .word "in" => some .isIn
  | .mark "==" => some .equal
  | .mark "!=" => some .unequal
  | .mark "<" => some .less
  | .mark "<=" => some .atMost
  | .mark ">" => some .greater
  | .mark ">=" => some .atLeast
  | _ => none

/-- Takes a relation if one is next. -/
def takeRelation? : Read (Option Relation) := do
  match (← peek?).bind relation? with
  | some relation =>
    advance
    return some relation
  | none =>
    unless ← skipWord "not" do return none
    take (.word "in") "in"
    return some .notIn

/-- The level of the word `not`. -/
def notLevel : Nat := 2

def comparisonLevel : Nat := 3

/-- The level of what stands between relations. -/
def operandOfRelation : Nat := 4

/-- The level of what stands between binary operators. -/
def operandLevel : Nat := 8

/-- Whether a lexeme begins an argument that follows the name of a test without brackets. -/
def beginsArgument : Lexeme → Bool
  | .word name => !(["and", "or", "else", "is"].contains name)
  | .quoted _ | .whole _ | .decimal _ => true
  | .mark symbol => ["+", "-", "[", "\x7b"].contains symbol
  | _ => false

def text (value : String) : Expr := .literal (.ofText value)

mutual

/-- Reads an expression with an optional choice at its end. -/
def expression : Nat → Read Expr
  | 0 => throw .tooDeep
  | steps + 1 => nested (do choices steps (← operation steps 0))

def choices : Nat → Expr → Read Expr
  | 0, _ => throw .tooDeep
  | steps + 1, value => do
    if ← skipWord "if" then
      let condition ← operation steps 0
      if ← skipWord "else" then
        let otherwise ← choices steps (← operation steps 0)
        choices steps (.choice condition value (some otherwise))
      else choices steps (.choice condition value none)
    else return value

/-- Reads an expression whose operators bind at least as tightly as those of a level. -/
def operation : Nat → Nat → Read Expr
  | 0, _ => throw .tooDeep
  | steps + 1, level => do
    if level == notLevel then
      if ← skipWord "not" then return .not (← operation steps level)
      else operation steps (level + 1)
    else if level == comparisonLevel then
      let first ← operation steps (level + 1)
      let links ← linksAfter steps []
      return if links.isEmpty then first else .comparison first links
    else if operandLevel ≤ level then
      let value ← operand steps
      modified steps value
    else
      let left ← operation steps (level + 1)
      continued steps level left

/-- Reads the operators of one level that follow a left operand. -/
def continued : Nat → Nat → Expr → Read Expr
  | 0, _, _ => throw .tooDeep
  | steps + 1, level, left => do
    match (← peek?).bind (operatorAt level) with
    | some operator =>
      advance
      let right ← operation steps (level + 1)
      continued steps level (.binary operator left right)
    | none => return left

/-- Reads the relations that follow a value, each with the value behind it. -/
def linksAfter : Nat → List (Relation × Expr) → Read (List (Relation × Expr))
  | 0, _ => throw .tooDeep
  | steps + 1, before => do
    match ← takeRelation? with
    | some relation =>
      let right ← operation steps operandOfRelation
      linksAfter steps (before ++ [(relation, right)])
    | none => return before

/-- Reads a value with its minus signs and with what follows it. The signs bind more tightly. -/
def operand : Nat → Read Expr
  | 0 => throw .tooDeep
  | steps + 1 => do accessed steps (← signed steps)

def signed : Nat → Read Expr
  | 0 => throw .tooDeep
  | steps + 1 => do
    if ← skipMark "-" then return .negate (← signed steps)
    else nested (primary steps)

/-- Reads the fields, keys and calls that follow an operand. -/
def accessed : Nat → Expr → Read Expr
  | 0, _ => throw .tooDeep
  | steps + 1, value => do
    if ← skipMark "." then
      match ← peek? with
      | some (.whole n) =>
        advance
        accessed steps (.item value (.literal (.integer n)))
      | _ => accessed steps (.field value (← takeWord))
    else if ← skipMark "[" then
      let value ← subscript steps value
      accessed steps value
    else if ← skipMark "(" then
      let arguments ← argumentsOf steps []
      accessed steps (.call value arguments)
    else return value

/-- Reads a key or a slice, up to the closing bracket. -/
def subscript : Nat → Expr → Read Expr
  | 0, _ => throw .tooDeep
  | steps + 1, value => do
    let start ← sliceEnd steps
    if ← skipMark ":" then
      let stop ← sliceEnd steps
      let step ← if ← skipMark ":" then sliceEnd steps else pure none
      takeMark "]"
      let nothing : Expr := .literal .none
      return .slice value (start.getD nothing) (stop.getD nothing) (step.getD nothing)
    else
      takeMark "]"
      match start with
      | some key => return .item value key
      | none => refuse "expression"

/-- Reads an expression, unless a colon or the closing bracket follows. -/
def sliceEnd : Nat → Read (Option Expr)
  | 0 => throw .tooDeep
  | steps + 1 => do
    let next ← peek?
    if next == some (.mark ":") || next == some (.mark "]") then return none
    return some (← expression steps)

/-- Reads the filters and tests that follow an operand. -/
def modified : Nat → Expr → Read Expr
  | 0, _ => throw .tooDeep
  | steps + 1, value => do
    if ← skipMark "|" then
      let (name, arguments) ← filterCall steps
      modified steps (.filter value name arguments)
    else if ← skipWord "is" then
      let negated ← skipWord "not"
      let name ← takeDotted steps
      let arguments ← testArguments steps
      let test : Expr := .test value name arguments
      modified steps (if negated then .not test else test)
    else return value

def filterCall : Nat → Read FilterCall
  | 0 => throw .tooDeep
  | steps + 1 => do
    let name ← takeDotted steps
    if ← skipMark "(" then return (name, ← argumentsOf steps [])
    return (name, [])

def testArguments : Nat → Read (List Argument)
  | 0 => throw .tooDeep
  | steps + 1 => do
    if ← skipMark "(" then argumentsOf steps []
    else if ((← peek?).map beginsArgument).getD false then
      return [.positional (← operand steps)]
    else return []

/-- Reads arguments up to the closing bracket, after some that were read before. -/
def argumentsOf : Nat → List Argument → Read (List Argument)
  | 0, _ => throw .tooDeep
  | steps + 1, before => do
    if mostArguments < before.length then refuse "end of arguments"
    if ← skipMark ")" then return before
    unless before.isEmpty do takeMark ","
    if ← skipMark ")" then return before
    if ← skipMark "**" then
      argumentsOf steps (before ++ [.spreadNamed (← expression steps)])
    else if ← skipMark "*" then
      argumentsOf steps (before ++ [.spread (← expression steps)])
    else
      match ← expression steps with
      | .variable name =>
        if ← skipMark "=" then
          argumentsOf steps (before ++ [.named name (← expression steps)])
        else positionalAfter steps before (.variable name)
      | value => positionalAfter steps before value

/-- A positional argument, which no named one may precede. -/
def positionalAfter : Nat → List Argument → Expr → Read (List Argument)
  | 0, _, _ => throw .tooDeep
  | steps + 1, before, value => do
    let isNamed : Argument → Bool := fun a => match a with
      | .named _ _ | .spreadNamed _ => true
      | _ => false
    if before.any isNamed then refuse "named argument"
    argumentsOf steps (before ++ [.positional value])

def primary : Nat → Read Expr
  | 0 => throw .tooDeep
  | steps + 1 => do
    let lexeme ← peek?
    advance
    match lexeme with
    | some (.word "true") | some (.word "True") => return .literal (.boolean true)
    | some (.word "false") | some (.word "False") => return .literal (.boolean false)
    | some (.word "none") | some (.word "None") => return .literal .none
    | some (.word name) => return .variable name
    | some (.quoted s) => return text (← quotedAfter steps s)
    | some (.whole n) => return .literal (.integer n)
    | some (.decimal d) => return .literal (.float d.toFloat)
    | some (.mark "(") => bracketed steps
    | some (.mark "[") => return .list (← itemsUntil steps "]" [])
    | some (.mark "\x7b") => return .map (← entriesOf steps [])
    | _ => refuse "expression"

/-- Reads the quoted texts that follow a quoted text and belong to it. -/
def quotedAfter : Nat → String → Read String
  | 0, _ => throw .tooDeep
  | steps + 1, before => do
    match ← peek? with
    | some (.quoted s) =>
      advance
      quotedAfter steps (before ++ s)
    | _ => return before

/-- Reads what stands in round brackets: an expression, or several as a list. -/
def bracketed : Nat → Read Expr
  | 0 => throw .tooDeep
  | steps + 1 => do
    if ← skipMark ")" then return .list []
    let value ← expression steps
    if ← skipMark ")" then return value
    return .list (← itemsUntil steps ")" [value])

/-- Reads expressions with commas between them up to a bracket, after some that were read. -/
def itemsUntil : Nat → String → List Expr → Read (List Expr)
  | 0, _, _ => throw .tooDeep
  | steps + 1, bracket, before => do
    if ← skipMark bracket then return before
    unless before.isEmpty do takeMark ","
    if ← skipMark bracket then return before
    let item ← expression steps
    itemsUntil steps bracket (before ++ [item])

def entriesOf : Nat → List (Expr × Expr) → Read (List (Expr × Expr))
  | 0, _ => throw .tooDeep
  | steps + 1, before => do
    if ← skipMark "\x7d" then return before
    unless before.isEmpty do takeMark ","
    if ← skipMark "\x7d" then return before
    let key ← expression steps
    takeMark ":"
    let value ← expression steps
    entriesOf steps (before ++ [(key, value)])

end

/-! ## Targets -/

/-- Whether nothing more can be assigned to. -/
def endsTargets : Option Lexeme → Bool
  | some (.mark ")") | some .printEnd | some .tagEnd | some (.word "in") => true
  | _ => false

/-- Reads the fields that follow the name of a target. -/
def fieldsOf : Nat → Expr → Target → Read Target
  | 0, _, _ => throw .tooDeep
  | steps + 1, subject, found => do
    unless ← skipMark "." do return found
    let name ← takeWord
    fieldsOf steps (.field subject name) (.field subject name)

mutual

/-- Reads one target, or several as a list. Fields are targets only if `dotted`. -/
def target : Nat → (dotted : Bool) → Read Target
  | 0, _ => throw .tooDeep
  | steps + 1, dotted => do
    if endsTargets (← peek?) then return .list []
    let first ← oneTarget steps dotted
    if (← peek?) == some (.mark ",") then return .list (← targetsAfter steps dotted [first])
    return first

def targetsAfter : Nat → (dotted : Bool) → List Target → Read (List Target)
  | 0, _, _ => throw .tooDeep
  | steps + 1, dotted, before => do
    unless ← skipMark "," do return before
    if endsTargets (← peek?) then return before
    let next ← oneTarget steps dotted
    targetsAfter steps dotted (before ++ [next])

def oneTarget : Nat → (dotted : Bool) → Read Target
  | 0, _ => throw .tooDeep
  | steps + 1, dotted => do
    if ← skipMark "(" then
      let inner ← target steps dotted
      takeMark ")"
      return inner
    let name ← takeVariable
    if dotted then fieldsOf steps (.variable name) (.variable name) else return .variable name

end

/-! ## Statements -/

def endTag : Read Unit := take .tagEnd "end of tag"

def filterChain : Nat → Read (List FilterCall)
  | 0 => throw .tooDeep
  | steps + 1 => do
    let call ← filterCall steps
    if ← skipMark "|" then return call :: (← filterChain steps)
    return [call]

/-- Reads assignments up to the end of the tag. -/
def assignments : Nat → List (Target × Expr) → Read (List (Target × Expr))
  | 0, _ => throw .tooDeep
  | steps + 1, before => do
    if (← peek?) == some .tagEnd then return before
    unless before.isEmpty do takeMark ","
    let left ← oneTarget steps false
    takeMark "="
    let right ← expression steps
    assignments steps (before ++ [(left, right)])

/-- Reads expressions with commas between them up to the end of the tag, after some that were
read. -/
def valuesAfter : Nat → List Expr → Read (List Expr)
  | 0, _ => throw .tooDeep
  | steps + 1, before => do
    unless ← skipMark "," do return before
    if (← peek?) == some .tagEnd then return before
    let value ← expression steps
    valuesAfter steps (before ++ [value])

/-- Reads what is assigned: a value, or several as a list. -/
def assigned : Nat → Read Expr
  | 0 => throw .tooDeep
  | steps + 1 => do
    let value ← expression steps
    if (← peek?) == some (.mark ",") then return .list (← valuesAfter steps [value])
    return value

/-- Reads parameters with their defaults up to the closing bracket. -/
def parameters : Nat → List String → List Expr → Read (List String × List Expr)
  | 0, _, _ => throw .tooDeep
  | steps + 1, names, defaults => do
    if ← skipMark ")" then return (names, defaults)
    unless names.isEmpty do takeMark ","
    if ← skipMark ")" then return (names, defaults)
    let name ← takeVariable
    if ← skipMark "=" then
      let default ← expression steps
      parameters steps (names ++ [name]) (defaults ++ [default])
    else if defaults.isEmpty then parameters steps (names ++ [name]) []
    else refuse "default"

/-- Takes the words that tell whether another template sees the names around it. -/
def skipContext : Read Bool := do
  unless (← skipWord "with") || (← skipWord "without") do return false
  take (.word "context") "context"
  return true

/-- Reads the names that are taken over from another template. -/
def importedNames : Nat → Read Unit
  | 0 => throw .tooDeep
  | steps + 1 => do
    if (← skipContext) || (← peek?) == some .tagEnd then return
    let _ ← takeVariable
    if ← skipWord "as" then
      let _ ← takeVariable
    if (← skipContext) || (← peek?) == some .tagEnd then return
    takeMark ","
    importedNames steps

/-- Whether a statement only writes blanks. -/
def isBlank : Statement → Bool
  | .literal text => text.toList.all Text.isBlank
  | _ => false

def callParts : Expr → Read (Expr × List Argument)
  | .call function arguments => return (function, arguments)
  | _ => refuse "call"

mutual

/-- Reads statements up to a tag that begins with one of the given words, which is not taken. -/
def statements : Nat → List String → Read (List Statement)
  | 0, _ => throw .tooDeep
  | steps + 1, stops => do
    match ← peek? with
    | none => if stops.isEmpty then return [] else refuse "end of block"
    | some (.literal s) =>
      advance
      return .literal s :: (← statements steps stops)
    | some .printStart =>
      advance
      let value ← expression steps
      take .printEnd "end of print"
      return .print value :: (← statements steps stops)
    | some .tagStart =>
      advance
      let name ← takeWord
      if stops.contains name then
        modify fun p => { p with rest := .word name :: p.rest }
        return []
      let s ← nested (statement steps name)
      endTag
      return s :: (← statements steps stops)
    | some _ => refuse "statement"

/-- Reads a body and the word that ends it. -/
def bodyUntil : Nat → String → Read (List Statement)
  | 0, _ => throw .tooDeep
  | steps + 1, stop => do
    endTag
    let body ← statements steps [stop]
    advance
    return body

/-- Reads a statement from behind its first word. -/
def statement : Nat → String → Read Statement
  | 0, _ => throw .tooDeep
  | steps + 1, "for" => do
    let left ← target steps false
    take (.word "in") "in"
    let items ← operation steps 0
    let condition? ← if ← skipWord "if" then some <$> expression steps else pure none
    let recursive ← skipWord "recursive"
    endTag
    let body ← statements steps ["endfor", "else"]
    let otherwise ← if ← skipWord "else" then bodyUntil steps "endfor" else do advance; pure []
    return .loop (.mk left items condition? recursive body otherwise)
  | steps + 1, "if" => branch steps
  | steps + 1, "with" => do
    let bound ← assignments steps []
    return .scope bound (← bodyUntil steps "endwith")
  | steps + 1, "set" => do
    let left ← target steps true
    let next ← peek?
    if next == some .tagEnd || next == some (.mark "|") then
      let filters ← if ← skipMark "|" then filterChain steps else pure []
      return .capture left filters (← bodyUntil steps "endset")
    else
      takeMark "="
      return .assign left (← assigned steps)
  | steps + 1, "autoescape" => do
    let setting ← expression steps
    return .escaping setting (← bodyUntil steps "endautoescape")
  | steps + 1, "filter" => do
    let filters ← filterChain steps
    return .filtered filters (← bodyUntil steps "endfilter")
  | steps + 1, "block" => do
    if (← get).inMacro then refuse "statement of a macro"
    let name ← takeWord
    let _ ← skipWord "scoped"
    let required ← skipWord "required"
    let body ← bodyUntil steps "endblock"
    match ← peek? with
    | some (.word other) =>
      if other == name then advance else refuse "name of the block"
    | _ => pure ()
    if ((← get).blocks.lookup name).isSome then refuse "new block"
    if required && !body.all isBlank then refuse "empty block"
    let body := if required then [.gap name] else body
    modify fun p => { p with blocks := (name, body) :: p.blocks }
    return .block name
  | steps + 1, "macro" => do
    let name ← takeWord
    takeMark "("
    let (names, defaults) ← parameters steps [] []
    return .define (← macroBody steps name names defaults "endmacro")
  | steps + 1, "call" => do
    let (names, defaults) ← if ← skipMark "(" then parameters steps [] [] else pure ([], [])
    let (function, arguments) ← callParts (← expression steps)
    return .callBack function arguments (← macroBody steps "caller" names defaults "endcall")
  | steps + 1, "do" => do
    let call ← expression steps
    let _ ← callParts call
    return .perform call
  | steps + 1, "include" => do
    let names ← expression steps
    let _ ← skipContext
    let optional ← skipWord "ignore"
    if optional then
      take (.word "missing") "missing"
      let _ ← skipContext
    return .refer names optional
  | steps + 1, "extends" => do return .depend (← expression steps)
  | steps + 1, "import" => do
    let name ← expression steps
    take (.word "as") "as"
    let _ ← takeVariable
    let _ ← skipContext
    return .depend name
  | steps + 1, "from" => do
    let name ← expression steps
    take (.word "import") "import"
    importedNames steps
    return .depend name
  | _ + 1, _ => refuse "statement"

/-- Reads a branch from behind the word that begins it. -/
def branch : Nat → Read Statement
  | 0 => throw .tooDeep
  | steps + 1 => do
    let condition ← operation steps 0
    endTag
    let yes ← statements steps ["endif", "else", "elif"]
    if ← skipWord "else" then return .branch condition yes (← bodyUntil steps "endif")
    else if ← skipWord "elif" then return .branch condition yes [← branch steps]
    else
      advance
      return .branch condition yes []

/-- Reads the body of a macro, in which no blocks may be named. -/
def macroBody : Nat → String → List String → List Expr → String → Read Macro
  | 0, _, _, _, _ => throw .tooDeep
  | steps + 1, name, names, defaults, stop => do
    let outside ← get
    set { outside with inMacro := true }
    let body ← bodyUntil steps stop
    modify fun p => { p with inMacro := outside.inMacro }
    return .mk name names defaults body

end

end Read

/-- Reads a template. An operand passes through at most fifteen functions before it takes
a lexeme. -/
def Document.read (template : String) : Except Fault Document := do
  let rest ← lexemes template
  let (body, progress) ← (Read.statements (16 * rest.length + 16) []).run { rest }
  return ⟨body, progress.blocks⟩

end TagWeave.Template
