import TagWeave.Number.Integer
import TagWeave.Text.Find
import TagWeave.Text.Quoted

/-!
# Options of the command line

Options may stand anywhere before `--`. Only the verbosity may be given more than once.
-/

namespace TagWeave.CommandLine

structure Options where
  /-- The file to compose; without one it is standard input. -/
  input? : Option String := none
  config? : Option String := none
  data? : Option String := none
  maxDepth? : Option Nat := none
  strict : Bool := false
  css : Bool := false
  ids : Bool := false
  verbosity : Nat := 0
  deriving DecidableEq, Repr

/-- Why arguments are refused. -/
inductive UsageError
  | unknownOption (text : String)
  | unexpectedArgument (text : String)
  | missingValue (option : String)
  | unexpectedValue (option : String)
  | invalidValue (option value : String)
  | repeated (option : String)
  deriving DecidableEq, Repr

def UsageError.message : UsageError → String
  | unknownOption text => "unknown option " ++ Text.quoted text
  | unexpectedArgument text => "unexpected argument " ++ Text.quoted text
  | missingValue option => "missing value of " ++ option
  | unexpectedValue option => option ++ " takes no value"
  | invalidValue option value => "invalid value " ++ Text.quoted value ++ " of " ++ option
  | repeated option => option ++ " given more than once"

/-- What the arguments ask for. -/
inductive Invocation
  | run (options : Options)
  | help
  deriving DecidableEq, Repr

/-- An option with a value. -/
inductive Setting
  | config | data | maxDepth
  deriving DecidableEq, Repr

/-- An option without a value. -/
inductive Switch
  | strict | css | ids | verbose | help
  deriving DecidableEq, Repr

def Setting.longName : Setting → String
  | config => "config"
  | data => "data"
  | maxDepth => "max-depth"

def Switch.longName : Switch → String
  | strict => "strict"
  | css => "css"
  | ids => "ids"
  | verbose => "verbose"
  | help => "help"

def Setting.ofLong? (name : String) : Option Setting :=
  [Setting.config, .data, .maxDepth].find? (·.longName == name)

def Switch.ofLong? (name : String) : Option Switch :=
  [Switch.strict, .css, .ids, .verbose, .help].find? (·.longName == name)

def Setting.ofShort? (c : Char) : Option Setting :=
  if c == 'c' then some .config else if c == 'd' then some .data else none

def Switch.ofShort? (c : Char) : Option Switch :=
  if c == 'v' then some .verbose else if c == 'h' then some .help else none

/-! ## Setting options -/

/-- Sets something that may be given once. -/
def once (name : String) (before? : Option α) (value : α) : Except UsageError (Option α) :=
  if before?.isSome then .error (.repeated name) else .ok (some value)

/-- A path, which is never empty. -/
def path (name value : String) : Except UsageError String :=
  if value.isEmpty then .error (.missingValue name) else .ok value

namespace Options

def assign (o : Options) (setting : Setting) (value : String) : Except UsageError Options := do
  let name := setting.longName
  match setting with
  | .config => return { o with config? := ← once name o.config? (← path name value) }
  | .data => return { o with data? := ← once name o.data? (← path name value) }
  | .maxDepth =>
    match Number.readNat64 value with
    | .ok depth => return { o with maxDepth? := ← once name o.maxDepth? depth }
    | .error _ => throw (.invalidValue name value)

def assignInput (o : Options) (value : String) : Except UsageError Options := do
  if o.input?.isSome then throw (.unexpectedArgument value)
  return { o with input? := some (← path "input" value) }

def turnOn (o : Options) (switch : Switch) : Except UsageError Options :=
  match switch with
  | .strict => if o.strict then .error (.repeated "strict") else .ok { o with strict := true }
  | .css => if o.css then .error (.repeated "css") else .ok { o with css := true }
  | .ids => if o.ids then .error (.repeated "ids") else .ok { o with ids := true }
  | .verbose => .ok { o with verbosity := o.verbosity + 1 }
  | .help => .ok o

end Options

/-! ## Reading arguments -/

/-- What an argument came to. -/
inductive Step
  | next (options : Options)
  /-- The value of the option is the next argument. -/
  | needsValue (setting : Setting) (options : Options)
  | help

/-- Reads an argument behind its two hyphens. -/
def readLong (o : Options) (text : List Char) : Except UsageError Step :=
  let (name, value?) : String × Option String :=
    match Text.splitOnce? ['='] text with
    | some (name, value) => (.ofList name, some (.ofList value))
    | none => (.ofList text, none)
  match Setting.ofLong? name, Switch.ofLong? name, value? with
  | some setting, _, some value => (o.assign setting value).map .next
  | some setting, _, none => .ok (.needsValue setting o)
  | none, some _, some _ => .error (.unexpectedValue name)
  | none, some .help, none => .ok .help
  | none, some switch, none => (o.turnOn switch).map .next
  | none, none, _ => .error (.unknownOption name)

/-- Reads an argument behind its only hyphen: options of one letter. The first that takes a value
has the rest of the argument as its value. -/
def readShort (o : Options) : List Char → Except UsageError Step
  | [] => .ok (.next o)
  | c :: rest =>
    match Setting.ofShort? c, Switch.ofShort? c with
    | some setting, _ =>
      match rest with
      | [] => .ok (.needsValue setting o)
      | '=' :: value => (o.assign setting (.ofList value)).map .next
      | value => (o.assign setting (.ofList value)).map .next
    | none, some .help => .ok .help
    | none, some switch =>
      match o.turnOn switch with
      | .ok o => readShort o rest
      | .error e => .error e
    | none, none => .error (.unknownOption (.ofList [c]))

/-- Whether an argument cannot be the value of the option before it. -/
def looksLikeOption (argument : String) : Bool :=
  argument.toList.head? == some '-' && argument != "-"

/-- Reads one argument before `--`. -/
def readOne (o : Options) (argument : String) : Except UsageError Step :=
  match argument.toList with
  | '-' :: '-' :: text => readLong o text
  | '-' :: c :: text => readShort o (c :: text)
  | _ => (o.assignInput argument).map .next

/-- Reads arguments from the left; the first that is wrong or asks for help decides. -/
def readFrom (o : Options) : List String → Except UsageError Invocation
  | [] => .ok (.run o)
  | argument :: rest =>
    if argument == "--" then (rest.foldlM Options.assignInput o).map .run
    else
      match readOne o argument with
      | .error e => .error e
      | .ok .help => .ok .help
      | .ok (.next o) => readFrom o rest
      | .ok (.needsValue setting o) =>
        match rest with
        | [] => .error (.missingValue setting.longName)
        | value :: rest =>
          if looksLikeOption value then .error (.missingValue setting.longName)
          else
            match o.assign setting value with
            | .error e => .error e
            | .ok o => readFrom o rest

/-- Reads the arguments of the program. -/
def readArguments (arguments : List String) : Except UsageError Invocation :=
  readFrom {} arguments

/-- What the program says about itself. -/
def help (program : String) : String :=
  "\n".intercalate
    ["Expand embedded component tags into html",
      "",
      "Usage: " ++ program ++ " [OPTIONS] [INPUT]",
      "",
      "Arguments:",
      "  [INPUT]  Input file (reads from stdin if not provided)",
      "",
      "Options:",
      "  -c, --config <CONFIG>        Configuration file declaring components (TOML format)",
      "  -d, --data <DATA>            " ++
        "Root data exposed to templates as \x60Root\x60 (JSON format)",
      "      --strict                 " ++
        "Fail on unregistered components instead of leaving a comment",
      "      --max-depth <MAX_DEPTH>  Bound on component nesting",
      "      --css                    " ++
        "Prefix the output with a <style> block of the used components' CSS",
      "      --ids                    List the generated ids on stderr",
      "  -v, --verbose...             Increase log verbosity (-v info, -vv debug)",
      "  -h, --help                   Print help",
      ""]

end TagWeave.CommandLine
