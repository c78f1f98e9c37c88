import TagWeave.CommandLine.Options
import TagWeave.Composition.Unfold
import TagWeave.Data.Reader
import TagWeave.Diagnostic.Report
import TagWeave.Settings
import TagWeave.Template.Engine

/-!
# A run of the program

What the program writes and how it ends, given its options, the files that they name and standard
input. Files are read in the order settings, data, input, and the first problem ends the run.
-/

namespace TagWeave.CommandLine

/-- Why a file has no text. -/
inductive FileError
  | missing
  | isDirectory
  | notText
  /-- Anything else, in the words of the system. -/
  | other (reason : String)
  deriving DecidableEq, Repr

def FileError.message : FileError → String
  | missing => "No such file or directory (os error 2)"
  | isDirectory => "Is a directory (os error 21)"
  | notText => "stream did not contain valid UTF-8"
  | other reason => reason

/-- The files and the standard input of a run. -/
structure Sources where
  file : String → Except FileError ByteArray
  input : ByteArray

/-- How a run ends. -/
structure Ending where
  exitCode : Nat
  output : String := ""
  errors : String := ""
  deriving DecidableEq, Repr

/-- An ending with a problem. -/
def failed (problem : String) : Ending := { exitCode := 1, errors := problem ++ "\n" }

def decode (bytes : ByteArray) : Except FileError String :=
  match String.fromUTF8? bytes with
  | some text => .ok text
  | none => .error .notText

def Sources.text (s : Sources) (path : String) : Except FileError String := do
  decode (← s.file path)

/-- The settings from their file, or those of a program without one. -/
def settings (s : Sources) (o : Options) : Except String Settings := do
  let settings ← match o.config? with
    | none => pure {}
    | some path =>
      ((s.text path).mapError (SettingsError.unreadable ·.message) >>= Settings.parse).mapError
        fun e => "Error loading config '" ++ path ++ "': " ++ e.message
  let compose := settings.compose
  return { settings with
    compose := { compose with
      strict := o.strict || compose.strict
      maxDepth := o.maxDepth?.getD compose.maxDepth } }

/-- The data from its file. -/
def root (s : Sources) (o : Options) : Except String Data :=
  match o.data? with
  | none => .ok .null
  | some path =>
    let problem (reason : String) : String := "Error loading data '" ++ path ++ "': " ++ reason
    match s.text path with
    | .error e => .error (problem e.message)
    | .ok text =>
      match Data.read? text with
      | some data => .ok data
      | none => .error (problem "malformed data")

/-- The text to compose and the name under which problems are reported. -/
def source (s : Sources) (o : Options) : Except String (String × String) :=
  match o.input? with
  | some path =>
    match s.text path with
    | .ok text => .ok (text, path)
    | .error e => .error ("Error reading file '" ++ path ++ "': " ++ e.message)
  | none =>
    match decode s.input with
    | .ok text => .ok (text, "<stdin>")
    | .error e => .error ("Error reading from stdin: " ++ e.message)

/-- What a finished composition is written as. -/
def written (o : Options) (c : Composition) : Ending :=
  let style :=
    if o.css && !c.styles.isEmpty then "<style>\n" ++ c.stylesheet ++ "</style>\n" else ""
  { exitCode := 0
    output := style ++ c.html ++ "\n"
    errors := if o.ids then String.join (c.ids.map (· ++ "\n")) else "" }

/-- Composes the input. -/
def compose (s : Sources) (o : Options) : Except String Ending := do
  let settings ← settings s o
  let registry ← settings.registry.mapError fun e => "Error: " ++ e.message
  let root ← root s o
  let (text, name) ← source s o
  let composer : Composer :=
    { executor := Template.engine settings.compose.strictUndefined, settings := settings.compose }
  match (composer.composeFragment registry text root).1 with
  | .ok composition => return written o composition
  | .error failure => throw (failure.error.report name)

/-- Runs the program. -/
def run (s : Sources) (o : Options) : Ending :=
  match compose s o with
  | .ok ending => ending
  | .error problem => failed problem

end TagWeave.CommandLine
