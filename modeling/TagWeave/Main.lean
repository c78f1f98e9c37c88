import TagWeave.CommandLine.Run

/-!
# The program
-/

namespace TagWeave.CommandLine

/-- The exit code for arguments that are refused. -/
def usageExitCode : UInt32 := 2

/-- Reads a file of the system. -/
def readSystemFile (path : String) : IO (Except FileError ByteArray) := do
  try
    return .ok (← IO.FS.readBinFile path)
  catch e =>
    return .error (match e with
      | .noFileOrDirectory .. => .missing
      | e => .other (toString e))

/-- Reads the files that options name, and standard input if no input is named. -/
def readSources (o : Options) : IO Sources := do
  let paths := [o.config?, o.data?, o.input?].filterMap id
  let files ← paths.mapM fun path => do return (path, ← readSystemFile path)
  let input ← if o.input?.isNone then (← IO.getStdin).readBinToEnd else pure ByteArray.empty
  return { file := fun path => (files.lookup path).getD (.error .missing), input }

end TagWeave.CommandLine

open TagWeave.CommandLine in
/-- Composes a text as the arguments ask for. -/
def main (arguments : List String) : IO UInt32 := do
  match readArguments arguments with
  | .error e =>
    IO.eprintln ("error: " ++ e.message)
    return usageExitCode
  | .ok .help =>
    let program := (← IO.appPath).fileName.getD ""
    IO.print (help program)
    return 0
  | .ok (.run options) =>
    let ending := run (← readSources options) options
    IO.print ending.output
    IO.eprint ending.errors
    return ending.exitCode.toUInt32
