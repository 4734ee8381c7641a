import DeviceBus.Cli

/-!
# The program

Reads the files a command names, does what the command says, and leaves its outcome behind.
-/

namespace DeviceBus.Cli

/-- Why a file cannot be used, in words. -/
def fileReason : IO.Error → String
  | .noFileOrDirectory .. => Directory.notFound
  | .inappropriateType .. => Directory.isDirectory
  | e => toString e

/-- Reads a file, or tells why it cannot be read. -/
def readFile (path : String) : IO (String × Except String Bytes) := do
  try
    let content ← IO.FS.readBinFile path
    return (path, .ok content.toList)
  catch e => return (path, .error (fileReason e))

/-- The files that the arguments name. -/
def readInputs (arguments : List String) : IO Files := do
  let paths := match Command.ofArguments arguments with
    | .ok command => command.inputs
    | .error _ => []
  let contents ← paths.mapM readFile
  return fun path => (contents.lookup path).getD (.error Directory.notFound)

/-- Writes the file of an outcome. -/
def writeOutput (o : Outcome) : IO Outcome := do
  match o.file with
  | none => return o
  | some (path, content) =>
    try
      IO.FS.writeBinFile path ⟨content.toArray⟩
      return o
    catch e => return o.fileFailed (fileReason e)

/-- Runs the command that the arguments give, and returns its exit code. -/
def program (arguments : List String) : IO UInt32 := do
  let files ← readInputs arguments
  let outcome ← writeOutput (Outcome.ofArguments files arguments)
  let stdout ← IO.getStdout
  stdout.write ⟨outcome.stdout.toArray⟩
  stdout.flush
  outcome.stderr.forM IO.eprintln
  return UInt32.ofNat outcome.exitCode

end DeviceBus.Cli

/-- The entry point. -/
def main (arguments : List String) : IO UInt32 := DeviceBus.Cli.program arguments
