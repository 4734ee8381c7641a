import DeviceBus.Bytes

/-!
# Outcomes

What a command leaves behind: an exit code, output, and a file to be written.
-/

namespace DeviceBus.Cli

/-- What a command leaves behind. -/
structure Outcome where
  exitCode : Nat
  stdout : Bytes
  /-- Lines on the error output. -/
  stderr : List String
  /-- A file to be written after the output, with what it is to hold. -/
  file : Option (String × Bytes)
  deriving DecidableEq, Repr

namespace Outcome

/-- A command that printed something and succeeded. -/
def printed (lines : List String) : Outcome :=
  ⟨0, Bytes.ofText (String.join (lines.map (· ++ "\n"))), [], none⟩

/-- Ends a command with an error. -/
def fail (o : Outcome) (reason : String) : Outcome :=
  { o with exitCode := 1, stderr := o.stderr ++ ["vbus: " ++ reason], file := none }

/-- A command that failed before it printed anything. -/
def failed (reason : String) : Outcome := fail ⟨0, [], [], none⟩ reason

/-- What is left behind if the file cannot be written. -/
def fileFailed (o : Outcome) (reason : String) : Outcome :=
  match o.file with
  | none => o
  | some (path, _) => o.fail ("writing record " ++ path ++ ": " ++ reason)

end Outcome

/-- The contents of files, or why they cannot be read. -/
abbrev Files := String → Except String Bytes

/-! ## Directories -/

/-- The files of one directory. -/
abbrev Directory := List (String × Bytes)

namespace Directory

/-- Why a file that does not exist cannot be read. -/
def notFound : String := "No such file or directory (os error 2)"

/-- Why a directory cannot be read as a file. -/
def isDirectory : String := "Is a directory (os error 21)"

/-- Why a path that goes on behind a file leads nowhere. -/
def notDirectory : String := "Not a directory (os error 20)"

/-- Whether a step of a path leads nowhere else. -/
def staysPut (step : String) : Bool := step = "" || step = "."

/-- The name of the file that a path leads to, or why it leads to none.  A path that starts with a
slash leads out of the directory. -/
def locate (d : Directory) (path : String) : Except String String :=
  if path = "" then .error notFound
  else
    match (path.splitOn "/").dropWhile staysPut with
    | [] => .error isDirectory
    | name :: rest =>
      if path.startsWith "/" then .error notFound
      else if rest.isEmpty then .ok name
      else if (d.lookup name).isSome then .error notDirectory
      else .error notFound

/-- Reads a file. -/
def read (d : Directory) (path : String) : Except String Bytes :=
  match d.locate path with
  | .error reason => .error reason
  | .ok name =>
    match d.lookup name with
    | none => .error notFound
    | some content => .ok content

/-- Writes a file, in place of the one that is there. -/
def write (d : Directory) (path : String) (content : Bytes) : Except String Directory :=
  (d.locate path).map fun name => (name, content) :: d.filter (·.1 ≠ name)

/-- Writes the file that a command leaves behind. -/
def settle (d : Directory) (o : Outcome) : Outcome × Directory :=
  match o.file with
  | none => (o, d)
  | some (path, content) =>
    match d.write path content with
    | .ok d => (o, d)
    | .error reason => (o.fileFailed reason, d)

end Directory

end DeviceBus.Cli
