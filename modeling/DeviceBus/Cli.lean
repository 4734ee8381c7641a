import DeviceBus.Cli.Inspect
import DeviceBus.Cli.Run

/-!
# The command line

`vbus scan` prints the bus of a scene, `vbus run` runs the demo machine on it, and `vbus inspect`
prints saved records.
-/

namespace DeviceBus.Cli

/-- The help text. -/
def usage : List String := [
  "Device bus scanner and virtual machine runner",
  "",
  "Usage: vbus scan [--format table|json] SCENE",
  "       vbus run [-n TICKS] [--resume FILE] [--record FILE] [--input TEXT] [-v] SCENE",
  "       vbus inspect [--format table|json] RECORD..."]

/-- The version of the program. -/
def versionLine : String := "vbus 0.3.0"

/-- Executes a command. -/
def execute (files : Files) : Command → Outcome
  | .help => .printed usage
  | .version => .printed [versionLine]
  | .scan scene format => scan files scene format
  | .run options => run files options
  | .inspect records format => inspect files records format

/-- What the program does with its arguments.  Wrong arguments end it with exit code 2. -/
def Outcome.ofArguments (files : Files) (arguments : List String) : Outcome :=
  match Command.ofArguments arguments with
  | .ok command => execute files command
  | .error .help => .printed usage
  | .error .usage => ⟨2, [], usage, none⟩

/-- The files that a command reads. -/
def Command.inputs : Command → List String
  | .help | .version => []
  | .scan scene _ => [scene]
  | .run options => options.scene :: options.resume.toList
  | .inspect records _ => records

end DeviceBus.Cli
