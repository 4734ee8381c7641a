import DeviceBus.Cli.Scan
import DeviceBus.Message.Frame
import DeviceBus.Record
import DeviceBus.Text.WellFormed

/-!
# The `inspect` command

Prints saved records.
-/

namespace DeviceBus.Cli

/-- The records in some files, or why one cannot be read. -/
def loadRecords (files : Files) : List String → Except String (List (String × Record))
  | [] => .ok []
  | path :: rest =>
    match files path with
    | .error reason => .error ("reading " ++ path ++ ": " ++ reason)
    | .ok file => (loadRecords files rest).map fun records => (path, Record.decode file) :: records

/-- What an observer would be given of a record. -/
def recordSnapshot (r : Record) : Snapshot where
  runState := (RunState.ofOrdinal? r.runState.toNat).getD .stopped
  busState := (BusState.ofOrdinal? r.busState.toNat).getD .scanning
  bootError := r.bootError
  terminal := r.terminal

/-- The name of a state, or the number that names none. -/
def stateLabel (name : Option String) (ordinal : UInt8) : String :=
  name.getD ("unknown (" ++ toString ordinal.toNat ++ ")")

/-- The lines about a record up to the size of its snapshot. -/
def headLines (path : String) (r : Record) : List String :=
  let error := match r.bootError with
    | none => []
    | some error => ["  boot error: " ++ error]
  [path,
    "  run state:  " ++
      stateLabel ((RunState.ofOrdinal? r.runState.toNat).map RunState.name) r.runState,
    "  bus state:  " ++
      stateLabel ((BusState.ofOrdinal? r.busState.toNat).map BusState.name) r.busState] ++ error ++
    ["  elements:   " ++ " ".intercalate (r.elements.map ElementId.render),
      "  emulation:  " ++ Text.size r.emulation.length]

/-- The lines about the devices of a record. -/
def stateLines (r : Record) : List String :=
  if r.devices.entries.isEmpty then ["  devices:    none"]
  else
    "  devices:" :: r.devices.entries.map fun e =>
      "    " ++ Text.padRight 12 e.1.render ++ " " ++ Text.padLeft 10 (Text.size e.2.length)

/-- The lines about the terminal of a record. -/
def terminalLines (r : Record) : List String :=
  if r.terminal.isEmpty then []
  else
    "  terminal:" :: (Text.lines (Text.replaceIllFormed r.terminal)).map fun line =>
      "    | " ++ (Bytes.text? line).getD ""

/-- The lines about a record, or the first of them and why there are no more. -/
def recordLines (path : String) (r : Record) : Except (List String × String) (List String) :=
  match Frame.encode (Payload.writeSnapshot (recordSnapshot r)) with
  | .error e => .error (headLines path r, "encoding snapshot: " ++ e.message)
  | .ok frame =>
    .ok (headLines path r ++ ["  snapshot:   " ++ Text.size frame.length] ++ stateLines r ++
      terminalLines r ++ [""])

/-- The lines about all records; `printed` are those before them. -/
def inspectTable (printed : List String) : List (String × Record) → Outcome
  | [] => .printed printed
  | (path, r) :: rest =>
    match recordLines path r with
    | .ok lines => inspectTable (printed ++ lines) rest
    | .error (lines, reason) => (Outcome.printed (printed ++ lines)).fail reason

/-- The records as a document: one alone, several as an array. -/
def recordsJson : List (String × Record) → Json
  | [(_, r)] => r.toJson
  | records => .array (records.map fun p => p.2.toJson)

/-- Prints records. -/
def inspect (files : Files) (paths : List String) (format : Format) : Outcome :=
  match loadRecords files paths with
  | .error reason => .failed reason
  | .ok records =>
    match format with
    | .table => inspectTable [] records
    | .json => .printed (prettyLines (recordsJson records))

end DeviceBus.Cli
