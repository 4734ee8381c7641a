import DeviceBus.Bytes
import DeviceBus.Ident

/-!
# Messages to observers

The states a machine and its bus can be in, the updates published to observers, and the snapshot
an observer starts from.
-/

namespace DeviceBus

/-! ## States -/

/-- Execution status of a machine. -/
inductive RunState where
  /-- Not running. -/
  | stopped
  /-- Waiting for the bus, or loading the devices. -/
  | loading
  /-- Devices loaded; the emulation advances each tick. -/
  | running
  /-- The worker is being cancelled. -/
  | stopping
  /-- Halted by a boot or emulation fault. -/
  | error
  deriving DecidableEq, Inhabited, Repr

/-- Readiness of the bus that feeds a machine. -/
inductive BusState where
  /-- A scan is pending or was deferred. -/
  | scanning
  /-- The last scan completed. -/
  | ready
  /-- The last scan failed, or another controller claimed the bus. -/
  | error
  deriving DecidableEq, Inhabited, Repr

namespace RunState

/-- The number that stands for a run state in records and frames. -/
def ordinal : RunState → Nat
  | stopped => 0
  | loading => 1
  | running => 2
  | stopping => 3
  | error => 4

/-- The run state that a number stands for. -/
def ofOrdinal? : Nat → Option RunState
  | 0 => some stopped
  | 1 => some loading
  | 2 => some running
  | 3 => some stopping
  | 4 => some error
  | _ => none

/-- The name of a run state. -/
def name : RunState → String
  | stopped => "Stopped"
  | loading => "Loading"
  | running => "Running"
  | stopping => "Stopping"
  | error => "Error"

@[simp] theorem ofOrdinal?_ordinal (s : RunState) : ofOrdinal? s.ordinal = some s := by
  cases s <;> rfl

theorem ofOrdinal?_eq_some_iff {n : Nat} {s : RunState} : ofOrdinal? n = some s ↔ n = s.ordinal := by
  constructor
  · intro h
    unfold ofOrdinal? at h
    split at h <;> cases h <;> rfl
  · rintro rfl
    exact ofOrdinal?_ordinal s

end RunState

namespace BusState

/-- The number that stands for a bus state in records and frames. -/
def ordinal : BusState → Nat
  | scanning => 0
  | ready => 1
  | error => 2

/-- The bus state that a number stands for. -/
def ofOrdinal? : Nat → Option BusState
  | 0 => some scanning
  | 1 => some ready
  | 2 => some error
  | _ => none

/-- The name of a bus state. -/
def name : BusState → String
  | scanning => "Scanning"
  | ready => "Ready"
  | error => "Error"

@[simp] theorem ofOrdinal?_ordinal (s : BusState) : ofOrdinal? s.ordinal = some s := by
  cases s <;> rfl

theorem ofOrdinal?_eq_some_iff {n : Nat} {s : BusState} : ofOrdinal? n = some s ↔ n = s.ordinal := by
  constructor
  · intro h
    unfold ofOrdinal? at h
    split at h <;> cases h <;> rfl
  · rintro rfl
    exact ofOrdinal?_ordinal s

end BusState

/-! ## Updates and snapshots -/

/-- A notification to every observer that tracks a machine. -/
inductive Update where
  /-- The bus state changed. -/
  | busState (state : BusState)
  /-- The run state changed. -/
  | runState (state : RunState)
  /-- The boot error was set or cleared. -/
  | bootError (error : Option String)
  /-- Terminal output since the previous chunk. -/
  | terminalOutput (chunk : Bytes)
  /-- The terminal was reset. -/
  | terminalReset
  /-- A medium went into or came out of a device. -/
  | mediaChanged (device : DeviceId) (present : Bool)
  deriving DecidableEq, Repr

/-- What an observer is given when it starts to track a machine. -/
structure Snapshot where
  runState : RunState
  busState : BusState
  bootError : Option String
  /-- The visible window of the terminal. -/
  terminal : Bytes
  deriving DecidableEq, Repr

/-! ## Sinks -/

/-- Where a machine publishes its updates. -/
inductive Sink where
  /-- Keeps the updates, oldest first, until they are drained. -/
  | queue (waiting : List Update)
  /-- Drops every update. -/
  | discard
  deriving DecidableEq, Repr

namespace Sink

/-- Delivers one update. -/
def publish : Sink → Update → Sink
  | queue waiting, u => queue (waiting ++ [u])
  | discard, _ => discard

/-- The updates that wait, and the sink without them. -/
def drain : Sink → List Update × Sink
  | queue waiting => (waiting, queue [])
  | discard => ([], discard)

end Sink

end DeviceBus
