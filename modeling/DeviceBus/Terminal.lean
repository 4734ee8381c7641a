import DeviceBus.Bytes

/-!
# Terminals

A terminal is four bounded buffers between a machine and its observers.  Output goes both to a
queue, taken in chunks, and to a window of the latest bytes.  Input is staged, and the machine
sees it only once it was delivered.
-/

namespace DeviceBus

/-- Sizes of a terminal's buffers, in bytes. -/
structure TerminalConfig where
  /-- Visible window. -/
  historyCapacity : UInt64 := 7680
  /-- Output accepted between two flushes. -/
  outputCapacity : UInt64 := 65536
  /-- Input accepted and not yet read. -/
  inputCapacity : UInt64 := 256
  deriving DecidableEq, Inhabited, Repr

/-- The buffers of a terminal. -/
structure Terminal where
  config : TerminalConfig
  /-- A display-only terminal accepts no input. -/
  displayOnly : Bool
  /-- Output not yet taken. -/
  pending : Bytes
  /-- The visible window. -/
  history : Bytes
  /-- Input not yet delivered. -/
  staged : Bytes
  /-- Input delivered and not yet read. -/
  input : Bytes
  deriving DecidableEq, Repr

namespace Terminal

/-- A terminal with empty buffers. -/
def new (config : TerminalConfig) : Terminal := ⟨config, false, [], [], [], []⟩

/-- An empty terminal for onlookers. -/
def onlooker (config : TerminalConfig) : Terminal := { new config with displayOnly := true }

/-- The window after more bytes: the latest `capacity` of them. -/
def extendHistory (capacity : Nat) (history chunk : Bytes) : Bytes :=
  Bytes.lastN capacity (history ++ chunk)

/-! ## Output -/

/-- How much more output fits. -/
def outputRoom (t : Terminal) : Nat := t.config.outputCapacity.toNat - t.pending.length

/-- Writes as much as fits, and returns how much that is. -/
def write (t : Terminal) (data : Bytes) : Nat × Terminal :=
  let accepted := data.take t.outputRoom
  (accepted.length,
    { t with
      pending := t.pending ++ accepted
      history := extendHistory t.config.historyCapacity.toNat t.history accepted })

/-- Takes the output written since the last call, if there is any. -/
def takeOutput (t : Terminal) : Option Bytes × Terminal :=
  if t.pending.isEmpty then (none, t) else (some t.pending, { t with pending := [] })

/-- Shows a chunk that another terminal gave out. -/
def applyOutput (t : Terminal) (chunk : Bytes) : Terminal :=
  { t with history := extendHistory t.config.historyCapacity.toNat t.history chunk }

/-- Replaces the visible window by the latest of the given bytes. -/
def restoreHistory (t : Terminal) (data : Bytes) : Terminal :=
  { t with history := extendHistory t.config.historyCapacity.toNat [] data }

/-! ## Input -/

/-- How much more input fits. -/
def inputRoom (t : Terminal) : Nat :=
  t.config.inputCapacity.toNat - (t.staged.length + t.input.length)

/-- Stages as much input as fits, and returns how much that is. -/
def sendInput (t : Terminal) (data : Bytes) : Nat × Terminal :=
  if t.displayOnly then (0, t)
  else
    let accepted := data.take t.inputRoom
    (accepted.length, { t with staged := t.staged ++ accepted })

/-- Delivers the staged input. -/
def deliverInput (t : Terminal) : Terminal :=
  { t with staged := [], input := t.input ++ t.staged }

/-- Reads one delivered byte. -/
def readInput (t : Terminal) : Option UInt8 × Terminal :=
  match t.input with
  | [] => (none, t)
  | b :: rest => (some b, { t with input := rest })

/-- Reads all delivered input. -/
def readAllInput (t : Terminal) : Bytes × Terminal := (t.input, { t with input := [] })

/-! ## Both -/

/-- Empties every buffer. -/
def reset (t : Terminal) : Terminal :=
  { t with pending := [], history := [], staged := [], input := [] }

/-- Makes the terminal accept input or not. -/
def setDisplayOnly (t : Terminal) (value : Bool) : Terminal := { t with displayOnly := value }

/-! ## Calls -/

/-- A call on a terminal, from either side. -/
inductive Call where
  | write (data : Bytes)
  | sendInput (data : Bytes)
  | deliverInput
  | readInput
  | takeOutput
  | applyOutput (chunk : Bytes)
  | restoreHistory (data : Bytes)
  | reset
  | setDisplayOnly (value : Bool)
  deriving DecidableEq, Repr

/-- What a call returns. -/
inductive Reply where
  | done
  /-- How many bytes were accepted. -/
  | accepted (count : Nat)
  /-- The byte read, if there was one. -/
  | byte (b : Option UInt8)
  /-- The chunk taken, if there was output. -/
  | chunk (data : Option Bytes)
  deriving DecidableEq, Repr

/-- The reply to a call, and the terminal after it. -/
def perform (t : Terminal) : Call → Reply × Terminal
  | .write data => let (n, t) := t.write data; (.accepted n, t)
  | .sendInput data => let (n, t) := t.sendInput data; (.accepted n, t)
  | .deliverInput => (.done, t.deliverInput)
  | .readInput => let (b, t) := t.readInput; (.byte b, t)
  | .takeOutput => let (chunk, t) := t.takeOutput; (.chunk chunk, t)
  | .applyOutput chunk => (.done, t.applyOutput chunk)
  | .restoreHistory data => (.done, t.restoreHistory data)
  | .reset => (.done, t.reset)
  | .setDisplayOnly value => (.done, t.setDisplayOnly value)

end Terminal

end DeviceBus
