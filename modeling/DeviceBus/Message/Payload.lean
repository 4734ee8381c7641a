import DeviceBus.Message

/-!
# Payloads

The binary form of messages.  Numbers are written in base 128, lowest digit first, with a mark on
every byte but the last.  Texts and byte strings follow their length, an optional value follows the
byte 1, and each kind of update has a number of its own.
-/

namespace DeviceBus.Payload

/-- Reads one value from the front and returns it with the bytes after it. -/
abbrev Reader (α : Type) := Bytes → Option (α × Bytes)

/-! ## Numbers -/

/-- The digits of a number in base 128, at most `more + 1` of them. -/
def writeDigits : Nat → Nat → Bytes
  | 0, n => [UInt8.ofNat (n % 128)]
  | more + 1, n =>
    if n < 128 then [UInt8.ofNat n] else UInt8.ofNat (n % 128 + 128) :: writeDigits more (n / 128)

/-- A number below `2 ^ 64`. -/
def writeNat (n : Nat) : Bytes := writeDigits 9 n

/-- Reads a number of at most so many bytes; a byte in the last place may not pass `last`.  The form
need not be the shortest. -/
def readDigits (last : Nat) : Nat → Reader Nat
  | 0, _ => none
  | _ + 1, [] => none
  | more + 1, b :: rest =>
    if b < 128 then if more = 0 ∧ last < b.toNat then none else some (b.toNat, rest)
    else (readDigits last more rest).map fun p => (b.toNat % 128 + 128 * p.1, p.2)

/-- A number of 32 bits. -/
def readNat32 : Reader Nat := readDigits 15 5

/-- A number of 64 bits. -/
def readNat64 : Reader Nat := readDigits 1 10

/-! ## Values -/

/-- A truth value. -/
def writeBool (b : Bool) : Bytes := [if b then 1 else 0]

/-- A truth value; only 0 and 1 stand for one. -/
def readBool : Reader Bool
  | 0 :: rest => some (false, rest)
  | 1 :: rest => some (true, rest)
  | _ => none

/-- A byte string, after its length. -/
def writeBytes (bs : Bytes) : Bytes := writeNat bs.length ++ bs

/-- A byte string, after its length. -/
def readBytes : Reader Bytes := fun input => do
  let (n, rest) ← readNat64 input
  if rest.length < n then none else some (rest.take n, rest.drop n)

/-- A text. -/
def writeText (s : String) : Bytes := writeBytes (Bytes.ofText s)

/-- A text. -/
def readText : Reader String := fun input => do
  let (bs, rest) ← readBytes input
  let s ← Bytes.text? bs
  return (s, rest)

/-- A text that may be missing. -/
def writeOptionalText : Option String → Bytes
  | none => [0]
  | some s => 1 :: writeText s

/-- A text that may be missing. -/
def readOptionalText : Reader (Option String)
  | 0 :: rest => some (none, rest)
  | 1 :: rest => (readText rest).map fun p => (some p.1, p.2)
  | _ => none

/-- A run state. -/
def writeRunState (s : RunState) : Bytes := writeNat s.ordinal

/-- A run state. -/
def readRunState : Reader RunState := fun input => do
  let (n, rest) ← readNat32 input
  let s ← RunState.ofOrdinal? n
  return (s, rest)

/-- A bus state. -/
def writeBusState (s : BusState) : Bytes := writeNat s.ordinal

/-- A bus state. -/
def readBusState : Reader BusState := fun input => do
  let (n, rest) ← readNat32 input
  let s ← BusState.ofOrdinal? n
  return (s, rest)

/-- A device name. -/
def writeDeviceId (id : DeviceId) : Bytes := writeNat id.value.toNat

/-- A device name. -/
def readDeviceId : Reader DeviceId := fun input => do
  let (n, rest) ← readNat64 input
  return (⟨UInt64.ofNat n⟩, rest)

/-! ## Messages -/

/-- An update: the number of its kind, then what it carries. -/
def writeUpdate : Update → Bytes
  | .busState state => writeNat 0 ++ writeBusState state
  | .runState state => writeNat 1 ++ writeRunState state
  | .bootError error => writeNat 2 ++ writeOptionalText error
  | .terminalOutput chunk => writeNat 3 ++ writeBytes chunk
  | .terminalReset => writeNat 4
  | .mediaChanged device present => writeNat 5 ++ writeDeviceId device ++ writeBool present

/-- An update. -/
def readUpdate : Reader Update := fun input => do
  let (kind, rest) ← readNat32 input
  match kind with
  | 0 => (readBusState rest).map fun p => (.busState p.1, p.2)
  | 1 => (readRunState rest).map fun p => (.runState p.1, p.2)
  | 2 => (readOptionalText rest).map fun p => (.bootError p.1, p.2)
  | 3 => (readBytes rest).map fun p => (.terminalOutput p.1, p.2)
  | 4 => some (.terminalReset, rest)
  | 5 => do
    let (device, rest) ← readDeviceId rest
    let (present, rest) ← readBool rest
    return (.mediaChanged device present, rest)
  | _ => none

/-- A snapshot: its parts in order. -/
def writeSnapshot (s : Snapshot) : Bytes :=
  writeRunState s.runState ++ writeBusState s.busState ++ writeOptionalText s.bootError ++
    writeBytes s.terminal

/-- A snapshot. -/
def readSnapshot : Reader Snapshot := fun input => do
  let (runState, rest) ← readRunState input
  let (busState, rest) ← readBusState rest
  let (bootError, rest) ← readOptionalText rest
  let (terminal, rest) ← readBytes rest
  return (⟨runState, busState, bootError, terminal⟩, rest)

end DeviceBus.Payload
