import DeviceBus.Ident
import DeviceBus.Bytes
import DeviceBus.Json.Decode
import DeviceBus.Json.Parser
import DeviceBus.Json.Printer

/-!
# Records

The persisted state of a machine and its JSON form.  A record is read section by section: one that
cannot be read is empty, and the others are read all the same.
-/

namespace DeviceBus

/-- The persisted state of a machine. -/
structure Record where
  /-- The elements of its bus, in order. -/
  elements : List ElementId
  /-- The persisted states of devices. -/
  devices : Table DeviceId Bytes
  /-- The number of its run state. -/
  runState : UInt8
  /-- The number of its bus state. -/
  busState : UInt8
  bootError : Option String
  /-- The visible window of its terminal. -/
  terminal : Bytes
  /-- The persisted state of its emulator. -/
  emulation : Bytes
  deriving DecidableEq, Repr

namespace Record

/-- The record of nothing. -/
def empty : Record := ⟨[], .empty, 0, 0, none, [], []⟩

instance : Inhabited Record := ⟨empty⟩

/-! ## Writing -/

/-- The states of devices under their names, in order. -/
def devicesToJson (devices : Table DeviceId Bytes) : Json :=
  .object (devices.entries.map fun e => (Json.decimal e.1.value.toNat, .ofBytes e.2))

/-- A record as a document. -/
def toJson (r : Record) : Json := .ofFields [
  ("elements", .array (r.elements.map fun id => .ofNat id.value.toNat)),
  ("devices", devicesToJson r.devices),
  ("run_state", .ofNat r.runState.toNat),
  ("bus_state", .ofNat r.busState.toNat),
  ("boot_error", .ofOption .ofText r.bootError),
  ("terminal", .ofBytes r.terminal),
  ("emulation", .ofBytes r.emulation)]

/-- The bytes of a record file. -/
def encode (r : Record) : Bytes := r.toJson.pretty 0

/-! ## Reading -/

/-- The name of an element. -/
def elementId? (j : Json) : Option ElementId := (Json.word64? j).map ElementId.mk

/-- Whether a key is written as numbers are: in digits, without a zero in front. -/
def isDecimal (key : Bytes) : Bool :=
  match key with
  | [] => false
  | [b] => 0x30 ≤ b && b ≤ 0x39
  | b :: rest => 0x31 ≤ b && b ≤ 0x39 && rest.all fun b => 0x30 ≤ b && b ≤ 0x39

/-- The device that a key names. -/
def deviceId? (key : Bytes) : Option DeviceId :=
  if isDecimal key then
    let n := key.foldl (fun n b => 10 * n + (b.toNat - 0x30)) 0
    if n < UInt64.size then some ⟨UInt64.ofNat n⟩ else none
  else none

/-- The state of one device. -/
def deviceState? (field : Bytes × Json) : Option (DeviceId × Bytes) := do
  return (← deviceId? field.1, ← Json.bytes? field.2)

/-- The states of devices, if every key names a device and every state is a list of bytes. -/
def devices? : Json → Option (Table DeviceId Bytes)
  | .object fields => ((Json.lastFields fields).mapM deviceState?).map .ofList
  | _ => none

/-- The value of a section, the last one given; `missing` if there is none that can be read. -/
def readSection {α : Type} (fields : List (Bytes × Json)) (key : String) (missing : α)
    (read : Json → Option α) : α :=
  match fields.reverse.lookup (Bytes.ofText key) with
  | none => missing
  | some j => (read j).getD missing

/-- The record of an object's fields. -/
def ofFields (fields : List (Bytes × Json)) : Record where
  elements := readSection fields "elements" [] (Json.list? elementId?)
  devices := readSection fields "devices" .empty devices?
  runState := readSection fields "run_state" 0 Json.byte?
  busState := readSection fields "bus_state" 0 Json.byte?
  bootError := readSection fields "boot_error" none (Json.option? Json.text?)
  terminal := readSection fields "terminal" [] Json.bytes?
  emulation := readSection fields "emulation" [] Json.bytes?

/-- How deep a record file may nest. -/
def maxDepth : Nat := 127

/-- The record in a file; the empty one if the file holds no object. -/
def decode (file : Bytes) : Record :=
  match Json.parse? file with
  | some (.object fields) =>
    if (Json.object fields).isRegular maxDepth then ofFields fields else empty
  | _ => empty

end Record

end DeviceBus
