import DeviceBus.Device.Drive
import DeviceBus.Device.Hosted
import DeviceBus.Device.Object
import DeviceBus.Device.Probe
import DeviceBus.Device.Ram

/-!
# Devices

A peripheral on a bus element.  Devices expose some of four capabilities; what a device does not
expose it answers with nothing.
-/

namespace DeviceBus

/-- What a device may expose. -/
inductive Capability where
  /-- Bytes mapped into the address space of a machine. -/
  | memoryMapped
  /-- Addressable storage. -/
  | blockStorage
  /-- Methods that a machine can call. -/
  | rpc
  /-- Interrupt lines. -/
  | interrupt
  deriving DecidableEq, Repr

namespace Capability

/-- All capabilities, in their order. -/
def all : List Capability := [memoryMapped, blockStorage, rpc, interrupt]

/-- The name of a capability. -/
def name : Capability → String
  | memoryMapped => "memory-mapped"
  | blockStorage => "block-storage"
  | rpc => "rpc"
  | interrupt => "interrupt"

end Capability

/-- A peripheral. -/
inductive Device where
  | ram (device : Ram)
  | drive (device : Drive)
  | object (device : Object)
  | probe (device : Probe)
  /-- A device with read-only storage and an interrupt that is always asserted, and nothing of its
  own besides. -/
  | bare (id : DeviceId)
  /-- A device that the host brings along. -/
  | hosted (host : HostDevice) (state : Bytes)

namespace Device

/-- The name a device answers to. -/
def id : Device → DeviceId
  | ram d => d.id
  | drive d => d.id
  | object d => d.id
  | probe d => d.id
  | bare id => id
  | hosted host _ => host.id

/-- The kind of a device, in a word. -/
def kind : Device → String
  | ram _ => "ram"
  | drive _ => "drive"
  | object _ => "object"
  | probe d => d.kind
  | bare _ => "bare"
  | hosted host _ => host.kind

/-- How many addresses a device takes up. -/
def size : Device → Nat
  | ram d => d.size
  | drive _ => Drive.registerWindow
  | object _ => 0
  | probe d => d.size
  | bare _ => 0
  | hosted host _ => host.size

/-- The energy a device draws per tick; a negative draw counts as none. -/
def draw : Device → Int
  | ram d => d.draw
  | drive _ => 0
  | object d => d.draw
  | probe d => d.draw
  | bare _ => 0
  | hosted host _ => host.draw

/-! ## Capabilities -/

/-- Whether a device is mapped as memory. -/
def hasMemory : Device → Bool
  | ram _ => true
  | probe d => d.hasMemory
  | hosted host _ => host.hasMemory
  | _ => false

/-- The storage of a device that has any. -/
def storage? : Device → Option Storage
  | drive d => some ⟨d.length, d.isReadOnly, d.medium.isSome⟩
  | bare _ => some ⟨512, true, true⟩
  | hosted host state => host.storage? state
  | _ => none

/-- The object whose methods can be called. -/
def rpc? : Device → Option Object
  | object d => some d
  | _ => none

/-- The interrupt lines a device needs, and whether it asserts its interrupt. -/
def interrupt? : Device → Option (Nat × Bool)
  | probe d => if d.lines = 0 then none else some (d.lines, d.raised)
  | bare _ => some (1, true)
  | hosted host state => if host.lines = 0 then none else some (host.lines, host.raised state)
  | _ => none

/-- Whether a device exposes a capability. -/
def supports (d : Device) : Capability → Bool
  | .memoryMapped => d.hasMemory
  | .blockStorage => d.storage?.isSome
  | .rpc => d.rpc?.isSome
  | .interrupt => d.interrupt?.isSome

/-- The capabilities a device exposes. -/
def capabilities (d : Device) : List Capability := Capability.all.filter d.supports

/-! ## Memory -/

/-- Reads mapped bytes. -/
def readMemory : Device → Nat → Nat → Bytes
  | ram d, offset, count => d.read offset count
  | probe _, offset, count => Probe.read offset count
  | hosted host state, offset, count => host.readMemory offset count state
  | _, _, _ => []

/-- Writes mapped bytes. -/
def writeMemory : Device → Nat → Bytes → Device
  | ram d, offset, data => ram (d.write offset data)
  | hosted host state, offset, data => hosted host (host.writeMemory offset data state)
  | d, _, _ => d

/-! ## Storage -/

/-- Reads from storage. -/
def readStorage : Device → Nat → Nat → Except StorageError Bytes
  | drive d, offset, count => d.readAt offset count
  | bare _, _, count => .ok (List.replicate count 0xB5)
  | hosted host state, offset, count => host.readStorage offset count state
  | _, _, _ => .error .noMedium

/-- Writes to storage. -/
def writeStorage : Device → Nat → Bytes → Except StorageError Device
  | drive d, offset, data => (d.writeAt offset data).map drive
  | bare _, _, _ => .error .fixed
  | hosted host state, offset, data => (host.writeStorage offset data state).map (hosted host)
  | _, _, _ => .error .noMedium

/-! ## Interrupts -/

/-- Clears an asserted interrupt. -/
def acknowledge : Device → Device
  | probe d => probe { d with raised := false }
  | hosted host state => hosted host (host.acknowledge state)
  | d => d

/-! ## Life cycle -/

/-- Why a device refuses to be attached. -/
def refusal? : Device → Option Fault
  | probe d => d.refusal
  | hosted host state => host.refusal? state
  | _ => none

/-- Binds a device to a machine. -/
def attach (d : Device) (machine : MachineId) : Device :=
  match d with
  | drive d => drive { d with barrier := some machine }
  | hosted host state => hosted host (host.attach machine state)
  | d => d

/-- Releases a device from its machine; persisted state stays. -/
def suspend : Device → Device
  | drive d => drive { d with barrier := none }
  | hosted host state => hosted host (host.suspend state)
  | d => d

/-- Discards state that is not persisted for good. -/
def finalize : Device → Device
  | ram d => ram d.zero
  | hosted host state => hosted host (host.finalize state)
  | d => d

/-- The persisted state of a device that has any. -/
def save : Device → Option Bytes
  | ram d => some d.save
  | drive d => d.save
  | object _ => none
  | probe d => d.state
  | bare _ => none
  | hosted host state => host.save state

/-- Takes over persisted state. -/
def restore (d : Device) (state : Bytes) : Except Fault Device :=
  match d with
  | ram d => (d.restore state).map ram
  | drive d => (d.restore state).map drive
  | probe d => (d.restore state).map probe
  | hosted host own => (host.restore state own).map (hosted host)
  | d => .ok d

/-- The machine whose worker has to be idle before the medium of a device may change. -/
def barrier? : Device → Option MachineId
  | drive d => d.barrier
  | _ => none

end Device

end DeviceBus
