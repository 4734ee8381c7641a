import DeviceBus.Device
import DeviceBus.Element

/-!
# Hardware

All device objects, and the journal of what was asked of devices, providers and emulators.  Devices
are shared: an element and a machine hold handles, and every call goes through here.
-/

namespace DeviceBus

/-! ## Journal -/

/-- A call that a device received. -/
inductive DeviceCall where
  /-- Bound to a machine, at an address and with interrupt lines; `idle` tells whether the worker of
  the machine was idle. -/
  | attach (machine : MachineId) (base : Option Nat) (lines : List Nat) (idle : Bool)
  /-- Asked to bind itself to a machine, and refused. -/
  | refuse (machine : MachineId)
  | suspend
  | finalize
  | save
  | restore (state : Bytes) (accepted : Bool)
  | readMemory (offset count : Nat)
  | writeMemory (offset : Nat) (data : Bytes)
  deriving DecidableEq, Repr

/-- How a slice of emulation ended. -/
inductive SliceEnd where
  | completed
  | faulted (fault : Fault)
  | panicked
  deriving DecidableEq, Repr

/-- A call that an emulator received. -/
inductive EmulatorCall where
  /-- Given the devices of a load. -/
  | install (devices : List DeviceId) (accepted : Bool)
  /-- Run for some cycles; it read `input` and the terminal took `output` bytes. -/
  | run (cycles : Nat) (outcome : SliceEnd) (input : Bytes) (output : Nat)
  | reset
  | save
  | restore (state : Bytes) (accepted : Bool)
  | releaseScratch
  deriving DecidableEq, Repr

/-- A call of the journal. -/
inductive Event where
  | device (handle : Handle) (call : DeviceCall)
  | emulator (machine : MachineId) (call : EmulatorCall)
  /-- A provider was asked for the devices at an element, entered through a side. -/
  | query (element : ElementId) (entry : Option Side)
  deriving DecidableEq, Repr

/-! ## Devices -/

/-- All device objects and the journal. -/
structure Hardware where
  devices : List Device
  /-- The calls, the latest first. -/
  journal : List Event

namespace Hardware

/-- No devices, no calls. -/
def empty : Hardware := ⟨[], []⟩

instance : Inhabited Hardware := ⟨empty⟩

/-- Writes a call into the journal. -/
def record (hw : Hardware) (e : Event) : Hardware := { hw with journal := e :: hw.journal }

/-- Adds a device object. -/
def build (hw : Hardware) (d : Device) : DeviceRef × Hardware :=
  (⟨⟨hw.devices.length⟩, d.id⟩, { hw with devices := hw.devices ++ [d] })

/-- The device object of a handle. -/
def device (hw : Hardware) (h : Handle) : Device := hw.devices.getD h.index (.bare ⟨0⟩)

/-- Replaces a device object. -/
def update (hw : Hardware) (h : Handle) (d : Device) : Hardware :=
  { hw with devices := hw.devices.set h.index d }

/-- The device built last under a name. -/
def latest? (hw : Hardware) (id : DeviceId) : Option DeviceRef :=
  (hw.devices.zipIdx.reverse.find? fun p => p.1.id = id).map fun p => ⟨⟨p.2⟩, id⟩

/-! ## Calls -/

/-- Binds a device to a machine, unless it refuses. -/
def attach (hw : Hardware) (h : Handle) (machine : MachineId) (base : Option Nat) (lines : List Nat)
    (idle : Bool) : Except Fault Unit × Hardware :=
  match (hw.device h).refusal? with
  | some fault => (.error fault, hw.record (.device h (.refuse machine)))
  | none =>
    (.ok (), (hw.record (.device h (.attach machine base lines idle))).update h
      ((hw.device h).attach machine))

/-- Releases a device from its machine. -/
def suspend (hw : Hardware) (h : Handle) : Hardware :=
  (hw.record (.device h .suspend)).update h (hw.device h).suspend

/-- Discards the state of a device that is not persisted. -/
def finalize (hw : Hardware) (h : Handle) : Hardware :=
  (hw.record (.device h .finalize)).update h (hw.device h).finalize

/-- The persisted state of a device. -/
def save (hw : Hardware) (h : Handle) : Option Bytes × Hardware :=
  ((hw.device h).save, hw.record (.device h .save))

/-- Gives a device persisted state. -/
def restore (hw : Hardware) (h : Handle) (state : Bytes) : Except Fault Unit × Hardware :=
  match (hw.device h).restore state with
  | .ok d => (.ok (), (hw.record (.device h (.restore state true))).update h d)
  | .error fault => (.error fault, hw.record (.device h (.restore state false)))

/-- Reads mapped bytes of a device. -/
def readMemory (hw : Hardware) (h : Handle) (offset count : Nat) : Bytes × Hardware :=
  ((hw.device h).readMemory offset count, hw.record (.device h (.readMemory offset count)))

/-- Writes mapped bytes of a device. -/
def writeMemory (hw : Hardware) (h : Handle) (offset : Nat) (data : Bytes) : Hardware :=
  (hw.record (.device h (.writeMemory offset data))).update h ((hw.device h).writeMemory offset data)

end Hardware

end DeviceBus
