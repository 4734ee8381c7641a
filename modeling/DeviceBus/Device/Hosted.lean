import DeviceBus.Device.Drive

/-!
# Devices of a host

A device that a host brings along.  What a scan asks of it is fixed; everything else it does by a state
that it keeps in bytes of a form of its own.
-/

namespace DeviceBus

/-- What a device tells about its storage. -/
structure Device.Storage where
  capacity : Nat
  isReadOnly : Bool
  mediaPresent : Bool
  deriving DecidableEq, Repr

/-- What a device of a host is, and what it does by its state. -/
structure HostDevice where
  id : DeviceId
  /-- The kind of the device, in a word. -/
  kind : String
  size : Nat
  draw : Int
  /-- Whether it is mapped as memory. -/
  hasMemory : Bool
  /-- How many interrupt lines it needs; without any it is no interrupt source. -/
  lines : Nat
  /-- Whether it asserts its interrupt. -/
  raised (state : Bytes) : Bool
  acknowledge (state : Bytes) : Bytes
  readMemory (offset count : Nat) (state : Bytes) : Bytes
  writeMemory (offset : Nat) (data state : Bytes) : Bytes
  storage? (state : Bytes) : Option Device.Storage
  readStorage (offset count : Nat) (state : Bytes) : Except StorageError Bytes
  writeStorage (offset : Nat) (data state : Bytes) : Except StorageError Bytes
  /-- Why it refuses to be attached. -/
  refusal? (state : Bytes) : Option Fault
  attach (machine : MachineId) (state : Bytes) : Bytes
  suspend (state : Bytes) : Bytes
  finalize (state : Bytes) : Bytes
  save (state : Bytes) : Option Bytes
  restore (saved state : Bytes) : Except Fault Bytes
  /-- What is persisted outlasts a machine that takes the device and gives it up. -/
  attach_save (machine : MachineId) (state : Bytes) : save (attach machine state) = save state
  suspend_save (state : Bytes) : save (suspend state) = save state
  /-- What it refuses does not depend on what a load did to it. -/
  attach_refusal (machine : MachineId) (state : Bytes) : refusal? (attach machine state) = refusal? state
  attach_isOk (machine : MachineId) (saved state : Bytes) :
    (restore saved (attach machine state)).isOk = (restore saved state).isOk
  restore_refusal {saved state restored : Bytes} (h : restore saved state = .ok restored) :
    refusal? restored = refusal? state
  restore_isOk {saved state restored : Bytes} (h : restore saved state = .ok restored) (other : Bytes) :
    (restore other restored).isOk = (restore other state).isOk

/-- A device without anything of its own, which persists whatever it was given. -/
instance : Inhabited HostDevice where
  default :=
    { id := ⟨0⟩, kind := "host", size := 0, draw := 0, hasMemory := false, lines := 0
      raised := fun _ => false
      acknowledge := id
      readMemory := fun _ _ _ => []
      writeMemory := fun _ _ state => state
      storage? := fun _ => none
      readStorage := fun _ _ _ => .error .noMedium
      writeStorage := fun _ _ _ => .error .noMedium
      refusal? := fun _ => none
      attach := fun _ state => state
      suspend := id
      finalize := id
      save := some
      restore := fun saved _ => .ok saved
      attach_save := fun _ _ => rfl
      suspend_save := fun _ => rfl
      attach_refusal := fun _ _ => rfl
      attach_isOk := fun _ _ _ => rfl
      restore_refusal := fun _ => rfl
      restore_isOk := fun _ _ => rfl }

end DeviceBus
