import DeviceBus.Config
import DeviceBus.Scan

/-!
# Attachment

A load gives every device of the bus its range in the device window and its interrupt lines, and
binds it to the machine.  Either all devices are attached, or none stays so.
-/

namespace DeviceBus

/-! ## Mappings -/

/-- A device as a machine sees it. -/
structure Mapping where
  device : DeviceRef
  /-- Its first absolute address; nothing for a device without an extent. -/
  base : Option Nat
  size : Nat
  /-- Its interrupt lines. -/
  lines : List Nat
  deriving DecidableEq, Repr

namespace Mapping

/-- Whether the range of a mapping has addresses in common with `start … stop`, `stop` excluded. -/
def overlaps (m : Mapping) (start stop : Nat) : Bool :=
  match m.base with
  | none => false
  | some base => start < base + m.size && base < stop

/-- How far an address lies behind the base of a mapping whose range contains it. -/
def offset? (m : Mapping) (address : Nat) : Option Nat :=
  match m.base with
  | none => none
  | some base => if base ≤ address ∧ address < base + m.size then some (address - base) else none

end Mapping

/-- The devices of a completed load, in the order of the bus. -/
structure DeviceMap where
  /-- The first address of the device window. -/
  windowStart : Nat
  /-- The first address behind it. -/
  windowEnd : Nat
  mappings : List Mapping
  deriving DecidableEq, Repr

namespace DeviceMap

/-- How many devices are mapped. -/
def size (m : DeviceMap) : Nat := m.mappings.length

/-- The mapping of a device. -/
def get? (m : DeviceMap) (id : DeviceId) : Option Mapping := m.mappings.find? (·.device.id = id)

/-- The mapping whose range contains an address, and how far in the address lies. -/
def find? (m : DeviceMap) (address : Nat) : Option (Mapping × Nat) :=
  m.mappings.findSome? fun mapping => (mapping.offset? address).map fun offset => (mapping, offset)

/-- The memory that contains an address, and how far in the address lies. -/
def memoryAt? (m : DeviceMap) (hw : Hardware) (address : Nat) : Option (Handle × Nat) :=
  match m.find? address with
  | none => none
  | some (mapping, offset) =>
    if (hw.device mapping.device.handle).hasMemory then some (mapping.device.handle, offset) else none

end DeviceMap

/-- Releases the devices of some mappings, in order. -/
def suspendAll (mappings : List Mapping) (hw : Hardware) : Hardware :=
  mappings.foldl (fun hw m => hw.suspend m.device.handle) hw

/-! ## Errors -/

/-- Why a machine halts. -/
inductive BootError where
  /-- A device refused its saved state, or to be attached. -/
  | deviceRejected (device : DeviceId) (reason : Fault)
  /-- The range of a device collides with another, or leaves the device window. -/
  | addressConflict (device : DeviceId) (base size : Nat)
  /-- A device needs more interrupt lines than are left. -/
  | interruptsExhausted (device : DeviceId) (requested : Nat)
  /-- The emulator failed. -/
  | emulation (fault : Fault)
  /-- The platform refused a thread, and says why. -/
  | io (reason : String)
  deriving DecidableEq, Repr

/-- The error in words. -/
def BootError.message : BootError → String
  | deviceRejected device reason =>
    "device " ++ device.render ++ " rejected the machine: " ++ reason.message
  | addressConflict device base size =>
    "device " ++ device.render ++ " at " ++ Text.hex base ++ "+" ++ Text.hex size ++
      " conflicts with the address space"
  | interruptsExhausted device requested =>
    "device " ++ device.render ++ " needs " ++ toString requested ++
      " interrupt line(s), not enough left"
  | emulation fault => "emulation fault: " ++ fault.message
  | io reason => reason

/-! ## Attaching -/

/-- A load under way. -/
structure AttachContext where
  windowStart : Nat
  windowEnd : Nat
  /-- Interrupt lines that no device has, in increasing order. -/
  freeLines : List Nat
  mappings : List Mapping
  deriving DecidableEq, Repr

namespace AttachContext

/-- A load before its first device. -/
def new (config : Config) : AttachContext where
  windowStart := config.mmioBase.toNat
  windowEnd := min (config.mmioBase.toNat + config.mmioSize.toNat) Scan.lastAddress
  freeLines := (List.range config.interruptLines.toNat).map (· + 1)
  mappings := []

/-- The absolute base of a range, if the range fits into the window next to the others. -/
def reserve (ctx : AttachContext) (device : DeviceId) (address size : Nat) : Except BootError Nat :=
  let base := ctx.windowStart + address
  if ctx.windowEnd < base + size ∨ ctx.mappings.any (·.overlaps base (base + size)) then
    .error (.addressConflict device (base % UInt64.size) size)
  else .ok base

/-- The absolute base of a device, if it has an address. -/
def place (ctx : AttachContext) (entry : BusDevice) (size : Nat) : Except BootError (Option Nat) :=
  match entry.address with
  | none => .ok none
  | some address => (ctx.reserve entry.id address size).map some

/-- The lowest free interrupt lines, as many as a device needs. -/
def wire (ctx : AttachContext) (entry : BusDevice) (d : Device) : Except BootError (List Nat) :=
  match d.interrupt? with
  | none => .ok []
  | some (requested, _) =>
    if ctx.freeLines.length < requested then .error (.interruptsExhausted entry.id requested)
    else .ok (ctx.freeLines.take requested)

/-- Maps, wires and binds one device.  If that fails the load is as it was. -/
def attach (ctx : AttachContext) (machine : MachineId) (idle : Bool) (entry : BusDevice)
    (hw : Hardware) : Except BootError AttachContext × Hardware :=
  let d := hw.device entry.device.handle
  match ctx.place entry d.size with
  | .error e => (.error e, hw)
  | .ok base =>
    match ctx.wire entry d with
    | .error e => (.error e, hw)
    | .ok lines =>
      match hw.attach entry.device.handle machine base lines idle with
      | (.error reason, hw) => (.error (.deviceRejected entry.id reason), hw)
      | (.ok (), hw) =>
        (.ok { ctx with
          freeLines := ctx.freeLines.drop lines.length
          mappings := ctx.mappings ++ [⟨entry.device, base, d.size, lines⟩] }, hw)

/-- The map of a load whose devices are all attached. -/
def finish (ctx : AttachContext) : DeviceMap := ⟨ctx.windowStart, ctx.windowEnd, ctx.mappings⟩

/-- Gives a load up: releases what was attached, the latest first. -/
def abort (ctx : AttachContext) (hw : Hardware) : Hardware := suspendAll ctx.mappings.reverse hw

end AttachContext

end DeviceBus
