import DeviceBus.Table

/-!
# Identities

The names of elements, devices, controllers and machines, the handles of device objects, and the
faults that devices, providers and emulators report.
-/

namespace DeviceBus

/-- Name of a bus element, given by the host. -/
structure ElementId where
  value : UInt64
  deriving DecidableEq, Inhabited, Repr

/-- Name of a device, kept for as long as the device exists. -/
structure DeviceId where
  value : UInt64
  deriving DecidableEq, Inhabited, Repr

/-- Name of a registered controller.  No two registrations share one. -/
structure ControllerId where
  serial : Nat
  deriving DecidableEq, Inhabited, Repr

/-- Name of a machine: its position among the machines built. -/
structure MachineId where
  index : Nat
  deriving DecidableEq, Inhabited, Repr

/-- A device object.  Two objects may carry the same `DeviceId`. -/
structure Handle where
  index : Nat
  deriving DecidableEq, Inhabited, Repr

/-- A device object together with the name it answers to. -/
structure DeviceRef where
  handle : Handle
  id : DeviceId
  deriving DecidableEq, Inhabited, Repr

/-- A failure that a device, a provider or an emulator reports in words. -/
structure Fault where
  message : String
  deriving DecidableEq, Inhabited, Repr

theorem ElementId.toNat_inj {a b : ElementId} (h : a.value.toNat = b.value.toNat) : a = b := by
  cases a; cases b; simpa [UInt64.toNat_inj] using h

theorem DeviceId.toNat_inj {a b : DeviceId} (h : a.value.toNat = b.value.toNat) : a = b := by
  cases a; cases b; simpa [UInt64.toNat_inj] using h

instance : Key ElementId := ⟨fun id => id.value.toNat, ElementId.toNat_inj⟩

instance : Key DeviceId := ⟨fun id => id.value.toNat, DeviceId.toNat_inj⟩

instance : Key ControllerId := ⟨ControllerId.serial, by rintro ⟨a⟩ ⟨b⟩ h; simpa using h⟩

/-- Elements are shown as `#7`. -/
def ElementId.render (id : ElementId) : String := "#" ++ toString id.value.toNat

/-- Devices are shown as `dev:1f`, in base sixteen. -/
def DeviceId.render (id : DeviceId) : String :=
  "dev:" ++ String.ofList (Nat.toDigits 16 id.value.toNat)

/-- Controllers are shown as `ctl:3`. -/
def ControllerId.render (id : ControllerId) : String := "ctl:" ++ toString id.serial

end DeviceBus
