import DeviceBus.Bytes
import DeviceBus.Ident

/-!
# Probes

A probe is a device whose every answer is set beforehand, one field for each, and may be set anew at any
time.  It shows which calls reach it.
-/

namespace DeviceBus

/-- A device that answers as it is told. -/
structure Probe where
  id : DeviceId
  kind : String
  size : Nat
  draw : Int
  /-- Whether it is mapped as memory. -/
  hasMemory : Bool
  /-- How many interrupt lines it needs; without any it is no interrupt source. -/
  lines : Nat
  /-- Whether it asserts its interrupt. -/
  raised : Bool
  /-- Why it refuses to be attached. -/
  refusal : Option Fault
  /-- Why it refuses saved state. -/
  restoreRefusal : Option Fault
  /-- Its persisted state. -/
  state : Option Bytes
  deriving DecidableEq, Repr

namespace Probe

/-- Memory reads give the low byte of each offset. -/
def read (offset count : Nat) : Bytes := (List.range count).map fun i => UInt8.ofNat (offset + i)

/-- Takes over saved state, unless it refuses it. -/
def restore (p : Probe) (state : Bytes) : Except Fault Probe :=
  match p.restoreRefusal with
  | some fault => .error fault
  | none => .ok { p with state := some state }

end Probe

end DeviceBus
