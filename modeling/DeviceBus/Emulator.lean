import DeviceBus.Emulator.Demo
import DeviceBus.Emulator.Scripted

/-!
# Emulators

What executes a machine.  A machine owns one emulator for its whole life, and calls it only while
its worker is idle, slices of execution apart.
-/

namespace DeviceBus

/-- An instruction-set emulator. -/
inductive Emulator where
  | demo (state : DemoMachine)
  | scripted (state : ScriptedEmulator)

namespace Emulator

/-- Maps the devices of a load, in place of those of the load before. -/
def install (e : Emulator) (map : DeviceMap) (hw : Hardware) :
    Except Fault Unit × Emulator × Hardware :=
  match e with
  | demo m =>
    let (result, m, hw) := m.install map hw
    (result, demo m, hw)
  | scripted s =>
    let (result, s) := s.install map hw
    (result, scripted s, hw)

/-- Executes some cycles with the terminal for input and output. -/
def run (e : Emulator) (cycles : Nat) (t : Terminal) : SliceEnd × Emulator × Terminal :=
  match e with
  | demo m =>
    let (m, t) := m.run cycles t
    (.completed, demo m, t)
  | scripted s =>
    let (outcome, s, t) := s.run cycles t
    (outcome, scripted s, t)

/-- Returns to the state after power-on. -/
def reset : Emulator → Emulator
  | demo m => demo m.reset
  | scripted s => scripted s.reset

/-- The persisted state. -/
def save : Emulator → Bytes
  | demo m => m.save
  | scripted s => s.save

/-- Takes over a persisted state. -/
def restore (e : Emulator) (state : Bytes) : Except Fault Emulator :=
  match e with
  | demo _ => (DemoMachine.restore state).map demo
  | scripted s => (s.restore state).map scripted

end Emulator

end DeviceBus
