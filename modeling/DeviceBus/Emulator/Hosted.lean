import DeviceBus.Attach
import DeviceBus.Terminal

/-!
# Emulators of a host

What an emulator that a host brings along may do.  It keeps a state in bytes of a form of its own, may do
anything with it, may look at the devices it is given, and may write to the terminal and read from it while
it runs.
-/

namespace DeviceBus

/-- What an emulator does with its terminal while it runs. -/
inductive ConsoleCall where
  | write (data : Bytes)
  | readInput
  | readAllInput
  deriving DecidableEq, Repr

namespace Terminal

/-- One call of an emulator. -/
def serve (t : Terminal) : ConsoleCall → Terminal
  | .write data => (t.write data).2
  | .readInput => t.readInput.2
  | .readAllInput => t.readAllInput.2

/-- The calls of an emulator, one after the other. -/
def serveAll (t : Terminal) (calls : List ConsoleCall) : Terminal := calls.foldl serve t

end Terminal

/-- What an emulator of a host does, by its state. -/
structure HostEmulator where
  /-- Takes the devices of a load, or says why not. -/
  install (map : DeviceMap) (hw : Hardware) (state : Bytes) : Except Fault Unit × Bytes
  /-- Executes some cycles.  The calls may depend on what the terminal holds. -/
  run (cycles : Nat) (t : Terminal) (state : Bytes) : SliceEnd × Bytes × List ConsoleCall
  reset (state : Bytes) : Bytes
  save (state : Bytes) : Bytes
  restore (saved state : Bytes) : Except Fault Bytes
  /-- What is saved is not empty: in a record an empty state stands for none. -/
  save_ne_nil (state : Bytes) : save state ≠ []
  /-- What was saved is taken over, and saved back unchanged. -/
  restore_save (saved state : Bytes) :
    ∃ restored, restore (save saved) state = .ok restored ∧ save restored = save saved

/-- An emulator that leaves everything as it is, and saves its state behind a byte. -/
instance : Inhabited HostEmulator where
  default :=
    { install := fun _ _ state => (.ok (), state)
      run := fun _ _ state => (.completed, state, [])
      reset := id
      save := fun state => 0 :: state
      restore := fun saved _ => .ok saved.tail
      save_ne_nil := fun _ => List.cons_ne_nil _ _
      restore_save := fun saved _ => ⟨saved, rfl, rfl⟩ }

end DeviceBus
