import DeviceBus.Proofs.Machine.Course
import DeviceBus.Proofs.Mirror
import DeviceBus.Proofs.Record

/-!
# A record outlives its machine

The record of a machine, written to a file, read back and taken over by a new machine of the same
settings and the same type of emulator, makes a machine that looks the same and has the same record
(`World.record_persists`).  The new machine may stand on any bus, next to anything.

Seven parts come back.  Members, device states and boot error are taken over as they are.  The two
states come back from their numbers, as no machine is recorded in `stopping`.  The window of the
terminal comes back whole, as it was never larger than it may be, and the emulator saves what it was
given.
-/

namespace DeviceBus

/-! ## Emulators -/

/-- The types of emulators. -/
inductive EmulatorType where
  | demo
  | scripted (host : Option HostEmulator)

namespace Emulator

/-- The type of an emulator. -/
def type : Emulator → EmulatorType
  | demo _ => .demo
  | scripted s => .scripted (s.host.map Prod.fst)

instance (e : Emulator) : Decidable (e.type = .demo) :=
  match e with
  | demo _ => isTrue rfl
  | scripted _ => isFalse EmulatorType.noConfusion

theorem run_type (e : Emulator) (cycles : Nat) (t : Terminal) : (e.run cycles t).2.1.type = e.type := by
  cases e with
  | demo m => rfl
  | scripted s =>
    refine congrArg EmulatorType.scripted ?_
    show (s.run cycles t).2.1.host.map Prod.fst = _
    unfold ScriptedEmulator.run
    split
    · next host state hhost =>
      rw [hhost]
      rfl
    · unfold ScriptedEmulator.runSettings
      split
      · split <;> rfl
      · split <;> rfl

/-- An emulator takes over what another one of its type saved, and saves it unchanged. -/
theorem restore_save {e e' : Emulator} (h : e'.type = e.type) :
    ∃ restored, e'.restore e.save = .ok restored ∧ restored.save = e.save := by
  cases e with
  | demo m =>
    cases e' with
    | demo m' =>
      refine ⟨demo m, ?_, rfl⟩
      show (DemoMachine.restore m.save).map demo = _
      rw [m.restore_save]
      rfl
    | scripted s' => cases h
  | scripted s =>
    cases e' with
    | demo m' => cases h
    | scripted s' =>
      obtain ⟨restored, hrestore, hsave⟩ := ScriptedEmulator.restore_save (EmulatorType.scripted.inj h)
      refine ⟨scripted restored, ?_, hsave⟩
      show (s'.restore s.save).map scripted = _
      rw [hrestore]
      rfl

theorem save_ne_nil (e : Emulator) : e.save ≠ [] := by
  cases e with
  | demo m =>
    show Json.compact (.ofFields _) ≠ []
    rw [Json.ofFields, Json.compact_object]
    simp
  | scripted s => exact s.save_ne_nil

end Emulator

namespace Machine

/-- A worker runs the emulator, and never replaces it by one of another type. -/
theorem quiesce_type (m : Machine) (hw : Hardware) :
    (m.quiesce hw).1.emulator.type = m.emulator.type := by
  have hcarries : Worker.Carries (runSlice m.id)
      fun g g' => g'.emulator.type = g.emulator.type :=
    { refl := fun _ => rfl
      trans := fun h₁ h₂ => h₂.trans h₁
      slice := fun cycles g => g.emulator.run_type cycles g.terminal }
  exact Worker.quiesce_carries hcarries m.worker ⟨m.emulator, m.terminal, hw⟩

/-! ## Writing and reading a record -/

/-- The record of a machine whose worker is idle, with these states of devices. -/
def recordWith (m : Machine) (devices : Table DeviceId Bytes) : Record where
  elements := m.controller.members
  devices := devices
  runState := UInt8.ofNat m.runState.ordinal
  busState := UInt8.ofNat m.busState.ordinal
  bootError := m.bootError
  terminal := m.terminal.history
  emulation := m.emulator.save

theorem saveRecord_eq (m : Machine) (hw : Hardware) :
    ∃ devices, (m.saveRecord hw).1 = (m.saveRecord hw).2.1.recordWith devices := ⟨_, rfl⟩

/-- A machine that was built and not used yet. -/
structure Fresh (m : Machine) : Prop where
  idle : m.worker.activity = .idle
  fault : m.worker.fault = none
  map : m.map = none
  devices : m.controller.devices = []

theorem build_fresh (id : MachineId) (root : ElementId) (emulator : Emulator) (config : Config)
    (sink : Sink) (t : Topology) : (build id root emulator config sink t).1.Fresh :=
  ⟨rfl, rfl, rfl, rfl⟩

theorem quiesce_of_idle {m : Machine} (h : m.worker.activity = .idle) (hw : Hardware) :
    m.quiesce hw = (m, hw) := by
  have hworker : ∀ g, Worker.quiesce (runSlice m.id) m.worker g = (m.worker, g) := by
    intro g
    simp [Worker.quiesce, Worker.progress, Worker.begin, Worker.slicesLeft, h, Worker.runSlices]
  rw [quiesce, stepWorker, hworker]

theorem Fresh.cancel {m : Machine} (h : m.Fresh) (hw : Hardware) : m.cancel hw = (m, hw) := by
  have htaken : m.worker.takeFault.2 = m.worker := by
    show { m.worker with fault := none } = m.worker
    rw [← h.fault]
  have hworker : ∀ g, Worker.cancel (runSlice m.id) m.worker g = (m.worker, g) := by
    intro g
    simp [Worker.cancel, Worker.stopSlices, Worker.runSlice, Worker.drop, h.idle, htaken]
  rw [Machine.cancel, stepWorker, hworker]

/-- A new machine takes a record over, with the emulator that its state restores. -/
theorem Fresh.loadRecord {m : Machine} (h : m.Fresh) {r : Record} (hne : r.emulation ≠ [])
    {emulator : Emulator} (hrestore : m.emulator.restore r.emulation = .ok emulator) (hw : Hardware) :
    (m.loadRecord r hw).1 = { m.adoptRecord r with emulator } := by
  have hrelease : m.releaseDevices hw = (m, hw) := by
    unfold releaseDevices
    rw [h.map]
  have hempty : r.emulation.isEmpty = false := by
    rw [List.isEmpty_eq_false_iff]
    exact hne
  have hrestored : (m.adoptRecord r).emulator.restore r.emulation = .ok emulator := hrestore
  unfold Machine.loadRecord restoreEmulator
  simp only [h.cancel, hrelease, hempty, hrestored]
  rfl

theorem recordedRunState_recordWith {m : Machine} (h : m.runState ≠ .stopping)
    (devices : Table DeviceId Bytes) : recordedRunState (m.recordWith devices) = m.runState := by
  unfold recordedRunState
  rw [show (m.recordWith devices).runState = UInt8.ofNat m.runState.ordinal from rfl]
  cases hrun : m.runState with
  | stopping => exact absurd hrun h
  | _ => rfl

theorem recordedBusState_recordWith (m : Machine) (devices : Table DeviceId Bytes) :
    recordedBusState (m.recordWith devices) = m.busState := by
  show (BusState.ofOrdinal? (UInt8.ofNat m.busState.ordinal).toNat).getD .scanning = _
  cases m.busState <;> rfl

/-- What a new machine took over of another one it shows and records again. -/
theorem Fresh.takes_over {fresh m : Machine} (h : fresh.Fresh) (hpoised : m.runState ≠ .stopping)
    (hfits : m.terminal.Fits fresh.terminal.config) (htype : fresh.emulator.type = m.emulator.type)
    (devices : Table DeviceId Bytes) (hw : Hardware) :
    let loaded := fresh.loadRecord (m.recordWith devices) hw
    loaded.1.snapshot = m.snapshot ∧
      (loaded.1.saveRecord loaded.2).1 = m.recordWith devices ∧
      (loaded.1.saveRecord loaded.2).2.1.snapshot = m.snapshot := by
  intro loaded
  obtain ⟨restored, hrestore, hsave⟩ := Emulator.restore_save htype
  have hloaded : loaded.1 = { fresh.adoptRecord (m.recordWith devices) with emulator := restored } :=
    h.loadRecord m.emulator.save_ne_nil hrestore hw
  have hidle : loaded.1.worker.activity = .idle := by
    rw [hloaded]
    exact h.idle
  have hhistory : (fresh.terminal.restoreHistory m.terminal.history).history = m.terminal.history :=
    Bytes.lastN_of_length_le hfits.history
  have hsnapshot : loaded.1.snapshot = m.snapshot := by
    rw [hloaded]
    show Snapshot.mk (recordedRunState (m.recordWith devices))
      (recordedBusState (m.recordWith devices)) m.bootError
      (fresh.terminal.restoreHistory m.terminal.history).history = _
    rw [recordedRunState_recordWith hpoised, recordedBusState_recordWith, hhistory]
    rfl
  have hwait := quiesce_of_idle hidle loaded.2
  have hrecord : (loaded.1.saveRecord loaded.2).1 = loaded.1.recordWith devices := by
    have hdevices : loaded.1.controller.devices = [] := by
      rw [hloaded]
      exact h.devices
    have hpending : loaded.1.pendingStates = devices := by
      rw [hloaded]
      rfl
    unfold saveRecord
    simp only [hwait, hdevices, hpending, List.foldl_nil]
    rfl
  refine ⟨hsnapshot, ?_, ?_⟩
  · have hstates : loaded.1.runState = m.runState ∧ loaded.1.busState = m.busState ∧
        loaded.1.bootError = m.bootError ∧ loaded.1.terminal.history = m.terminal.history := by
      simpa [snapshot] using hsnapshot
    have hmembers : loaded.1.controller.members = m.controller.members := by
      rw [hloaded]
      rfl
    have hemulation : loaded.1.emulator.save = m.emulator.save := by
      rw [hloaded]
      exact hsave
    rw [hrecord]
    simp only [recordWith, hstates, hmembers, hemulation]
  · show (loaded.1.quiesce loaded.2).1.snapshot = _
    rw [hwait]
    exact hsnapshot

end Machine

/-! ## Any run -/

namespace World

/-- Take the record `r` of a machine after any run, and a machine that was just built, anywhere, with the
same settings and an emulator of the same type.  If it takes over what is read from the file of `r`, it
shows what the first machine shows, and its own record is `r`. -/
theorem record_persists {ops : List Op} {i : Nat} {m : Machine}
    (hm : (empty.run ops).machine? i = some m) {emulator : Emulator}
    (htype : emulator.type = m.emulator.type) (id : MachineId) (root : ElementId) (sink : Sink)
    (t : Topology) (hw : Hardware) :
    let saved := m.saveRecord (empty.run ops).site.hardware
    let fresh := (Machine.build id root emulator m.config sink t).1
    let loaded := fresh.loadRecord (Record.decode saved.1.encode) hw
    loaded.1.snapshot = saved.2.1.snapshot ∧
      (loaded.1.saveRecord loaded.2).1 = saved.1 ∧
      (loaded.1.saveRecord loaded.2).2.1.snapshot = saved.2.1.snapshot := by
  intro saved fresh
  obtain ⟨devices, hrecord⟩ := m.saveRecord_eq (empty.run ops).site.hardware
  have hstays := m.saveRecord_stays (empty.run ops).site.hardware
  have hpoised : saved.2.1.runState ≠ .stopping := by
    rw [hstays.runState]
    exact (run_poised ops hm).runState
  have hfits : saved.2.1.terminal.Fits fresh.terminal.config := by
    obtain ⟨us, hreports, -⟩ := (m.saveRecord_acts (empty.run ops).site.hardware).relays.speaks
    exact hreports.fits (run_fits ops hm)
  have htype' : fresh.emulator.type = saved.2.1.emulator.type :=
    htype.trans (m.quiesce_type (empty.run ops).site.hardware).symm
  have hfile : Record.decode saved.1.encode = saved.2.1.recordWith devices := by
    rw [Record.decode_encode]
    exact hrecord
  rw [hfile, show saved.1 = _ from hrecord]
  exact (Machine.build_fresh id root emulator m.config sink t).takes_over hpoised hfits htype' devices hw

/-- A machine that booted on one memory, with its banner shown and the signature written to the memory,
is taken over by a machine that was just built elsewhere. -/
theorem booted_machine_persists :
    let ops : List Op := [.build (.ram (.new ⟨10⟩ 4 0)), .topology (.insert ⟨1⟩ [] [⟨⟨0⟩, ⟨10⟩⟩]),
      .newMachine ⟨1⟩ (.demo .new) {} (.queue []) .unmetered, .machine 0 .start, .machine 0 .tick,
      .machine 0 .tick]
    ∃ m, (empty.run ops).machine? 0 = some m ∧
      let saved := m.saveRecord (empty.run ops).site.hardware
      let fresh := (Machine.build ⟨7⟩ ⟨2⟩ (.demo .new) m.config .discard (default : Site).topology).1
      let loaded := fresh.loadRecord (Record.decode saved.1.encode) (default : Site).hardware
      (saved.1.runState = 2 ∧ saved.1.terminal.length = 95 ∧
        saved.1.devices.get? ⟨10⟩ = some DemoMachine.signature) ∧
      loaded.1.snapshot = saved.2.1.snapshot ∧
        (loaded.1.saveRecord loaded.2).1 = saved.1 ∧
        (loaded.1.saveRecord loaded.2).2.1.snapshot = saved.2.1.snapshot := by
  intro ops
  have hbooted : ∃ m ∈ (empty.run ops).machine? 0, m.emulator.type = .demo ∧
      let saved := m.saveRecord (empty.run ops).site.hardware
      saved.1.runState = 2 ∧ saved.1.terminal.length = 95 ∧
        saved.1.devices.get? ⟨10⟩ = some DemoMachine.signature := by decide +kernel
  obtain ⟨m, hm, htype, hsaved⟩ := hbooted
  exact ⟨m, hm, hsaved, record_persists hm (show (Emulator.demo .new).type = m.emulator.type from htype.symm)
    ⟨7⟩ ⟨2⟩ .discard (default : Site).topology (default : Site).hardware⟩

end World

end DeviceBus
