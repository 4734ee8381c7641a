import DeviceBus.Proofs.Machine.Replay
import DeviceBus.Proofs.Restoration

/-!
# Machines that are suspended

While its worker is idle a suspension runs nothing of a machine, so what it leaves can be written down:
the machine has no devices, no thread and no bus, and will keep the state of its emulator if it was
running (`Machine.suspend_of_isIdle`).  None of this is in a record, and a second suspension finds it
done.

A machine that was running and has no devices loads at its next tick, if the bus is ready then; where the
bus lists the devices of a load before, that load is done again (`Machine.tick_resumes`).
-/

namespace DeviceBus

/-- A worker that holds no cycles, after its thread ended. -/
def Worker.ended (w : Worker) : Worker := { w with running := w.running && !w.spawned, spawned := false }

theorem Worker.ended_ended (w : Worker) : w.ended.ended = w.ended := by
  obtain ⟨slice, activity, running, spawned, executed, fault⟩ := w
  unfold ended
  simp only [Bool.not_false, Bool.and_true]

namespace Machine

variable {m : Machine} {hw hw' : Hardware} {s : Site}

/-- The mappings of the attached devices. -/
def mappings (m : Machine) : List Mapping := m.map.elim [] DeviceMap.mappings

/-- A machine that gave up its devices and ended its thread. -/
def retired (m : Machine) : Machine :=
  { m with
    worker := m.worker.ended
    map := none
    resume := m.resume || m.runState = .running }

theorem retired_retired (m : Machine) : m.retired.retired = m.retired := by
  unfold retired
  dsimp only
  rw [Worker.ended_ended, Bool.or_assoc, Bool.or_self]

/-! ## Suspensions -/

theorem retire_of_isIdle (h : m.worker.isIdle = true) (hw : Hardware) :
    m.retire hw = (m.retired, suspendAll m.mappings (m.noteCall .releaseScratch hw)) := by
  have hshutdown : m.shutdown hw = ({ m with worker := m.worker.ended }, hw) := by
    unfold shutdown stepWorker
    rw [Worker.shutdown_of_isIdle (runSlice m.id) h ⟨m.emulator, m.terminal, hw⟩]
    rfl
  have hresume : (if m.runState = .running then true else m.resume) =
      (m.resume || decide (m.runState = .running)) := by
    by_cases hrun : m.runState = .running <;> simp [hrun]
  have hgone (map : Option DeviceMap) (hw : Hardware) : releaseDevices { m with worker := m.worker.ended, map } hw =
      ({ m with worker := m.worker.ended, map := none }, suspendAll (map.elim [] DeviceMap.mappings) hw) := by
    cases map <;> rfl
  unfold retire retired
  rw [hshutdown, ← hresume]
  dsimp only
  rw [show releaseDevices { m with worker := m.worker.ended } _ = _ from hgone m.map _]
  dsimp only
  split <;> rfl

/-- What a suspension makes of a machine whose worker is idle. -/
theorem suspend_of_isIdle (h : m.worker.isIdle = true) (s : Site) :
    m.suspend s = ({ m.retired with controller := (m.controller.dispose s.topology).1 },
      ⟨(m.controller.dispose s.topology).2,
        suspendAll m.mappings (s.hardware.record (.emulator m.id .releaseScratch))⟩) := by
  rw [suspend_eq, retire_of_isIdle h]
  rfl

/-- The emulator is told of a second suspension; nothing else becomes of it. -/
theorem suspend_twice (h : m.worker.isIdle = true) (s : Site) :
    (m.suspend s).1.suspend (m.suspend s).2 =
      ((m.suspend s).1,
        ⟨(m.suspend s).2.topology, (m.suspend s).2.hardware.record (.emulator m.id .releaseScratch)⟩) := by
  have hidle : (m.suspend s).1.worker.isIdle = true := by
    rw [suspend_of_isIdle h]
    exact h
  have hretired : (m.suspend s).1.retired = (m.suspend s).1 := by
    rw [suspend_of_isIdle h]
    show ({ m.retired.retired with controller := _ } : Machine) = _
    rw [retired_retired]
  rw [suspend_of_isIdle hidle, hretired, suspend_controller, Controller.dispose_twice,
    show (m.suspend s).1.id = m.id from m.suspend_id s]
  rw [suspend_of_isIdle h]
  rfl

/-! ## Records -/

/-- Devices that save what they saved leave the same states in a record. -/
theorem foldl_saveDevice_congr (h : hw.SavesAlike hw') (states : Table DeviceId Bytes)
    (devices : List BusDevice) :
    (devices.foldl saveDevice (states, hw')).1 = (devices.foldl saveDevice (states, hw)).1 := by
  induction devices generalizing states hw hw' with
  | nil => rfl
  | cons d rest ih =>
    have hsaved : (saveDevice (states, hw') d).1 = (saveDevice (states, hw) d).1 := by
      unfold saveDevice Hardware.save
      dsimp only
      rw [h d.device.handle]
      split
      · rfl
      · cases (hw.device d.device.handle).save <;> rfl
    have halike : (saveDevice (states, hw) d).2.SavesAlike (saveDevice (states, hw') d).2 := by
      have hbefore := Hardware.SavesAlike.of_devices (saveDevice_devices (states, hw) d)
      have hafter := Hardware.SavesAlike.of_devices (saveDevice_devices (states, hw') d)
      exact fun handle => (hafter handle).trans ((h handle).trans (hbefore handle).symm)
    rw [List.foldl_cons, List.foldl_cons,
      show saveDevice (states, hw') d = ((saveDevice (states, hw) d).1, (saveDevice (states, hw') d).2) from
        Prod.ext hsaved rfl]
    exact ih halike (saveDevice (states, hw) d).1

theorem saveRecord_of_isIdle (h : m.worker.isIdle = true) (hw : Hardware) : (m.saveRecord hw).1 =
    { elements := m.controller.members
      devices := (m.controller.devices.foldl saveDevice (m.pendingStates, hw)).1
      runState := UInt8.ofNat m.runState.ordinal
      busState := UInt8.ofNat m.busState.ordinal
      bootError := m.bootError
      terminal := m.terminal.history
      emulation := m.emulator.save } := by
  unfold saveRecord
  rw [quiesce_of_isIdle h]

/-- A suspension changes nothing of what a record has. -/
theorem suspend_saveRecord (h : m.worker.isIdle = true) (s : Site) :
    ((m.suspend s).1.saveRecord (m.suspend s).2.hardware).1 = (m.saveRecord s.hardware).1 := by
  have hbus : (m.controller.dispose s.topology).1.members = m.controller.members ∧
      (m.controller.dispose s.topology).1.devices = m.controller.devices := by
    unfold Controller.dispose
    split <;> exact ⟨rfl, rfl⟩
  have hnoted : s.hardware.SavesAlike (s.hardware.record (.emulator m.id .releaseScratch)) :=
    .of_devices rfl
  have hstates := foldl_saveDevice_congr (hnoted.trans (suspendAll_savesAlike m.mappings _))
    m.pendingStates m.controller.devices
  rw [suspend_of_isIdle h, saveRecord_of_isIdle h, ← hstates, ← hbus.1, ← hbus.2]
  exact saveRecord_of_isIdle (m := { m.retired with controller := (m.controller.dispose s.topology).1 }) h _

/-! ## Resumptions -/

theorem Ends.steady {m m' : Machine} {map : DeviceMap} {accepted : Bool} (h : Ends map m accepted)
    (hsteady : m.Steady m') (hplatform : m'.platform = m.platform) : Ends map m' accepted := by
  cases accepted with
  | true =>
    unfold Ends
    rw [hsteady.runState, hsteady.map, hsteady.bootError, hplatform]
    exact h
  | false =>
    obtain ⟨hrun, hmap, fault, herror⟩ := h
    exact ⟨hsteady.runState.trans hrun, hsteady.map.trans hmap, fault, hsteady.bootError.trans herror⟩

/-- A machine that was running and has no devices does a load again, if its bus comes back as it was. -/
theorem tick_resumes {devices : List BusDevice} {map : DeviceMap} (hrun : m.runState = .running)
    (hmap : m.map = none) (hidle : m.worker.isIdle = true)
    (hready : (m.controller.poll s).1.state = .ready)
    (hspots : (m.controller.poll s).1.devices.map BusDevice.spot = devices.map BusDevice.spot)
    (hreplays : m.Replays devices map) (hsuits : ∀ mapping ∈ map.mappings, mapping.Suits s.hardware)
    (energy : EnergySource) :
    ∃ accepted, Hardware.Loads (loadOf m.id map accepted) s.hardware (m.tick energy s).2.2.hardware ∧
      Ends map (m.tick energy s).1 accepted := by
  have hasks : s.hardware.Asks (m.observe s).2.hardware := m.controller.poll_asks s
  have hinside : SameInside { m with controller := (m.controller.poll s).1 } (m.observe s).1 :=
    setBusState_sameInside _ _
  have hsteady := m.observe_steady s
  rw [tick_eq]
  generalize m.observe s = p at hasks hinside hsteady
  obtain ⟨m₁, s₁⟩ := p
  dsimp only at hasks hinside hsteady ⊢
  have hbus : m₁.controller = (m.controller.poll s).1 := hinside.controller
  have habsorb : m₁.absorbChanges s₁.hardware =
      ({ m₁ with controller := m₁.controller.takeChanges.2 }, s₁.hardware) := by
    unfold absorbChanges
    dsimp only
    rw [hsteady.map, hmap, if_neg fun h => Bool.false_ne_true h.2]
  have hload : ({ m₁ with controller := m₁.controller.takeChanges.2 } : Machine).proceedLoad? s₁.hardware =
      some ({ m₁ with controller := m₁.controller.takeChanges.2, resume := true }, s₁.hardware) := by
    have hready : m₁.controller.takeChanges.2.state = .ready := hbus ▸ hready
    unfold proceedLoad?
    dsimp only
    rw [hsteady.runState, hrun, hready, hsteady.map, hmap]
    rfl
  have hreplays : m₁.Replays devices map := by
    unfold Replays
    rw [hinside.config, hinside.pendingStates]
    exact hreplays
  obtain ⟨accepted, hloads, hends⟩ :=
    load_again (m := { m₁ with controller := m₁.controller.takeChanges.2, resume := true }) rfl
      ((congrArg Worker.isIdle hinside.worker).trans hidle) hreplays (hbus ▸ hspots)
      fun mapping hmem => (hsuits mapping hmem).of_devices hasks.devices
  rw [habsorb, ← show m₁.id = m.id from hinside.id]
  dsimp only
  rw [proceed_of_some hload]
  have hpolled : Hardware.Loads [] s.hardware s₁.hardware :=
    (hasks.adds.mono fun e he => (Event.Query.plain he).1).loads
  exact ⟨accepted, hpolled.trans hloads,
    hends.steady ((flushTerminal_steady _).trans (publishMedia_steady _ _))
      ((flushTerminal_sameInside _).trans (publishMedia_sameInside _ _)).platform⟩

end Machine

end DeviceBus
