import DeviceBus.Proofs.Binding

/-!
# The devices of a machine

A machine's map lists the devices that are attached to it, and there is a map only while the machine
runs.  `Machine.Keeps mine h elsewhere` says so of one device `h`, next to devices that are bound to
other machines; the devices of the map are among those that are `mine`.  Every piece of the program
keeps it; a load needs besides that the bus lists no device twice, and none that is not `mine` or is
bound elsewhere.
-/

namespace DeviceBus

open Event (Plain Outside Own)
open Hardware (Apart)

namespace Machine

/-- The devices of the map. -/
def handles (m : Machine) : List Handle :=
  match m.map with
  | none => []
  | some map => mappedHandles map.mappings

theorem handles_of_none {m : Machine} (h : m.map = none) : m.handles = [] := by
  unfold handles
  rw [h]

theorem handles_of_some {m : Machine} {map : DeviceMap} (h : m.map = some map) :
    m.handles = mappedHandles map.mappings := by
  unfold handles
  rw [h]

theorem Steady.handles {m m' : Machine} (h : m.Steady m') : m'.handles = m.handles := by
  unfold Machine.handles
  rw [h.map]

/-- The map lists the attached devices, each once. -/
structure Holds (mine : Handle → Prop) (h : Handle) (elsewhere : Bool) (p : Machine × Hardware) :
    Prop where
  nodup : p.1.handles.Nodup
  within : ∀ x ∈ p.1.handles, mine x
  apart : Apart h elsewhere p.1.handles
  tracks : p.2.Tracks h elsewhere p.1.handles

/-- The map lists the attached devices, and there is one only while the machine runs. -/
structure Keeps (mine : Handle → Prop) (h : Handle) (elsewhere : Bool) (p : Machine × Hardware) : Prop
    extends Holds mine h elsewhere p where
  running : p.1.map.isSome = true → p.1.runState = .running

/-- The bus lists no device twice, and none that is not `mine` or is bound elsewhere. -/
structure Serves (mine : Handle → Prop) (h : Handle) (elsewhere : Bool) (c : Controller) : Prop where
  nodup : (busHandles c.devices).Nodup
  within : ∀ x ∈ busHandles c.devices, mine x
  apart : Apart h elsewhere (busHandles c.devices)

section

variable {mine : Handle → Prop} {h : Handle} {elsewhere : Bool} {m m' : Machine} {hw hw' : Hardware}

theorem Holds.same (hh : Holds mine h elsewhere (m, hw)) (hmap : m'.map = m.map)
    (hadds : hw.Adds Plain hw') : Holds mine h elsewhere (m', hw') := by
  have hhandles : m'.handles = m.handles := by
    unfold handles
    rw [hmap]
  refine ⟨?_, ?_, ?_, ?_⟩
  · show m'.handles.Nodup
    rw [hhandles]
    exact hh.nodup
  · show ∀ x ∈ m'.handles, mine x
    rw [hhandles]
    exact hh.within
  · show Apart h elsewhere m'.handles
    rw [hhandles]
    exact hh.apart
  · show hw'.Tracks h elsewhere m'.handles
    rw [hhandles]
    exact hh.tracks.plain hadds

/-- Without a map no device is attached. -/
theorem Keeps.of_none (hmap : m.map = none) (ht : hw.Tracks h elsewhere []) :
    Keeps mine h elsewhere (m, hw) := by
  have hnil : m.handles = [] := handles_of_none hmap
  refine ⟨⟨?_, ?_, ?_, ?_⟩, ?_⟩
  · show m.handles.Nodup
    rw [hnil]
    exact List.nodup_nil
  · show ∀ x ∈ m.handles, mine x
    rw [hnil]
    intro x hmem
    exact absurd hmem List.not_mem_nil
  · show Apart h elsewhere m.handles
    rw [hnil]
    intro hmem
    exact absurd hmem List.not_mem_nil
  · show hw.Tracks h elsewhere m.handles
    rw [hnil]
    exact ht
  · intro hsome
    rw [show (m, hw).1.map = none from hmap] at hsome
    cases hsome

theorem Holds.tracks_nil (hh : Holds mine h elsewhere (m, hw)) (hmap : m.map = none) :
    hw.Tracks h elsewhere [] := by
  have ht : hw.Tracks h elsewhere m.handles := hh.tracks
  rwa [handles_of_none hmap] at ht

/-- There is no map while the machine does not run. -/
theorem Keeps.map_none (hk : Keeps mine h elsewhere (m, hw)) (hrun : m.runState ≠ .running) :
    m.map = none := by
  cases hmap : m.map with
  | none => rfl
  | some map => exact absurd (hk.running (by rw [show (m, hw).1.map = some map from hmap]; rfl)) hrun

theorem Keeps.steady (hk : Keeps mine h elsewhere (m, hw)) (hs : m.Steady m') (hadds : hw.Adds Plain hw') :
    Keeps mine h elsewhere (m', hw') := by
  refine ⟨hk.toHolds.same hs.map hadds, ?_⟩
  intro hsome
  rw [show (m', hw').1.map = m.map from hs.map] at hsome
  exact hs.runState.trans (hk.running hsome)

/-! ## Releasing -/

theorem Holds.releaseDevices (hh : Holds mine h elsewhere (m, hw)) :
    Keeps mine h elsewhere (m.releaseDevices hw) := by
  show Keeps mine h elsewhere ((m.releaseDevices hw).1, (m.releaseDevices hw).2)
  refine .of_none (m.releaseDevices_map hw) ?_
  unfold Machine.releaseDevices
  split
  · next hmap => exact hh.tracks_nil hmap
  · next map hmap =>
    have ht : hw.Tracks h elsewhere m.handles := hh.tracks
    have hnodup : m.handles.Nodup := hh.nodup
    have ha : Apart h elsewhere m.handles := hh.apart
    rw [handles_of_some hmap] at ht hnodup ha
    exact suspendAll_tracks ht hnodup ha

theorem Keeps.cancel (hk : Keeps mine h elsewhere (m, hw)) : Keeps mine h elsewhere (m.cancel hw) :=
  hk.steady (m.stepWorker_steady Worker.cancel hw) (m.cancel_acts hw).adds

theorem Keeps.quiesce (hk : Keeps mine h elsewhere (m, hw)) : Keeps mine h elsewhere (m.quiesce hw) :=
  hk.steady (m.stepWorker_steady Worker.quiesce hw) (m.quiesce_acts hw).adds

theorem Keeps.clear (hk : Keeps mine h elsewhere (m, hw)) : Keeps mine h elsewhere (m.clear hw) :=
  hk.quiesce.toHolds.releaseDevices

theorem setRunState_runState (m : Machine) (state : RunState) :
    (m.setRunState state).runState = state := by
  unfold setRunState
  split
  · next he => exact he
  · rfl

theorem setRunState_bootError (m : Machine) (state : RunState) :
    (m.setRunState state).bootError = m.bootError := by
  unfold setRunState
  split <;> rfl

theorem setBootError_bootError (m : Machine) (error : Option String) :
    (m.setBootError error).bootError = error := by
  unfold setBootError
  split
  · next he => exact he
  · rfl

/-- A halt releases the devices, and leaves its error as the boot error. -/
theorem halt_outcome (m : Machine) (error : BootError) (hw : Hardware) :
    (m.halt error hw).1.runState = .error ∧ (m.halt error hw).1.bootError = some error.message ∧
      (m.halt error hw).1.map = none := by
  refine ⟨setRunState_runState _ _, ?_, ?_⟩
  · exact (setRunState_bootError _ _).trans (setBootError_bootError _ _)
  · exact (settle_sameInside _ _ _).map.trans (releaseDevices_map _ _)

theorem Holds.halt (hh : Holds mine h elsewhere (m, hw)) (error : BootError) :
    Keeps mine h elsewhere (m.halt error hw) := by
  have hcancel : Holds mine h elsewhere (m.cancel hw) :=
    hh.same (m.stepWorker_steady Worker.cancel hw).map (m.cancel_acts hw).adds
  exact .of_none (m.halt_outcome error hw).2.2 (hcancel.releaseDevices.tracks_nil (releaseDevices_map _ _))

/-! ## Loading -/

/-- Why a load that begins here fails, if it does. -/
def loadError? (m : Machine) (hw : Hardware) : Option BootError :=
  let (m', hw) := { m with resume := false }.quiesce hw
  match m'.attachAll m.resume hw with
  | (.ok _, m'', _) => m''.threadRefusal?.map .io
  | (.error e, _, _) => some e

/-- A load that fails leaves no map, and its error as the boot error. -/
theorem load_of_error {e : BootError} (he : m.loadError? hw = some e) :
    (m.load hw).1.runState = .error ∧ (m.load hw).1.bootError = some e.message ∧
      (m.load hw).1.map = none := by
  unfold loadError? at he
  unfold load
  generalize ({ m with resume := false } : Machine).quiesce hw = p at he
  obtain ⟨m₁, hw₁⟩ := p
  dsimp only at he ⊢
  generalize m₁.attachAll m.resume hw₁ = q at he
  obtain ⟨result, m₂, hw₂⟩ := q
  cases result with
  | ok map =>
    obtain ⟨_, worker, -, ⟨-, hthread, henter⟩ | ⟨reason, -, hthread, henter⟩⟩ :=
      m₂.enter_cases m.resume map hw₂
    · dsimp only at he
      rw [hthread] at he
      cases he
    · dsimp only at he ⊢
      rw [hthread] at he
      cases he
      rw [henter]
      exact halt_outcome _ (.io reason) hw₂
  | error e' =>
    cases he
    exact m₂.halt_outcome e hw₂

/-- Loading attaches the devices of the bus and enters them into the map, or attaches none. -/
theorem load_keeps (hmap : m.map = none) (ht : hw.Tracks h elsewhere [])
    (hbus : Serves mine h elsewhere m.controller) : Keeps mine h elsewhere (m.load hw) := by
  have hwait := ({ m with resume := false } : Machine).quiesce_acts hw
  have hwaitSteady := ({ m with resume := false } : Machine).stepWorker_steady Worker.quiesce hw
  unfold load
  generalize hq : ({ m with resume := false } : Machine).quiesce hw = p at hwait
  replace hwaitSteady : ({ m with resume := false } : Machine).Steady p.1 := by
    rw [← hq]
    exact hwaitSteady
  obtain ⟨m₁, hw₁⟩ := p
  have hcontroller : m₁.controller = m.controller := hwait.relays.controller
  have hattach := m₁.attachAll_tracks m.resume (ht.plain hwait.adds)
    (by rw [hcontroller]; exact hbus.nodup) (by rw [hcontroller]; exact hbus.apart)
  have hsteady := m₁.attachAll_steady m.resume hw₁
  dsimp only
  generalize m₁.attachAll m.resume hw₁ = q at hattach hsteady
  obtain ⟨result, m₂, hw₂⟩ := q
  have hmap₂ : m₂.map = none := (hsteady.map.trans hwaitSteady.map).trans hmap
  cases result with
  | error e => exact (Keeps.of_none hmap₂ hattach).toHolds.halt e
  | ok map =>
    obtain ⟨hhandles, ht₂⟩ := hattach
    rw [hcontroller] at hhandles
    obtain ⟨_, worker, -, henter⟩ := m₂.enter_cases m.resume map hw₂
    have hseated : Holds mine h elsewhere ({ m₂ with map := some map, media := .empty, worker }, hw₂) := by
      obtain ⟨hnodup, hwithin, happart⟩ := hbus
      rw [← hhandles] at hnodup hwithin happart
      exact ⟨hnodup, hwithin, happart, ht₂⟩
    rcases henter with ⟨-, -, he⟩ | ⟨reason, -, -, he⟩
    · show Keeps mine h elsewhere (m₂.enter m.resume map hw₂)
      rw [he]
      exact ⟨hseated.same (settle_sameInside _ _ _).map (.refl _ _), fun _ => setRunState_runState _ _⟩
    · show Keeps mine h elsewhere (m₂.enter m.resume map hw₂)
      rw [he]
      exact hseated.halt (.io reason)

/-! ## Starting and stopping -/

theorem accept_map (m : Machine) : m.accept.map = m.map := (setRunState_sameInside _ _).map

theorem accept_controller (m : Machine) : m.accept.controller = m.controller :=
  (setRunState_relays _ .loading).controller

/-- A machine that may be started has no map. -/
theorem Keeps.map_none_of_startable (hk : Keeps mine h elsewhere (m, hw)) (hstart : m.startable = true) :
    m.map = none := hk.map_none (not_running_of_startable hstart)

theorem Keeps.start (hk : Keeps mine h elsewhere (m, hw)) (hbus : Serves mine h elsewhere m.controller) :
    Keeps mine h elsewhere (m.start hw).2 := by
  cases hload : m.startLoad? hw with
  | some p =>
    rw [start_of_some hload]
    unfold startLoad? at hload
    split at hload
    · next hc =>
      cases hload
      have hmap := hk.map_none_of_startable hc.1
      refine load_keeps (m.accept_map.trans hmap) (hk.tracks_nil hmap) ?_
      rw [accept_controller]
      exact hbus
    · cases hload
  | none =>
    rw [start_of_none hload]
    dsimp only
    split
    · next hstart =>
      have hmap := hk.map_none_of_startable hstart
      exact .of_none (m.accept_map.trans hmap) (hk.tracks_nil hmap)
    · exact hk

theorem Keeps.stop (hk : Keeps mine h elsewhere (m, hw)) : Keeps mine h elsewhere (m.stop hw) := by
  unfold Machine.stop
  split
  · have hcancel : Holds mine h elsewhere ((m.setRunState .stopping).cancel hw) :=
      hk.toHolds.same (setRunState_sameInside _ _).map ((m.setRunState .stopping).cancel_acts hw).adds
    have hrelease := hcancel.releaseDevices
    exact .of_none ((setRunState_sameInside _ _).map.trans (releaseDevices_map _ _))
      (hrelease.tracks_nil (releaseDevices_map _ _))
  · exact hk

/-! ## Ticks -/

theorem Keeps.swap (hk : Keeps mine h elsewhere (m, hw)) (hbus : Serves mine h elsewhere m.controller) :
    Keeps mine h elsewhere (m.swap hw) := by
  have hclear := hk.clear
  cases hload : m.swapLoad? hw with
  | some p =>
    rw [swap_of_some hload]
    unfold swapLoad? at hload
    dsimp only at hload
    split at hload
    · cases hload
      refine load_keeps (releaseDevices_map _ _) (hclear.tracks_nil (releaseDevices_map _ _)) ?_
      show Serves mine h elsewhere (m.clear hw).1.controller
      rw [(m.clear_acts hw).relays.controller]
      exact hbus
    · cases hload
  | none =>
    rw [swap_of_none hload]
    exact hclear

theorem Keeps.absorbChanges (hk : Keeps mine h elsewhere (m, hw)) (hbus : Serves mine h elsewhere m.controller) :
    Keeps mine h elsewhere (m.absorbChanges hw) := by
  have hchanges : Keeps mine h elsewhere ({ m with controller := m.controller.takeChanges.2 }, hw) :=
    hk.steady ⟨rfl, rfl, rfl⟩ (.refl _ _)
  unfold Machine.absorbChanges
  dsimp only
  split
  · exact hchanges.swap ⟨hbus.nodup, hbus.within, hbus.apart⟩
  · exact hchanges

theorem Keeps.step (hk : Keeps mine h elsewhere (m, hw)) (energy : EnergySource) :
    Keeps mine h elsewhere ((m.step energy hw).1, (m.step energy hw).2.2) := by
  unfold Machine.step
  split
  · next fault worker _ =>
    have hworker : Keeps mine h elsewhere ({ m with worker }, hw) := hk.steady ⟨rfl, rfl, rfl⟩ (.refl _ _)
    exact hworker.toHolds.halt (.emulation fault)
  · exact hk.steady (m.grantTick_steady energy hw) (m.grantTick_acts energy hw).adds

theorem Keeps.proceed (hk : Keeps mine h elsewhere (m, hw)) (hbus : Serves mine h elsewhere m.controller)
    (energy : EnergySource) :
    Keeps mine h elsewhere ((m.proceed energy hw).1, (m.proceed energy hw).2.2) := by
  cases hload : m.proceedLoad? hw with
  | some p =>
    rw [proceed_of_some hload]
    unfold proceedLoad? at hload
    split at hload
    · next hrun _ =>
      cases hload
      have hmap := hk.map_none (by rw [hrun]; decide)
      exact load_keeps hmap (hk.tracks_nil hmap) hbus
    · split at hload
      · next hmap =>
        cases hload
        have hnone : m.map = none := Option.isNone_iff_eq_none.1 hmap
        exact load_keeps hnone (hk.tracks_nil hnone) hbus
      · cases hload
    · cases hload
  | none =>
    rcases proceed_of_none hload energy with he | ⟨-, -, he⟩
    · rw [he]
      exact hk
    · rw [he]
      exact hk.step energy

theorem observe_keeps {s : Site} (hk : Keeps mine h elsewhere (m, s.hardware)) :
    Keeps mine h elsewhere ((m.observe s).1, (m.observe s).2.hardware) :=
  hk.steady (m.observe_steady s) (m.controller.poll_adds s)

theorem Keeps.tick {s : Site} (hk : Keeps mine h elsewhere (m, s.hardware)) (energy : EnergySource)
    (hbus : Serves mine h elsewhere (m.observe s).1.controller) :
    Keeps mine h elsewhere ((m.tick energy s).1, (m.tick energy s).2.2.hardware) := by
  have hobserve := observe_keeps hk
  rw [tick_eq]
  generalize m.observe s = p at hbus hobserve
  obtain ⟨m₁, s₁⟩ := p
  dsimp only at hbus hobserve ⊢
  have habsorb := hobserve.absorbChanges hbus
  have hcontroller : (m₁.absorbChanges s₁.hardware).1.controller = m₁.controller.takeChanges.2 :=
    (m₁.absorbChanges_acts s₁.hardware).relays.controller
  generalize m₁.absorbChanges s₁.hardware = p at habsorb hcontroller
  obtain ⟨m₂, hw₂⟩ := p
  have hproceed := habsorb.proceed (by rw [hcontroller]; exact ⟨hbus.nodup, hbus.within, hbus.apart⟩) energy
  dsimp only
  generalize m₂.proceed energy hw₂ = p at hproceed
  obtain ⟨m₃, energy', hw₃⟩ := p
  exact hproceed.steady ((flushTerminal_steady m₃).trans (publishMedia_steady _ hw₃)) (.refl _ _)

/-! ## Suspension and persistence -/

/-- Before a suspension gives up the bus, no device is attached any more. -/
theorem Keeps.retire (hk : Keeps mine h elsewhere (m, hw)) :
    (m.retire hw).1.map = none ∧ (m.retire hw).2.Tracks h elsewhere [] := by
  have hshutdown : Keeps mine h elsewhere (m.shutdown hw) :=
    hk.steady (m.stepWorker_steady Worker.shutdown hw) (m.shutdown_acts hw).adds
  unfold Machine.retire
  generalize m.shutdown hw = p at hshutdown
  obtain ⟨m', hw'⟩ := p
  have hnote : Keeps mine h elsewhere (m', m'.noteCall .releaseScratch hw') :=
    hshutdown.steady (.refl m') (.one rfl ⟨rfl, rfl⟩)
  have hmap := m'.releaseDevices_map (m'.noteCall .releaseScratch hw')
  have ht := hnote.toHolds.releaseDevices.tracks_nil hmap
  dsimp only
  refine ⟨?_, ht⟩
  split
  · exact hmap
  · exact hmap

theorem Keeps.suspend {s : Site} (hk : Keeps mine h elsewhere (m, s.hardware)) :
    Keeps mine h elsewhere ((m.suspend s).1, (m.suspend s).2.hardware) := .of_none hk.retire.1 hk.retire.2

/-- Devices that are not attached may be finalized. -/
theorem foldl_finalize_tracks {devices : List BusDevice} (ht : hw.Tracks h elsewhere [])
    (ha : Apart h elsewhere (busHandles devices)) :
    (devices.foldl (fun hw d => hw.finalize d.device.handle) hw).Tracks h elsewhere [] := by
  induction devices generalizing hw with
  | nil => exact ht
  | cons d rest ih =>
    refine ih (ht.finalize List.not_mem_nil ?_) (ha.mono fun _ => List.mem_cons_of_mem _)
    rintro rfl
    exact ha List.mem_cons_self

theorem Keeps.finalize {s : Site} (hk : Keeps mine h elsewhere (m, s.hardware))
    (ha : Apart h elsewhere (busHandles (m.suspend s).1.controller.devices)) :
    Keeps mine h elsewhere ((m.finalize s).1, (m.finalize s).2.hardware) := by
  have hmap : (m.suspend s).1.map = none := hk.retire.1
  have ht : (m.suspend s).2.hardware.Tracks h elsewhere [] := hk.retire.2
  unfold Machine.finalize
  generalize m.suspend s = p at ha hmap ht
  obtain ⟨m', s'⟩ := p
  have hdevices := foldl_finalize_tracks ht ha
  dsimp only at hdevices ⊢
  generalize m'.controller.devices.foldl (fun hw d => hw.finalize d.device.handle) s'.hardware = hw
    at hdevices
  refine .of_none ?_ (hdevices.plain (m'.resetEmulator_acts hw).adds)
  exact (settle_sameInside _ _ _).map.trans hmap

theorem rejectEmulation_map (m : Machine) (fault : Fault) : (m.rejectEmulation fault).map = m.map := by
  unfold rejectEmulation
  dsimp only
  split <;> rfl

theorem restoreEmulator_map (m : Machine) (state : Bytes) (hw : Hardware) :
    (m.restoreEmulator state hw).2.1.map = m.map := by
  unfold restoreEmulator
  split <;> rfl

theorem Keeps.loadRecord (hk : Keeps mine h elsewhere (m, hw)) (r : Record) :
    Keeps mine h elsewhere (m.loadRecord r hw) := by
  have hrelease : Keeps mine h elsewhere ((m.cancel hw).1.releaseDevices (m.cancel hw).2) :=
    hk.cancel.toHolds.releaseDevices
  have hmap := (m.cancel hw).1.releaseDevices_map (m.cancel hw).2
  unfold Machine.loadRecord
  generalize m.cancel hw = p at hrelease hmap
  obtain ⟨m', hw'⟩ := p
  dsimp only at hrelease hmap ⊢
  generalize m'.releaseDevices hw' = p at hrelease hmap
  obtain ⟨m'', hw''⟩ := p
  have ht := hrelease.tracks_nil hmap
  dsimp only at hmap ht ⊢
  split
  · exact .of_none hmap ht
  · have hrestore := ht.plain ((m''.adoptRecord r).restoreEmulator_acts r.emulation hw'').adds
    have hrestoreMap := ((m''.adoptRecord r).restoreEmulator_map r.emulation hw'').trans hmap
    split
    · next he =>
      rw [he] at hrestore hrestoreMap
      exact .of_none hrestoreMap hrestore
    · next fault m₃ hw₃ he =>
      rw [he] at hrestore hrestoreMap
      exact .of_none ((m₃.rejectEmulation_map fault).trans hrestoreMap) hrestore

end

end Machine

/-! ## Operations -/

/-- Every operation of a machine keeps the turns of every device, if its bus lists no device twice
after it. -/
theorem Station.step_keeps {h : Handle} {elsewhere : Bool} {station : Station} {s : Site}
    (op : MachineOp) (hk : Machine.Keeps mine h elsewhere (station.machine, s.hardware))
    (hbus : Machine.Serves mine h elsewhere (station.step s op).2.1.machine.controller) :
    Machine.Keeps mine h elsewhere ((station.step s op).2.1.machine, (station.step s op).2.2.hardware) := by
  cases op with
  | start =>
    refine hk.start ?_
    rw [← (station.machine.start_acts s.hardware).relays.controller]
    exact hbus
  | stop => exact hk.stop
  | tick =>
    refine hk.tick station.energy ?_
    have hcontroller := (station.machine.tick_acts station.energy s).relays.controller
    have hdevices : (station.machine.tick station.energy s).1.controller.devices =
        (station.machine.observe s).1.controller.devices := by
      rw [show (station.machine.tick station.energy s).1.controller = _ from hcontroller]
      rfl
    rw [show (station.step s .tick).2.1.machine = (station.machine.tick station.energy s).1 from rfl]
      at hbus
    exact ⟨hdevices ▸ hbus.nodup, hdevices ▸ hbus.within, hdevices ▸ hbus.apart⟩
  | advance slices =>
    exact hk.steady (station.machine.stepWorker_steady (Worker.progress · slices) _)
      (station.machine.advance_acts slices s.hardware).adds
  | quiesce => exact hk.quiesce
  | suspend => exact hk.suspend
  | finalize =>
    refine hk.finalize ?_
    rw [← (station.machine.finalize_acts s).relays.controller]
    exact hbus.apart
  | readMemory address count =>
    refine hk.steady ?_ (readMemory_acts station.machine address count s.hardware).adds
    show station.machine.Steady (readMemory station.machine address count s.hardware).2.1
    unfold readMemory
    split <;> exact .refl _
  | writeMemory address data =>
    refine hk.steady ?_ (writeMemory_acts station.machine address data s.hardware).adds
    show station.machine.Steady (writeMemory station.machine address data s.hardware).2.1
    unfold writeMemory
    split <;> exact .refl _
  | saveRecord =>
    exact hk.steady (station.machine.stepWorker_steady Worker.quiesce s.hardware)
      (station.machine.saveRecord_acts s.hardware).adds
  | loadRecord r => exact hk.loadRecord r
  | _ => exact hk.steady ⟨rfl, rfl, rfl⟩ (.refl _ _)

end DeviceBus
