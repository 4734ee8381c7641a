import DeviceBus.Proofs.World

/-!
# When a machine loads

`Machine.load` is reached in three ways: from a start, from a swap of devices in a tick, and from the
rest of a tick.  For each there is the moment at which the load begins, if one does: the machine and
the devices as the load finds them.

    m.startLoad? hw = some p   → (m.start hw).2 = p.1.load p.2               (start_of_some)
    m.absorbLoad? hw = some p  → m.absorbChanges hw = p.1.load p.2           (absorbChanges_of_some)
    m.proceedLoad? hw = some p → (m.proceed energy hw).1 = (p.1.load p.2).1  (proceed_of_some)

Without a moment no device is asked to attach and no emulator is given devices.  `World.loads` lists
the moments of an operation of the host in their order.
-/

namespace DeviceBus

open Event (Plain Outside Own)

namespace Machine

/-! ## What stays as it is -/

/-- The run state, the boot error and the attached devices are the same. -/
structure Steady (m m' : Machine) : Prop where
  runState : m'.runState = m.runState
  bootError : m'.bootError = m.bootError
  map : m'.map = m.map

section Steady

variable {m m' m'' : Machine}

theorem Steady.refl (m : Machine) : m.Steady m := ⟨rfl, rfl, rfl⟩

theorem Steady.trans (h₁ : m.Steady m') (h₂ : m'.Steady m'') : m.Steady m'' :=
  ⟨h₂.runState.trans h₁.runState, h₂.bootError.trans h₁.bootError, h₂.map.trans h₁.map⟩

end Steady

theorem stepWorker_steady (m : Machine) (step : WorkerStep) (hw : Hardware) :
    m.Steady (m.stepWorker step hw).1 := ⟨rfl, rfl, rfl⟩

theorem setBusState_steady (m : Machine) (state : BusState) : m.Steady (m.setBusState state) := by
  unfold setBusState
  split <;> exact ⟨rfl, rfl, rfl⟩

theorem flushTerminal_steady (m : Machine) : m.Steady m.flushTerminal := by
  unfold flushTerminal
  split <;> exact ⟨rfl, rfl, rfl⟩

theorem foldl_publish_steady (us : List Update) (m : Machine) : m.Steady (us.foldl publish m) := by
  induction us generalizing m with
  | nil => exact .refl m
  | cons u us ih =>
    have hpublish : m.Steady (m.publish u) := ⟨rfl, rfl, rfl⟩
    exact hpublish.trans (ih (m.publish u))

theorem publishMedia_steady (m : Machine) (hw : Hardware) : m.Steady (m.publishMedia hw) := by
  unfold publishMedia
  split
  · exact .refl m
  · next map _ =>
    have hmedia : m.Steady { m with media := (map.mappings.foldl (lookAtMedium hw) (m.media, [])).1 } :=
      ⟨rfl, rfl, rfl⟩
    exact hmedia.trans (foldl_publish_steady _ _)

theorem drift_steady (m : Machine) (slices : Option Nat) (hw : Hardware) :
    m.Steady (m.drift slices hw).1 :=
  drift_cases (P := fun p => m.Steady p.1) (.refl m) (fun _ => m.stepWorker_steady _ hw) slices

theorem grantAtOnce_steady (m : Machine) (energy : EnergySource) :
    m.Steady (m.grantAtOnce energy).1 := by
  unfold grantAtOnce
  split
  · exact .refl m
  · dsimp only
    split <;> exact ⟨rfl, rfl, rfl⟩

theorem grantTick_steady (m : Machine) (energy : EnergySource) (hw : Hardware) :
    m.Steady (m.grantTick energy hw).1 := by
  rw [grantTick_eq]
  exact (m.drift_steady _ hw).trans (grantAtOnce_steady _ energy)

theorem restoreDevice_steady (m : Machine) (entry : BusDevice) (hw : Hardware) :
    m.Steady (m.restoreDevice entry hw).2.1 := by
  unfold restoreDevice
  split
  · exact .refl m
  · dsimp only
    split <;> exact ⟨rfl, rfl, rfl⟩

theorem attachEach_steady (entries : List BusDevice) (ctx : AttachContext) (m : Machine)
    (hw : Hardware) : m.Steady (attachEach entries ctx m hw).2.1 := by
  induction entries generalizing ctx m hw with
  | nil => exact .refl m
  | cons entry rest ih =>
    have hrestore := m.restoreDevice_steady entry hw
    unfold attachEach
    split
    · next he => rwa [he] at hrestore
    · next m' hw' he =>
      rw [he] at hrestore
      split
      · exact hrestore
      · exact hrestore.trans (ih _ m' _)

theorem installDevices_steady (m : Machine) (keepState : Bool) (map : DeviceMap) (hw : Hardware) :
    m.Steady (m.installDevices keepState map hw).2.1 := by
  have hreset : m.Steady (if keepState then (m, hw) else m.resetEmulator hw).1 := by
    split <;> exact ⟨rfl, rfl, rfl⟩
  unfold installDevices
  generalize (if keepState then (m, hw) else m.resetEmulator hw) = p at hreset
  obtain ⟨m', hw'⟩ := p
  have hinstall : m'.Steady (m'.install map hw').2.1 := ⟨rfl, rfl, rfl⟩
  dsimp only
  split <;> next he => rw [he] at hinstall; exact hreset.trans hinstall

theorem attachAll_steady (m : Machine) (keepState : Bool) (hw : Hardware) :
    m.Steady (m.attachAll keepState hw).2.1 := by
  have hattach := attachEach_steady m.controller.devices (.new m.config) m hw
  unfold attachAll
  split
  · next he => rwa [he] at hattach
  · next ctx m' hw' he =>
    rw [he] at hattach
    exact hattach.trans (m'.installDevices_steady keepState ctx.finish hw')

/-- Releasing the devices leaves none attached. -/
theorem releaseDevices_map (m : Machine) (hw : Hardware) : (m.releaseDevices hw).1.map = none := by
  unfold releaseDevices
  split
  · next h => exact h
  · rfl

theorem releaseDevices_runState (m : Machine) (hw : Hardware) :
    (m.releaseDevices hw).1.runState = m.runState := by
  unfold releaseDevices
  split <;> rfl

/-! ## Moments -/

/-- Whether a start is accepted. -/
def startable (m : Machine) : Bool := m.runState = .stopped || m.runState = .error

theorem not_running_of_startable {m : Machine} (h : m.startable = true) : m.runState ≠ .running := by
  intro hrun
  unfold startable at h
  rw [hrun] at h
  cases h

/-- The machine once a start was accepted. -/
def accept (m : Machine) : Machine := { m with resume := false }.setRunState .loading

/-- Where a start begins a load. -/
def startLoad? (m : Machine) (hw : Hardware) : Option (Machine × Hardware) :=
  if m.startable ∧ m.busState = .ready then some (m.accept, hw) else none

/-- The machine and the devices once a swap released what was attached. -/
def clear (m : Machine) (hw : Hardware) : Machine × Hardware :=
  let (m, hw) := m.quiesce hw
  m.releaseDevices hw

/-- Where a swap of the devices begins a load. -/
def swapLoad? (m : Machine) (hw : Hardware) : Option (Machine × Hardware) :=
  let (m, hw) := m.clear hw
  if m.runState = .running ∧ m.controller.state = .ready then some ({ m with resume := true }, hw)
  else none

/-- Where taking up the changes of the bus begins a load. -/
def absorbLoad? (m : Machine) (hw : Hardware) : Option (Machine × Hardware) :=
  let (changes, controller) := m.controller.takeChanges
  let m := { m with controller }
  if changes.isSome ∧ m.map.isSome then m.swapLoad? hw else none

/-- Where the rest of a tick begins a load. -/
def proceedLoad? (m : Machine) (hw : Hardware) : Option (Machine × Hardware) :=
  match m.runState, m.controller.state with
  | .loading, .ready => some (m, hw)
  | .running, .ready => if m.map.isNone then some ({ m with resume := true }, hw) else none
  | _, _ => none

/-- The machine and the site once a tick polled the bus. -/
def observe (m : Machine) (s : Site) : Machine × Site :=
  let (controller, s) := m.controller.poll s
  ({ m with controller }.setBusState controller.state, s)

theorem observe_steady (m : Machine) (s : Site) : m.Steady (m.observe s).1 := by
  have hcontroller : m.Steady { m with controller := (m.controller.poll s).1 } := ⟨rfl, rfl, rfl⟩
  exact hcontroller.trans (setBusState_steady _ _)

/-- Where a tick begins loads: at most one to swap devices, and one to go on. -/
def tickLoads (m : Machine) (s : Site) : List (Machine × Hardware) :=
  let (m, s) := m.observe s
  let (m', hw) := m.absorbChanges s.hardware
  (m.absorbLoad? s.hardware).toList ++ (m'.proceedLoad? hw).toList

theorem start_of_some {m : Machine} {hw : Hardware} {p : Machine × Hardware}
    (h : m.startLoad? hw = some p) : m.start hw = (true, p.1.load p.2) := by
  unfold startLoad? startable at h
  split at h
  · next hc =>
    cases h
    have hbus : (m.accept).busState = .ready := by
      show (setRunState _ _).busState = _
      rw [(setRunState_relays _ _).busState]
      exact hc.2
    have hrun : m.runState = .stopped ∨ m.runState = .error := by simpa using hc.1
    unfold start
    rw [if_pos hrun]
    exact if_pos hbus
  · cases h

/-- A start without a load changes what the machine says of itself, and touches no device. -/
theorem start_of_none {m : Machine} {hw : Hardware} (h : m.startLoad? hw = none) :
    m.start hw = (m.startable, if m.startable then m.accept else m, hw) := by
  unfold startLoad? at h
  split at h
  · cases h
  · next hc =>
    unfold start
    by_cases hrun : m.runState = .stopped ∨ m.runState = .error
    · have hstart : m.startable = true := by simpa [startable] using hrun
      have hbus : (m.accept).busState ≠ .ready := by
        show (setRunState _ _).busState ≠ _
        rw [(setRunState_relays _ _).busState]
        intro e
        exact hc ⟨hstart, e⟩
      rw [if_pos hrun, hstart, if_pos rfl]
      exact if_neg hbus
    · have hstart : m.startable = false := by
        rw [← Bool.not_eq_true]
        simpa [startable] using hrun
      rw [if_neg hrun, hstart]
      rfl

theorem swap_of_some {m : Machine} {hw : Hardware} {p : Machine × Hardware}
    (h : m.swapLoad? hw = some p) : m.swap hw = p.1.load p.2 := by
  unfold swapLoad? clear at h
  unfold swap
  dsimp only at h ⊢
  split at h
  · next hc =>
    cases h
    rw [if_pos hc]
  · cases h

theorem swap_of_none {m : Machine} {hw : Hardware} (h : m.swapLoad? hw = none) :
    m.swap hw = m.clear hw := by
  unfold swapLoad? clear at h
  unfold swap clear
  dsimp only at h ⊢
  split at h
  · cases h
  · next hc => rw [if_neg hc]

theorem absorbChanges_of_some {m : Machine} {hw : Hardware} {p : Machine × Hardware}
    (h : m.absorbLoad? hw = some p) : m.absorbChanges hw = p.1.load p.2 := by
  unfold absorbLoad? at h
  unfold absorbChanges
  dsimp only at h ⊢
  split at h
  · next hc =>
    rw [if_pos hc]
    exact swap_of_some h
  · cases h

theorem clear_acts (m : Machine) (hw : Hardware) : Acts Outside (m, hw) (m.clear hw) :=
  (m.quiesce_acts hw).outside.trans ((m.quiesce hw).1.releaseDevices_acts (m.quiesce hw).2)

/-- Taking up the changes of the bus without a load takes the changes, and lets the devices go if
there were any. -/
theorem absorbChanges_of_none {m : Machine} {hw : Hardware} (h : m.absorbLoad? hw = none) :
    m.absorbChanges hw =
      let m' := { m with controller := m.controller.takeChanges.2 }
      if m.controller.changes.isSome ∧ m.map.isSome then m'.clear hw else (m', hw) := by
  unfold absorbLoad? at h
  unfold absorbChanges
  dsimp only at h ⊢
  split at h
  · next hc =>
    have hc' : m.controller.changes.isSome ∧ m.map.isSome := hc
    rw [if_pos hc, if_pos hc']
    exact swap_of_none h
  · next hc =>
    have hc' : ¬(m.controller.changes.isSome ∧ m.map.isSome) := hc
    rw [if_neg hc, if_neg hc']

theorem proceed_of_some {m : Machine} {energy : EnergySource} {hw : Hardware}
    {p : Machine × Hardware} (h : m.proceedLoad? hw = some p) :
    m.proceed energy hw = ((p.1.load p.2).1, energy, (p.1.load p.2).2) := by
  unfold proceedLoad? at h
  split at h
  · next hrun hbus =>
    cases h
    simp only [proceed, hrun, hbus]
  · next hrun hbus =>
    split at h
    · next hmap =>
      cases h
      simp only [proceed, hrun, hbus, hmap, if_true]
    · cases h
  · cases h

/-- Without a load the rest of a tick emulates, or does nothing. -/
theorem proceed_of_none {m : Machine} {hw : Hardware} (h : m.proceedLoad? hw = none)
    (energy : EnergySource) :
    m.proceed energy hw = (m, energy, hw) ∨
      m.runState = .running ∧ m.map.isSome ∧ m.proceed energy hw = m.step energy hw := by
  unfold proceedLoad? at h
  split at h
  · cases h
  · next hrun hbus =>
    split at h
    · cases h
    · next hmap =>
      refine .inr ⟨hrun, ?_, ?_⟩
      · rwa [Bool.not_eq_true, Option.isNone_eq_false_iff] at hmap
      · simp only [proceed, hrun, hbus]
        rw [if_neg hmap]
  · next hloading hrunning =>
    left
    unfold proceed
    split
    · next hrun hbus => exact absurd hbus (hloading hrun)
    · next hrun hbus => exact absurd hbus (hrunning hrun)
    · rfl

/-- A tick looks at the bus, takes up its changes, and goes on. -/
theorem tick_eq (m : Machine) (energy : EnergySource) (s : Site) :
    m.tick energy s =
      let (m, s) := m.observe s
      let (m, hw) := m.absorbChanges s.hardware
      let (m, energy, hw) := m.proceed energy hw
      (m.flushTerminal.publishMedia hw, energy, { s with hardware := hw }) := rfl

/-- Without a load a tick asks no device to attach. -/
theorem tick_adds_of_nil {m : Machine} {s : Site} (h : m.tickLoads s = []) (energy : EnergySource) :
    s.hardware.Adds Outside (m.tick energy s).2.2.hardware := by
  have hpoll : s.hardware.Adds Outside (m.observe s).2.hardware :=
    (m.controller.poll_adds s).mono fun _ he => he.1
  unfold tickLoads at h
  rw [tick_eq]
  generalize m.observe s = p at h hpoll
  obtain ⟨m₁, s₁⟩ := p
  dsimp only at h hpoll ⊢
  obtain ⟨habsorb, hproceed⟩ := List.append_eq_nil_iff.1 h
  have hnone := absorbChanges_of_none (Option.toList_eq_nil_iff.1 habsorb)
  have hacts : s₁.hardware.Adds Outside (m₁.absorbChanges s₁.hardware).2 := by
    rw [hnone]
    dsimp only
    split
    · exact (clear_acts _ s₁.hardware).adds
    · exact .refl _ _
  generalize m₁.absorbChanges s₁.hardware = p at hproceed hacts
  obtain ⟨m₂, hw₂⟩ := p
  refine (hpoll.trans hacts).trans ?_
  rcases proceed_of_none (Option.toList_eq_nil_iff.1 hproceed) energy with he | ⟨-, -, he⟩
  · dsimp only
    rw [he]
    exact .refl _ _
  · dsimp only
    rw [he]
    exact (m₂.step_acts energy hw₂).adds

end Machine

/-! ## Loads of an operation -/

/-- Where an operation of a machine begins loads. -/
def Station.loads (station : Station) (s : Site) : MachineOp → List (Machine × Hardware)
  | .start => (station.machine.startLoad? s.hardware).toList
  | .tick => station.machine.tickLoads s
  | _ => []

/-- Where an operation of the host begins loads. -/
def World.loads (w : World) : Op → List (Machine × Hardware)
  | .machine i op => w.stations[i]?.toList.flatMap fun station => station.loads w.site op
  | _ => []

theorem World.loads_machine {w : World} {i : Nat} {station : Station}
    (h : w.stations[i]? = some station) (op : MachineOp) :
    w.loads (.machine i op) = station.loads w.site op := by
  show w.stations[i]?.toList.flatMap _ = _
  rw [h]
  exact List.flatMap_singleton ..

/-- The calls of a load are made in loads only. -/
theorem Station.step_adds_of_nil {station : Station} {s : Site} {op : MachineOp}
    (h : station.loads s op = []) :
    s.hardware.Adds Outside (station.step s op).2.2.hardware := by
  cases hop : op.mayLoad with
  | false => exact station.step_adds_outside s hop
  | true =>
    cases op with
    | start =>
      have hnone := Machine.start_of_none (Option.toList_eq_nil_iff.1 h)
      show s.hardware.Adds Outside (station.machine.start s.hardware).2.2
      rw [hnone]
      exact .refl _ _
    | tick => exact Machine.tick_adds_of_nil h station.energy
    | _ => cases hop

/-- The calls of a load are made in loads only. -/
theorem World.step_adds_of_nil {w : World} {op : Op} (h : w.loads op = []) :
    w.site.hardware.Adds Outside (w.step op).2.site.hardware := by
  cases op with
  | machine i mop =>
    refine w.stepMachine_adds i mop fun station hs => Station.step_adds_of_nil ?_
    rwa [World.loads_machine hs] at h
  | _ => exact w.step_adds_outside fun _ _ he => by cases he

end DeviceBus
