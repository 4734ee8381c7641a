import DeviceBus.Proofs.Machine.Aside

/-!
# Sinks are only written to

What a machine does, and what becomes of it and of the devices, does not depend on where its updates
go: an operation on the machine whose updates are dropped is the operation on the machine, with the
updates dropped afterwards.

    m.muted.load hw = ((m.load hw).1.muted, (m.load hw).2)                          (load_muted)
    (station.muted.step s op).2 = ((station.step s op).2.1.muted, …)                  (step_muted)

So a machine may be given another sink to hear what it publishes, and does what it would have done.
-/

namespace DeviceBus

namespace Machine

/-- The machine with its updates dropped. -/
def muted (m : Machine) : Machine := { m with sink := .discard }

/-- A machine and what else a piece of its program returns, with its updates dropped. -/
abbrev mutedWith {α : Type} (p : Machine × α) : Machine × α := (p.1.muted, p.2)

/-! ## What is left alone -/

section

variable (m : Machine)

@[simp] theorem muted_controller : m.muted.controller = m.controller := rfl
@[simp] theorem muted_worker : m.muted.worker = m.worker := rfl
@[simp] theorem muted_emulator : m.muted.emulator = m.emulator := rfl
@[simp] theorem muted_terminal : m.muted.terminal = m.terminal := rfl
@[simp] theorem muted_runState : m.muted.runState = m.runState := rfl
@[simp] theorem muted_busState : m.muted.busState = m.busState := rfl
@[simp] theorem muted_bootError : m.muted.bootError = m.bootError := rfl
@[simp] theorem muted_map : m.muted.map = m.map := rfl
@[simp] theorem muted_resume : m.muted.resume = m.resume := rfl

end

/-! ## Updates -/

theorem setRunState_muted (m : Machine) (state : RunState) :
    m.muted.setRunState state = (m.setRunState state).muted := by
  unfold setRunState
  rw [muted_runState]
  split <;> rfl

theorem setBootError_muted (m : Machine) (error : Option String) :
    m.muted.setBootError error = (m.setBootError error).muted := by
  unfold setBootError
  rw [muted_bootError]
  split <;> rfl

theorem setBusState_muted (m : Machine) (state : BusState) :
    m.muted.setBusState state = (m.setBusState state).muted := by
  unfold setBusState
  rw [muted_busState]
  split <;> rfl

theorem flushTerminal_muted (m : Machine) : m.muted.flushTerminal = m.flushTerminal.muted := by
  unfold flushTerminal
  rw [muted_terminal]
  rcases m.terminal.takeOutput with ⟨_ | chunk, terminal⟩ <;> rfl

theorem foldl_publish_muted (us : List Update) (m : Machine) :
    us.foldl publish m.muted = (us.foldl publish m).muted := by
  induction us generalizing m with
  | nil => rfl
  | cons u us ih => exact ih (m.publish u)

theorem publishMedia_muted (m : Machine) (hw : Hardware) :
    m.muted.publishMedia hw = (m.publishMedia hw).muted := by
  unfold publishMedia
  rw [muted_map]
  split
  · rfl
  · next map _ =>
    exact foldl_publish_muted _ { m with
      media := (map.mappings.foldl (lookAtMedium hw) (m.media, [])).1 }

/-! ## Pieces of a load -/

theorem releaseDevices_muted (m : Machine) (hw : Hardware) :
    m.muted.releaseDevices hw = mutedWith (m.releaseDevices hw) := by
  unfold releaseDevices
  rw [muted_map]
  split <;> rfl

theorem halt_muted (m : Machine) (error : BootError) (hw : Hardware) :
    m.muted.halt error hw = mutedWith (m.halt error hw) := by
  have hcancel : m.muted.cancel hw = mutedWith (m.cancel hw) := rfl
  unfold halt
  rw [hcancel]
  generalize m.cancel hw = p
  obtain ⟨m₁, hw₁⟩ := p
  dsimp only
  rw [releaseDevices_muted]
  generalize m₁.releaseDevices hw₁ = p
  obtain ⟨m₂, hw₂⟩ := p
  have herror := setBootError_muted { m₂ with resume := false } (some error.message)
  have hrun := setRunState_muted (setBootError { m₂ with resume := false } (some error.message)) .error
  exact congrArg (·, hw₂) ((congrArg (setRunState · .error) herror).trans hrun)

theorem muted_aside : Aside muted :=
  ⟨fun _ => rfl, fun _ => rfl, fun _ => rfl, fun _ => rfl, fun _ => rfl, fun _ => rfl, fun _ _ => rfl,
    fun _ _ => rfl⟩

theorem enter_muted (m : Machine) (keepState : Bool) (map : DeviceMap) (hw : Hardware) :
    m.muted.enter keepState map hw = mutedWith (m.enter keepState map hw) := by
  have hstart : (if keepState then m.muted.worker else m.muted.worker.takeFault.2).start
      m.muted.platform.refusal =
        (if keepState then m.worker else m.worker.takeFault.2).start m.platform.refusal := rfl
  unfold enter
  dsimp only
  rw [hstart]
  generalize (if keepState then m.worker else m.worker.takeFault.2).start m.platform.refusal = p
  obtain ⟨reason | _, worker⟩ := p
  · exact halt_muted { m with map := some map, media := .empty, worker } (.io reason) hw
  · have herror := setBootError_muted { m with map := some map, media := .empty, worker } none
    have hrun := setRunState_muted
      (setBootError { m with map := some map, media := .empty, worker } none) .running
    exact congrArg (·, hw) ((congrArg (setRunState · .running) herror).trans hrun)

theorem load_muted (m : Machine) (hw : Hardware) : m.muted.load hw = mutedWith (m.load hw) := by
  have hquiesce : ({ m.muted with resume := false } : Machine).quiesce hw =
      mutedWith (({ m with resume := false } : Machine).quiesce hw) := rfl
  unfold load
  rw [hquiesce, muted_resume]
  generalize ({ m with resume := false } : Machine).quiesce hw = p
  obtain ⟨m₁, hw₁⟩ := p
  dsimp only
  rw [attachAll_aside muted_aside]
  generalize m₁.attachAll m.resume hw₁ = p
  obtain ⟨e | map, m₂, hw₂⟩ := p
  · exact m₂.halt_muted e hw₂
  · exact m₂.enter_muted m.resume map hw₂

theorem resume_load_muted (m : Machine) (resume : Bool) (hw : Hardware) :
    ({ m.muted with resume } : Machine).load hw = mutedWith (({ m with resume } : Machine).load hw) :=
  load_muted { m with resume } hw

/-! ## Operations -/

theorem start_muted (m : Machine) (hw : Hardware) :
    m.muted.start hw = ((m.start hw).1, mutedWith (m.start hw).2) := by
  have hloading : ({ m.muted with resume := false } : Machine).setRunState .loading =
      (({ m with resume := false } : Machine).setRunState .loading).muted :=
    setRunState_muted { m with resume := false } .loading
  unfold start
  dsimp only
  rw [hloading, muted_runState]
  generalize ({ m with resume := false } : Machine).setRunState .loading = m₁
  rw [load_muted, muted_busState]
  split
  · split <;> rfl
  · rfl

theorem stop_muted (m : Machine) (hw : Hardware) : m.muted.stop hw = mutedWith (m.stop hw) := by
  have hcancel : (m.setRunState .stopping).muted.cancel hw =
      mutedWith ((m.setRunState .stopping).cancel hw) := rfl
  unfold stop
  dsimp only
  rw [setRunState_muted, hcancel, muted_runState]
  generalize (m.setRunState .stopping).cancel hw = p
  obtain ⟨m₁, hw₁⟩ := p
  dsimp only
  rw [releaseDevices_muted]
  generalize m₁.releaseDevices hw₁ = p
  obtain ⟨m₂, hw₂⟩ := p
  split
  · exact congrArg (·, hw₂)
      (setRunState_muted ({ m₂ with resume := false } : Machine).resetTerminal .stopped)
  · rfl

theorem swap_muted (m : Machine) (hw : Hardware) : m.muted.swap hw = mutedWith (m.swap hw) := by
  have hquiesce : m.muted.quiesce hw = mutedWith (m.quiesce hw) := rfl
  unfold swap
  rw [hquiesce]
  generalize m.quiesce hw = p
  obtain ⟨m₁, hw₁⟩ := p
  dsimp only
  rw [releaseDevices_muted]
  generalize m₁.releaseDevices hw₁ = p
  obtain ⟨m₂, hw₂⟩ := p
  dsimp only
  rw [resume_load_muted, muted_runState, muted_controller]
  split <;> rfl

theorem absorbChanges_muted (m : Machine) (hw : Hardware) :
    m.muted.absorbChanges hw = mutedWith (m.absorbChanges hw) := by
  have hswap := swap_muted { m with controller := m.controller.takeChanges.2 } hw
  unfold absorbChanges
  dsimp only
  rw [muted_controller, muted_map]
  split
  · exact hswap
  · rfl

theorem drift_muted (m : Machine) (slices : Option Nat) (hw : Hardware) :
    m.muted.drift slices hw = mutedWith (m.drift slices hw) := by
  cases slices <;> rfl

theorem grantAtOnce_muted (m : Machine) (energy : EnergySource) :
    m.muted.grantAtOnce energy = mutedWith (m.grantAtOnce energy) := by
  unfold grantAtOnce
  dsimp only
  rw [muted_worker, muted_controller]
  split
  · rfl
  · split <;> rfl

theorem grantTick_muted (m : Machine) (energy : EnergySource) (hw : Hardware) :
    m.muted.grantTick energy hw = mutedWith (m.grantTick energy hw) := by
  have hdrift : m.muted.drift m.muted.platform.look hw = mutedWith (m.drift m.platform.look hw) :=
    m.drift_muted _ hw
  rw [grantTick_eq, grantTick_eq, hdrift, grantAtOnce_muted]

theorem step_muted (m : Machine) (energy : EnergySource) (hw : Hardware) :
    m.muted.step energy hw = mutedWith (m.step energy hw) := by
  unfold step
  rw [muted_worker]
  generalize m.worker.takeFault = p
  obtain ⟨_ | fault, worker⟩ := p
  · exact m.grantTick_muted energy hw
  · exact congrArg (fun p : Machine × Hardware => (p.1, energy, p.2))
      (halt_muted { m with worker } (.emulation fault) hw)

theorem proceed_muted (m : Machine) (energy : EnergySource) (hw : Hardware) :
    m.muted.proceed energy hw = mutedWith (m.proceed energy hw) := by
  unfold proceed
  rw [muted_runState, muted_controller, muted_map]
  split
  · exact congrArg (fun p : Machine × Hardware => (p.1, energy, p.2)) (m.load_muted hw)
  · split
    · exact congrArg (fun p : Machine × Hardware => (p.1, energy, p.2)) (m.resume_load_muted true hw)
    · exact m.step_muted energy hw
  · rfl

theorem tick_muted (m : Machine) (energy : EnergySource) (s : Site) :
    m.muted.tick energy s = mutedWith (m.tick energy s) := by
  unfold tick
  rw [muted_controller]
  generalize m.controller.poll s = p
  obtain ⟨controller, s₁⟩ := p
  have hbus := setBusState_muted { m with controller } controller.state
  have hcontroller : ({ m.muted with controller } : Machine) = ({ m with controller } : Machine).muted :=
    rfl
  dsimp only
  rw [hcontroller, hbus]
  generalize ({ m with controller } : Machine).setBusState controller.state = m₁
  rw [absorbChanges_muted]
  generalize m₁.absorbChanges s₁.hardware = p
  obtain ⟨m₂, hw₂⟩ := p
  dsimp only
  rw [proceed_muted]
  generalize m₂.proceed energy hw₂ = p
  obtain ⟨m₃, energy₃, hw₃⟩ := p
  dsimp only
  rw [flushTerminal_muted, publishMedia_muted]

theorem suspend_muted (m : Machine) (s : Site) : m.muted.suspend s = mutedWith (m.suspend s) := by
  have hshutdown : m.muted.shutdown s.hardware = mutedWith (m.shutdown s.hardware) := rfl
  unfold suspend
  rw [hshutdown]
  generalize m.shutdown s.hardware = p
  obtain ⟨m₁, hw₁⟩ := p
  have hnote : m₁.muted.noteCall .releaseScratch hw₁ = m₁.noteCall .releaseScratch hw₁ := rfl
  dsimp only
  rw [hnote, releaseDevices_muted]
  generalize m₁.releaseDevices (m₁.noteCall .releaseScratch hw₁) = p
  obtain ⟨m₂, hw₂⟩ := p
  dsimp only
  rw [muted_runState]
  by_cases hrun : m₂.runState = .running
  · simp only [if_pos hrun]
    rfl
  · simp only [if_neg hrun]
    rfl

theorem finalize_muted (m : Machine) (s : Site) : m.muted.finalize s = mutedWith (m.finalize s) := by
  unfold finalize
  rw [suspend_muted]
  generalize m.suspend s = p
  obtain ⟨m₁, s₁⟩ := p
  dsimp only
  rw [muted_controller]
  generalize m₁.controller.devices.foldl (fun hw d => hw.finalize d.device.handle) s₁.hardware = hw₁
  have hreset : m₁.muted.resetEmulator hw₁ = mutedWith (m₁.resetEmulator hw₁) := rfl
  rw [hreset]
  generalize m₁.resetEmulator hw₁ = p
  obtain ⟨m₂, hw₂⟩ := p
  dsimp only
  generalize hm₃ : ({ m₂ with pendingStates := .empty, media := .empty, resume := false } :
    Machine).resetTerminal = m₃
  have hm₃' : ({ m₂.muted with pendingStates := .empty, media := .empty, resume := false } :
      Machine).resetTerminal = m₃.muted := by
    rw [← hm₃]
    rfl
  rw [hm₃', setBootError_muted, setRunState_muted]

theorem rejectEmulation_muted (m : Machine) (fault : Fault) :
    m.muted.rejectEmulation fault = (m.rejectEmulation fault).muted := by
  unfold rejectEmulation
  dsimp only
  rw [muted_runState]
  split <;> rfl

theorem loadRecord_muted (m : Machine) (r : Record) (hw : Hardware) :
    m.muted.loadRecord r hw = mutedWith (m.loadRecord r hw) := by
  have hcancel : m.muted.cancel hw = mutedWith (m.cancel hw) := rfl
  unfold loadRecord
  rw [hcancel]
  generalize m.cancel hw = p
  obtain ⟨m₁, hw₁⟩ := p
  dsimp only
  rw [releaseDevices_muted]
  generalize m₁.releaseDevices hw₁ = p
  obtain ⟨m₂, hw₂⟩ := p
  have hadopt : m₂.muted.adoptRecord r = (m₂.adoptRecord r).muted := rfl
  dsimp only
  rw [hadopt]
  generalize m₂.adoptRecord r = m₃
  have hrestore : m₃.muted.restoreEmulator r.emulation hw₂ =
      ((m₃.restoreEmulator r.emulation hw₂).1, mutedWith (m₃.restoreEmulator r.emulation hw₂).2) := by
    unfold restoreEmulator
    rw [muted_emulator]
    split <;> rfl
  rw [hrestore]
  generalize m₃.restoreEmulator r.emulation hw₂ = p
  obtain ⟨fault | _, m₄, hw₄⟩ := p
  · dsimp only
    rw [rejectEmulation_muted]
    split <;> rfl
  · dsimp only
    split <;> rfl

end Machine

namespace Station

/-- The station with the updates of its machine dropped. -/
def muted (station : Station) : Station := { station with machine := station.machine.muted }

/-- An operation does the same wherever the machine publishes. -/
theorem step_muted (station : Station) (s : Site) (op : MachineOp) :
    (station.muted.step s op).2 = ((station.step s op).2.1.muted, (station.step s op).2.2) := by
  obtain ⟨m, energy⟩ := station
  cases op with
  | start =>
    exact congrArg (fun p : Bool × Machine × Hardware =>
      ((⟨p.2.1, energy⟩ : Station), { s with hardware := p.2.2 })) (m.start_muted s.hardware)
  | stop =>
    exact congrArg (fun p : Machine × Hardware =>
      ((⟨p.1, energy⟩ : Station), { s with hardware := p.2 })) (m.stop_muted s.hardware)
  | tick =>
    exact congrArg (fun p : Machine × EnergySource × Site => ((⟨p.1, p.2.1⟩ : Station), p.2.2))
      (m.tick_muted energy s)
  | suspend =>
    exact congrArg (fun p : Machine × Site => ((⟨p.1, energy⟩ : Station), p.2)) (m.suspend_muted s)
  | finalize =>
    exact congrArg (fun p : Machine × Site => ((⟨p.1, energy⟩ : Station), p.2)) (m.finalize_muted s)
  | loadRecord r =>
    exact congrArg (fun p : Machine × Hardware =>
      ((⟨p.1, energy⟩ : Station), { s with hardware := p.2 })) (m.loadRecord_muted r s.hardware)
  | readMemory address count =>
    have hread : (readMemory m.muted address count s.hardware).2 =
        Machine.mutedWith (readMemory m address count s.hardware).2 := by
      unfold readMemory
      rw [Machine.muted_map]
      split <;> rfl
    exact congrArg (fun p : Machine × Hardware =>
      ((⟨p.1, energy⟩ : Station), { s with hardware := p.2 })) hread
  | writeMemory address data =>
    have hwrite : (writeMemory m.muted address data s.hardware).2 =
        Machine.mutedWith (writeMemory m address data s.hardware).2 := by
      unfold writeMemory
      rw [Machine.muted_map]
      split <;> rfl
    exact congrArg (fun p : Machine × Hardware =>
      ((⟨p.1, energy⟩ : Station), { s with hardware := p.2 })) hwrite
  | _ => rfl

end Station

end DeviceBus
