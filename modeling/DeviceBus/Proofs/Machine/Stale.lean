import DeviceBus.Proofs.Machine.Aside
import DeviceBus.Proofs.Machine.Rest

/-!
# Failures of sessions that are over

Between two sessions the worker of a machine may still have the failure of the one before.  Nothing looks
at it: the worker is idle, and a boot takes it away before the machine runs again.  So an operation on the
machine that forgot the failure is the operation on the machine, which forgets it afterwards.

    station.forget.step s op = ((station.step s op).1, (station.step s op).2.1.forget, …)  (step_forget)
-/

namespace DeviceBus

namespace Machine

/-- The machine without the failure of its worker that nobody took. -/
def forget (m : Machine) : Machine := { m with worker := m.worker.takeFault.2 }

/-- A machine and what else a piece of its program returns, without the failure. -/
abbrev forgetWith {α : Type} (p : Machine × α) : Machine × α := (p.1.forget, p.2)

section

variable (m : Machine)

@[simp] theorem forget_controller : m.forget.controller = m.controller := rfl
@[simp] theorem forget_terminal : m.forget.terminal = m.terminal := rfl
@[simp] theorem forget_runState : m.forget.runState = m.runState := rfl
@[simp] theorem forget_busState : m.forget.busState = m.busState := rfl
@[simp] theorem forget_bootError : m.forget.bootError = m.bootError := rfl
@[simp] theorem forget_map : m.forget.map = m.map := rfl
@[simp] theorem forget_resume : m.forget.resume = m.resume := rfl

end

variable {m : Machine}

/-- There is nothing to forget without a failure. -/
theorem forget_of_fault (h : m.worker.fault = none) : m.forget = m := by
  unfold forget Worker.takeFault
  rw [← h]

theorem forget_aside : Aside forget :=
  ⟨fun _ => rfl, fun _ => rfl, fun _ => rfl, fun _ => rfl, fun _ => rfl, fun _ => rfl, fun _ _ => rfl,
    fun _ _ => rfl⟩

/-! ## Updates -/

theorem setRunState_forget (m : Machine) (state : RunState) :
    m.forget.setRunState state = (m.setRunState state).forget := by
  unfold setRunState
  rw [forget_runState]
  split <;> rfl

theorem setBootError_forget (m : Machine) (error : Option String) :
    m.forget.setBootError error = (m.setBootError error).forget := by
  unfold setBootError
  rw [forget_bootError]
  split <;> rfl

theorem setBusState_forget (m : Machine) (state : BusState) :
    m.forget.setBusState state = (m.setBusState state).forget := by
  unfold setBusState
  rw [forget_busState]
  split <;> rfl

theorem flushTerminal_forget (m : Machine) : m.forget.flushTerminal = m.flushTerminal.forget := by
  unfold flushTerminal
  rw [forget_terminal]
  rcases m.terminal.takeOutput with ⟨_ | chunk, terminal⟩ <;> rfl

theorem foldl_publish_forget (us : List Update) (m : Machine) :
    us.foldl publish m.forget = (us.foldl publish m).forget := by
  induction us generalizing m with
  | nil => rfl
  | cons u us ih => exact ih (m.publish u)

theorem publishMedia_forget (m : Machine) (hw : Hardware) :
    m.forget.publishMedia hw = (m.publishMedia hw).forget := by
  unfold publishMedia
  rw [forget_map]
  split
  · rfl
  · next map _ =>
    exact foldl_publish_forget _ { m with
      media := (map.mappings.foldl (lookAtMedium hw) (m.media, [])).1 }

theorem releaseDevices_forget (m : Machine) (hw : Hardware) :
    m.forget.releaseDevices hw = forgetWith (m.releaseDevices hw) := by
  unfold releaseDevices
  rw [forget_map]
  split <;> rfl

/-! ## Ends of a session -/

theorem cancel_of_isIdle (h : m.worker.isIdle = true) (hw : Hardware) : m.cancel hw = (m.forget, hw) := by
  unfold cancel stepWorker
  rw [Worker.cancel_of_isIdle (runSlice m.id) h]
  rfl

/-- A cancellation forgets the failure itself. -/
theorem cancel_forget (m : Machine) (hw : Hardware) : m.forget.cancel hw = m.cancel hw := m.cancel_takeFault hw

theorem halt_forget (m : Machine) (error : BootError) (hw : Hardware) :
    m.forget.halt error hw = m.halt error hw := m.halt_takeFault error hw

theorem halt_fault (m : Machine) (error : BootError) (hw : Hardware) :
    (m.halt error hw).1.worker.fault = none := by
  have hrelease := (m.cancel hw).1.releaseDevices_worker (m.cancel hw).2
  have hworker : (m.halt error hw).1.worker = (m.cancel hw).1.worker :=
    (settle_sameInside _ _ _).worker.trans hrelease
  rw [hworker]
  rfl

/-! ## Loads -/

/-- A boot leaves no failure, whether there is a thread or not. -/
theorem enter_fault (m : Machine) (map : DeviceMap) (hw : Hardware) :
    (m.enter false map hw).1.worker.fault = none := by
  obtain ⟨result, worker, hstart, ⟨-, -, he⟩ | ⟨reason, -, -, he⟩⟩ := m.enter_cases false map hw <;> rw [he]
  · rw [(settle_sameInside _ none .running).worker]
    rcases m.worker.takeFault.2.start_cases m.platform.refusal with ⟨-, hs⟩ | ⟨-, hs⟩ | ⟨reason, -, -, hs⟩ <;>
    · cases hs.symm.trans hstart
      rfl
  · exact halt_fault _ _ hw

/-- A boot does the same whatever failure the worker still has, and leaves none. -/
theorem load_forget (h : m.worker.isIdle = true) (hresume : m.resume = false) (hw : Hardware) :
    m.forget.load hw = m.load hw ∧ (m.load hw).1.worker.fault = none := by
  have hidle : ({ m with resume := false } : Machine).worker.isIdle = true := h
  have hattach := attachAll_aside forget_aside { m with resume := false } false hw
  have hforget : ({ m.forget with resume := false } : Machine) = ({ m with resume := false } : Machine).forget :=
    rfl
  unfold load
  rw [hforget, forget_resume, hresume, quiesce_of_isIdle hidle, quiesce_of_isIdle (m := forget _) hidle]
  dsimp only
  rw [hattach]
  generalize ({ m with resume := false } : Machine).attachAll false hw = p
  obtain ⟨e | map, m₁, hw₁⟩ := p
  · exact ⟨m₁.halt_forget e hw₁, halt_fault m₁ e hw₁⟩
  · exact ⟨rfl, m₁.enter_fault map hw₁⟩

/-! ## Operations -/

theorem start_forget (h : m.Sound) (hrun : m.runState ≠ .running) (hw : Hardware) :
    m.forget.start hw = ((m.start hw).1, forgetWith (m.start hw).2) := by
  have haccept : m.forget.accept = m.accept.forget := setRunState_forget { m with resume := false } .loading
  have hsame := setRunState_sameInside ({ m with resume := false } : Machine) .loading
  have hidle : m.accept.worker.isIdle = true := by
    rw [show m.accept.worker = m.worker from hsame.worker]
    exact h.idle hrun
  have hmoment : m.forget.startLoad? hw = (m.startLoad? hw).map forgetWith := by
    unfold startLoad?
    rw [haccept]
    show (if m.startable ∧ m.busState = .ready then _ else _) = _
    split <;> rfl
  cases hload : m.startLoad? hw with
  | some p =>
    obtain ⟨-, rfl⟩ := startLoad?_moment hload
    obtain ⟨hloaded, hfault⟩ := load_forget hidle hsame.resume hw
    rw [hload] at hmoment
    rw [start_of_some hload, start_of_some hmoment]
    dsimp only
    rw [hloaded, forgetWith, forget_of_fault hfault]
  | none =>
    rw [hload] at hmoment
    rw [start_of_none hload, start_of_none hmoment, haccept]
    show (m.startable, if m.startable then m.accept.forget else m.forget, hw) = _
    dsimp only
    split <;> rfl

theorem stop_forget (h : m.Sound) (hrun : m.runState ≠ .running) (hw : Hardware) :
    m.forget.stop hw = forgetWith (m.stop hw) := by
  unfold stop
  rw [forget_runState]
  split
  · have hidle : (m.setRunState .stopping).worker.isIdle = true := by
      rw [(m.setRunState_sameInside .stopping).worker]
      exact h.idle hrun
    rw [setRunState_forget, cancel_forget, cancel_of_isIdle hidle]
    dsimp only
    rw [releaseDevices_forget]
    generalize (m.setRunState .stopping).releaseDevices hw = p
    obtain ⟨m₁, hw₁⟩ := p
    exact congrArg (·, hw₁)
      (setRunState_forget (m := ({ m₁ with resume := false } : Machine).resetTerminal.forget) .stopped)
  · rfl

theorem observe_forget (m : Machine) (s : Site) : m.forget.observe s = forgetWith (m.observe s) :=
  congrArg (·, (m.controller.poll s).2)
    (setBusState_forget { m with controller := (m.controller.poll s).1 } (m.controller.poll s).1.state)

/-- Without devices attached, changes of the bus are only taken. -/
theorem absorbChanges_of_map (h : m.map = none) (hw : Hardware) :
    m.absorbChanges hw = ({ m with controller := m.controller.takeChanges.2 }, hw) := by
  unfold absorbChanges
  dsimp only
  rw [h]
  exact if_neg fun hsome => (nomatch hsome.2)

theorem proceed_forget (h : m.Sound) (hpoised : m.Poised) (hrun : m.runState ≠ .running)
    (energy : EnergySource) (hw : Hardware) :
    m.forget.proceed energy hw = forgetWith (m.proceed energy hw) := by
  unfold proceed
  rw [forget_runState, forget_controller]
  split
  · next hloading _ =>
    obtain ⟨hload, hfault⟩ := load_forget (h.idle hrun) (hpoised.resume hloading) hw
    rw [hload]
    dsimp only
    rw [forgetWith, forget_of_fault hfault]
  · next hrunning _ => exact absurd hrunning hrun
  · rfl

theorem tick_forget (h : m.Sound) (hpoised : m.Poised) (hrun : m.runState ≠ .running)
    (energy : EnergySource) (s : Site) : m.forget.tick energy s = forgetWith (m.tick energy s) := by
  have hsteady := m.observe_steady s
  have hsound : (m.observe s).1.Sound :=
    h.congr (m.observe_idles s).worker hsteady.runState fun hsome => hsteady.map ▸ hsome
  have hobserved : Follows .tick m (m.observe s).1 := (m.observe_stays s).follows
  have hposed := hobserved.poised hpoised
  have hstate : (m.observe s).1.runState ≠ .running := hsteady.runState ▸ hrun
  rw [tick_eq, tick_eq, observe_forget]
  generalize m.observe s = p at hsound hposed hstate
  obtain ⟨m₁, s₁⟩ := p
  have hmap : m₁.map = none := by
    rw [← Option.not_isSome_iff_eq_none]
    exact fun hsome => hstate (hsound.map hsome)
  dsimp only at hsound hposed hstate ⊢
  rw [absorbChanges_of_map hmap, absorbChanges_of_map (m := m₁.forget) hmap]
  have hproceed := proceed_forget (m := { m₁ with controller := m₁.controller.takeChanges.2 })
    (hsound.congr rfl rfl fun hsome => hsome) ⟨hposed.runState, hposed.resume⟩ hstate energy s₁.hardware
  have hforget : ({ m₁.forget with controller := m₁.forget.controller.takeChanges.2 } : Machine) =
      ({ m₁ with controller := m₁.controller.takeChanges.2 } : Machine).forget := rfl
  rw [hforget, hproceed]
  generalize ({ m₁ with controller := m₁.controller.takeChanges.2 } : Machine).proceed energy s₁.hardware = p
  obtain ⟨m₂, energy₂, hw₂⟩ := p
  dsimp only
  rw [flushTerminal_forget, publishMedia_forget]

theorem suspend_forget (h : m.worker.isIdle = true) (s : Site) :
    m.forget.suspend s = forgetWith (m.suspend s) := by
  have hshutdown : m.forget.shutdown s.hardware = forgetWith (m.shutdown s.hardware) := by
    unfold shutdown stepWorker
    rw [Worker.shutdown_of_isIdle (runSlice m.id) h,
      Worker.shutdown_of_isIdle (w := m.forget.worker) (runSlice m.forget.id) h]
    rfl
  unfold suspend
  rw [hshutdown]
  generalize m.shutdown s.hardware = p
  obtain ⟨m₁, hw₁⟩ := p
  have hnote : m₁.forget.noteCall .releaseScratch hw₁ = m₁.noteCall .releaseScratch hw₁ := rfl
  dsimp only
  rw [hnote, releaseDevices_forget]
  generalize m₁.releaseDevices (m₁.noteCall .releaseScratch hw₁) = p
  obtain ⟨m₂, hw₂⟩ := p
  dsimp only
  rw [forget_runState]
  by_cases hrun : m₂.runState = .running
  · simp only [if_pos hrun]
    rfl
  · simp only [if_neg hrun]
    rfl

theorem finalize_forget (h : m.worker.isIdle = true) (s : Site) :
    m.forget.finalize s = forgetWith (m.finalize s) := by
  unfold finalize
  rw [suspend_forget h]
  generalize m.suspend s = p
  obtain ⟨m₁, s₁⟩ := p
  dsimp only
  rw [forget_controller]
  generalize m₁.controller.devices.foldl (fun hw d => hw.finalize d.device.handle) s₁.hardware = hw₁
  rw [resetEmulator_aside forget_aside]
  generalize m₁.resetEmulator hw₁ = p
  obtain ⟨m₂, hw₂⟩ := p
  dsimp only
  generalize hm₃ : ({ m₂ with pendingStates := .empty, media := .empty, resume := false } :
    Machine).resetTerminal = m₃
  have hm₃' : ({ m₂.forget with pendingStates := .empty, media := .empty, resume := false } :
      Machine).resetTerminal = m₃.forget := by
    rw [← hm₃]
    rfl
  rw [hm₃', setBootError_forget, setRunState_forget]

theorem loadRecord_forget (m : Machine) (r : Record) (hw : Hardware) :
    m.forget.loadRecord r hw = forgetWith (m.loadRecord r hw) := by
  have hsame : m.forget.loadRecord r hw = m.loadRecord r hw := by
    unfold loadRecord
    rw [cancel_forget]
  have hfault : (m.loadRecord r hw).1.worker.fault = none := by
    rw [loadRecord_worker]
    rfl
  rw [hsame, forgetWith, forget_of_fault hfault]

theorem saveRecord_forget (h : m.worker.isIdle = true) (hw : Hardware) :
    m.forget.saveRecord hw = ((m.saveRecord hw).1, forgetWith (m.saveRecord hw).2) := by
  unfold saveRecord
  rw [quiesce_of_isIdle h, quiesce_of_isIdle (m := m.forget) h]
  rfl

theorem advance_forget (h : m.worker.isIdle = true) (slices : Nat) (hw : Hardware) :
    m.forget.advance slices hw = forgetWith (m.advance slices hw) := by
  rw [advance_of_isIdle h, advance_of_isIdle (m := m.forget) h]

end Machine

namespace Station

open Machine (forgetWith)

/-- The station without the failure of its worker that nobody took. -/
def forget (station : Station) : Station := { station with machine := station.machine.forget }

section

variable {station : Station} {s : Site}

theorem onHardware_forget {f : Machine → Hardware → Answer × Machine × Hardware}
    (h : f station.machine.forget s.hardware =
      ((f station.machine s.hardware).1, forgetWith (f station.machine s.hardware).2)) :
    station.forget.onHardware s f = ((station.onHardware s f).1, (station.onHardware s f).2.1.forget,
      (station.onHardware s f).2.2) := by
  unfold onHardware
  rw [show station.forget.machine = station.machine.forget from rfl, h]
  rfl

/-- Memory is out of reach once the devices were released. -/
theorem readMemory_of_map {m : Machine} (h : m.map = none) (address count : Nat) (hw : Hardware) :
    readMemory m address count hw = (.bytes none, m, hw) := by
  unfold readMemory
  rw [h]
  rfl

theorem writeMemory_of_map {m : Machine} (h : m.map = none) (address : Nat) (data : Bytes) (hw : Hardware) :
    writeMemory m address data hw = (.amount none, m, hw) := by
  unfold writeMemory
  rw [h]
  rfl

/-- Out of a session an operation does the same whatever failure the worker still has. -/
theorem step_forget (h : station.machine.Sound) (hpoised : station.machine.Poised)
    (hrun : station.machine.runState ≠ .running) (s : Site) (op : MachineOp) :
    station.forget.step s op =
      ((station.step s op).1, (station.step s op).2.1.forget, (station.step s op).2.2) := by
  have hidle := h.idle hrun
  have hmap : station.machine.map = none := by
    rw [← Option.not_isSome_iff_eq_none]
    exact fun hsome => hrun (h.map hsome)
  -- what an operation returns besides the machine stands around what it does to it
  have hdone {p q : Machine × Hardware} (heq : p = forgetWith q) :
      ((.done, p) : Answer × Machine × Hardware) = (.done, forgetWith q) := by rw [heq]
  unfold step
  cases op with
  | start =>
    refine onHardware_forget ?_
    dsimp only
    rw [Machine.start_forget h hrun]
  | stop => exact onHardware_forget (hdone (Machine.stop_forget h hrun s.hardware))
  | advance slices => exact onHardware_forget (hdone (Machine.advance_forget hidle slices s.hardware))
  | quiesce =>
    exact onHardware_forget (hdone (Machine.advance_forget hidle station.machine.worker.slicesLeft s.hardware))
  | loadRecord r => exact onHardware_forget (hdone (station.machine.loadRecord_forget r s.hardware))
  | saveRecord =>
    refine onHardware_forget ?_
    dsimp only
    rw [Machine.saveRecord_forget hidle]
  | readMemory address count =>
    refine onHardware_forget ?_
    rw [readMemory_of_map hmap, readMemory_of_map (m := station.machine.forget) hmap]
  | writeMemory address data =>
    refine onHardware_forget ?_
    rw [writeMemory_of_map hmap, writeMemory_of_map (m := station.machine.forget) hmap]
  | tick =>
    dsimp only
    rw [show station.forget.machine.tick station.forget.energy s = _ from
      Machine.tick_forget h hpoised hrun station.energy s]
    rfl
  | suspend =>
    dsimp only
    rw [show station.forget.machine.suspend s = _ from Machine.suspend_forget hidle s]
    rfl
  | finalize =>
    dsimp only
    rw [show station.forget.machine.finalize s = _ from Machine.finalize_forget hidle s]
    rfl
  | scheduleScan => rfl
  | recharge amount simulate => rfl
  | terminal call => rfl
  | script change => rfl
  | platform platform => rfl
  | drainUpdates => rfl

end

end Station

end DeviceBus
