import DeviceBus.Proofs.Machine.Rest
import DeviceBus.Proofs.Machine.Slices

/-!
# Touching at rest

A machine reaches its devices and its emulator from a dozen operations, and the worker may not run beside
any of these calls (`Event.touches`).  So each operation that makes one waits for the worker first, in one
of three ways (`Machine.Barrier`), and what it does after that it does while the worker is idle:

    a ─ barrier ─▸ the worker is idle ─ calls, none of them a slice ─▸ b        (Machine.Waits a b)

Two waits in a row are one, since a wait for an idle worker does nothing (`Waits.rests_of_isIdle`).  A
piece of a machine's program waits like that or touches nothing (`Machine.Minds`), and so does every
operation (`Station.step_minds`), up to the cycles that a tick grants last.
-/

namespace DeviceBus

/-- Whether a call is one that the worker may not run beside.  Slices are the worker's own, a scan asks
providers only, and memory that is mapped is read and written at any time. -/
def Event.touches : Event → Bool
  | .device _ (.readMemory ..) => false
  | .device _ (.writeMemory ..) => false
  | .device .. => true
  | .emulator _ call => !call.isRun
  | .query .. => false

/-- A slice that the emulator of a machine ran. -/
def Event.SliceOf (id : MachineId) (e : Event) : Prop :=
  ∃ call : EmulatorCall, e = .emulator id call ∧ call.isRun = true

theorem Event.Query.touches {e : Event} (h : e.Query) : e.touches = false := by
  obtain ⟨element, entry, rfl⟩ := h
  rfl

namespace Worker

variable {σ : Type} {w w' : Worker}

theorem Turn.isIdle (h : Turn w w') (hidle : w.isIdle = true) : w'.isIdle = true := by
  cases h with
  | work h =>
    have hactivity : w.activity = .idle := of_decide_eq_true hidle
    cases h with
    | begin =>
      unfold begin
      rw [hactivity]
      exact hidle
    | slice hbusy outcome =>
      rw [hactivity] at hbusy
      cases hbusy
  | drop => exact w.drop_isIdle
  | join => exact hidle
  | takeFault => exact hidle
  | start refusal =>
    rcases w.start_cases refusal with ⟨-, he⟩ | ⟨-, he⟩ | ⟨reason, -, -, he⟩ <;> rw [he] <;> exact hidle

/-- A worker that is idle stays idle until it is granted cycles. -/
theorem GoesOn.isIdle (h : GoesOn w w') (hidle : w.isIdle = true) : w'.isIdle = true := by
  induction h with
  | refl => exact hidle
  | tail _ hturn ih => exact hturn.isIdle ih

end Worker

namespace Machine

open Worker (GoesOn)

/-! ## At rest -/

/-- What goes on beside an idle worker: it is granted nothing, no slice is run, and it is noted to be
idle. -/
structure Rests (a b : Machine × Hardware) : Prop where
  id : b.1.id = a.1.id
  worker : a.1.worker.GoesOn b.1.worker
  adds : a.2.Adds (Event.Aside true) b.2

section

variable {a b c : Machine × Hardware} {m m' : Machine} {hw hw' : Hardware}

theorem Rests.refl (a : Machine × Hardware) : Rests a a := ⟨rfl, .refl, .refl _ _⟩

theorem Rests.trans (h : Rests a b) (h' : Rests b c) : Rests a c :=
  ⟨h'.id.trans h.id, h.worker.trans h'.worker, h.adds.trans h'.adds⟩

theorem Rests.isIdle (h : Rests a b) (hidle : a.1.worker.isIdle = true) : b.1.worker.isIdle = true :=
  h.worker.isIdle hidle

theorem Stands.rests (h : Stands a b) (hidle : a.1.worker.isIdle = true) : Rests a b := by
  have hadds := h.adds
  rw [hidle] at hadds
  refine ⟨h.id, ?_, hadds⟩
  rw [h.worker]

/-- No call is made, and the worker is left alone. -/
theorem rests_of_worker (hid : m'.id = m.id) (hworker : m'.worker = m.worker) (hw : Hardware) :
    Rests (m, hw) (m', hw) := by
  refine ⟨hid, ?_, .refl _ hw⟩
  rw [hworker]

theorem SameInside.rests (h : m.SameInside m') (hw : Hardware) : Rests (m, hw) (m', hw) :=
  rests_of_worker h.id h.worker hw

/-! ## Barriers -/

/-- The ways to wait for a worker. -/
inductive Barrier : WorkerStep → Prop where
  /-- Everything granted is run. -/
  | quiesce : Barrier Worker.quiesce
  /-- The current slice ends, and the rest of the grant is dropped. -/
  | cancel : Barrier Worker.cancel
  /-- As a cancellation, and the thread ends. -/
  | shutdown : Barrier Worker.shutdown

variable {step : WorkerStep}

/-- A machine that waits for its worker runs slices of its own, and makes no other calls. -/
theorem Barrier.slices (h : Barrier step) (m : Machine) (hw : Hardware) :
    hw.Adds (Event.SliceOf m.id) (m.stepWorker step hw).2 := by
  have hslices : Worker.Carries (runSlice m.id) fun g g' =>
      g.hardware.Adds (Event.SliceOf m.id) g'.hardware :=
    ⟨fun _ => .refl _ _, .trans, fun _ _ => .one rfl ⟨_, rfl, rfl⟩⟩
  cases h with
  | quiesce => exact Worker.quiesce_carries hslices m.worker ⟨m.emulator, m.terminal, hw⟩
  | cancel => exact Worker.cancel_carries hslices m.worker ⟨m.emulator, m.terminal, hw⟩
  | shutdown => exact Worker.shutdown_carries hslices m.worker ⟨m.emulator, m.terminal, hw⟩

/-- To wait for an idle worker takes no slice. -/
theorem Barrier.rests (h : Barrier step) (hidle : m.worker.isIdle = true) (hw : Hardware) :
    Rests (m, hw) (m.stepWorker step hw) := by
  have hsame : (step (runSlice m.id) m.worker ⟨m.emulator, m.terminal, hw⟩).2 =
      ⟨m.emulator, m.terminal, hw⟩ := by
    cases h with
    | quiesce =>
      unfold Worker.quiesce
      rw [Worker.progress_of_isIdle _ hidle]
    | cancel => rw [Worker.cancel_of_isIdle _ hidle]
    | shutdown => rw [Worker.shutdown_of_isIdle _ hidle]
  have hworker : m.worker.GoesOn (m.stepWorker step hw).1.worker := by
    cases h with
    | quiesce => exact (Worker.progress_works _ _ _ _).goesOn
    | cancel => exact Worker.cancel_goesOn (runSlice m.id) m.worker ⟨m.emulator, m.terminal, hw⟩
    | shutdown => exact Worker.shutdown_goesOn (runSlice m.id) m.worker ⟨m.emulator, m.terminal, hw⟩
  refine ⟨rfl, hworker, ?_⟩
  rw [show (m.stepWorker step hw).2 = hw from congrArg Guest.hardware hsame]
  exact .refl _ _

/-- The machine waits for its worker, and goes on beside the idle worker. -/
def Waits (a b : Machine × Hardware) : Prop :=
  ∃ step, Barrier step ∧ (a.1.stepWorker step a.2).1.worker.isIdle = true ∧
    Rests (a.1.stepWorker step a.2) b

theorem Waits.isIdle (h : Waits a b) : b.1.worker.isIdle = true := by
  obtain ⟨step, -, hidle, hrests⟩ := h
  exact hrests.isIdle hidle

theorem Waits.rests (h : Waits a b) (h' : Rests b c) : Waits a c := by
  obtain ⟨step, hstep, hidle, hrests⟩ := h
  exact ⟨step, hstep, hidle, hrests.trans h'⟩

theorem Waits.rests_of_isIdle (h : Waits a b) (hidle : a.1.worker.isIdle = true) : Rests a b := by
  obtain ⟨step, hstep, -, hrests⟩ := h
  exact (hstep.rests hidle a.2).trans hrests

/-- What goes on beside an idle worker may as well wait for it first. -/
theorem Rests.waits (h : Rests a b) (hidle : a.1.worker.isIdle = true) : Waits a b := by
  have hwait : a.1.stepWorker Worker.quiesce a.2 = a := quiesce_of_isIdle hidle a.2
  refine ⟨Worker.quiesce, .quiesce, ?_, ?_⟩
  · rw [hwait]
    exact hidle
  · rw [hwait]
    exact h

/-- Whatever a wait depends on is the same. -/
structure SameWork (m m' : Machine) : Prop where
  id : m'.id = m.id
  worker : m'.worker = m.worker
  emulator : m'.emulator = m.emulator
  terminal : m'.terminal = m.terminal

theorem SameWork.rests (h : m.SameWork m') (hw : Hardware) : Rests (m, hw) (m', hw) :=
  rests_of_worker h.id h.worker hw

theorem SameWork.waits (h : m.SameWork m') (h' : Waits (m', hw) b) : Waits (m, hw) b := by
  obtain ⟨hid, hworker, hemulator, hterminal⟩ := h
  obtain ⟨step, hstep, hidle, hrests⟩ := h'
  have hsame : (m'.stepWorker step hw).1.worker = (m.stepWorker step hw).1.worker ∧
      (m'.stepWorker step hw).2 = (m.stepWorker step hw).2 := by
    unfold stepWorker
    rw [hid, hworker, hemulator, hterminal]
    exact ⟨rfl, rfl⟩
  dsimp only at hidle hrests
  refine ⟨step, hstep, ?_, ?_⟩
  · rw [← hsame.1]
    exact hidle
  · refine ⟨hrests.id.trans hid, ?_, ?_⟩
    · rw [← hsame.1]
      exact hrests.worker
    · rw [← hsame.2]
      exact hrests.adds

theorem setRunState_sameWork (m : Machine) (state : RunState) : m.SameWork (m.setRunState state) := by
  unfold setRunState
  split <;> exact ⟨rfl, rfl, rfl, rfl⟩

theorem observe_sameWork (m : Machine) (s : Site) : m.SameWork (m.observe s).1 := by
  unfold observe setBusState
  dsimp only
  split <;> exact ⟨rfl, rfl, rfl, rfl⟩

/-! ## Pieces -/

/-- Touches nothing, or waits first; and nothing is run if the worker is idle. -/
structure Minds (a b : Machine × Hardware) : Prop where
  touches : a.2.Adds (·.touches = false) b.2 ∨ Waits a b
  rests : a.1.worker.isIdle = true → Rests a b

theorem Waits.minds (h : Waits a b) : Minds a b := ⟨.inr h, h.rests_of_isIdle⟩

theorem SameWork.minds (h : m.SameWork m') (h' : Minds (m', hw) b) : Minds (m, hw) b :=
  ⟨h'.touches.imp_right h.waits, fun hidle => (h.rests hw).trans (h'.rests (by rw [h.worker]; exact hidle))⟩

/-- No call is made at all. -/
theorem Rests.minds (h : Rests (m, hw) (m', hw)) : Minds (m, hw) (m', hw) :=
  ⟨.inl (.refl _ hw), fun _ => h⟩

theorem halt_waits (m : Machine) (error : BootError) (hw : Hardware) :
    Waits (m, hw) (m.halt error hw) := by
  have hidle := m.cancel_isIdle hw
  refine ⟨Worker.cancel, .cancel, hidle, ?_⟩
  show Rests (m.cancel hw) _
  unfold halt
  generalize m.cancel hw = p at hidle
  obtain ⟨m₁, hw₁⟩ := p
  have hrelease := (m₁.releaseDevices_stands hw₁).rests hidle
  dsimp only
  generalize m₁.releaseDevices hw₁ = p at hrelease
  obtain ⟨m₂, hw₂⟩ := p
  have hresume : Rests (m₂, hw₂) ({ m₂ with resume := false }, hw₂) := ⟨rfl, .refl, .refl _ hw₂⟩
  exact (hrelease.trans hresume).trans ((settle_sameInside _ _ _).rests hw₂)

theorem enter_rests (h : m.worker.isIdle = true) (keepState : Bool) (map : DeviceMap) (hw : Hardware) :
    Rests (m, hw) (m.enter keepState map hw) := by
  obtain ⟨result, worker, hstart, houtcome⟩ := m.enter_cases keepState map hw
  have hworker : m.worker.GoesOn worker := by
    rw [← show _ = worker from congrArg Prod.snd hstart]
    cases keepState with
    | true => exact .single (.start m.worker m.platform.refusal)
    | false => exact .tail (.single (.takeFault m.worker)) (.start m.worker.takeFault.2 m.platform.refusal)
  have hseated : Rests (m, hw) ({ m with map := some map, media := .empty, worker }, hw) :=
    ⟨rfl, hworker, .refl _ hw⟩
  rcases houtcome with ⟨-, -, he⟩ | ⟨reason, -, -, he⟩ <;> rw [he]
  · exact hseated.trans ((settle_sameInside _ none .running).rests hw)
  · exact hseated.trans ((halt_waits _ (.io reason) hw).rests_of_isIdle (hworker.isIdle h))

theorem load_waits (h : m.worker.Paced) (hw : Hardware) : Waits (m, hw) (m.load hw) := by
  have hresume : m.SameWork { m with resume := false } := ⟨rfl, rfl, rfl, rfl⟩
  apply hresume.waits
  have hidle := quiesce_isIdle (m := { m with resume := false }) h hw
  refine ⟨Worker.quiesce, .quiesce, hidle, ?_⟩
  show Rests (({ m with resume := false } : Machine).quiesce hw) _
  unfold load
  dsimp only
  generalize ({ m with resume := false } : Machine).quiesce hw = p at hidle
  obtain ⟨m₁, hw₁⟩ := p
  have hattach := (m₁.attachAll_stands m.resume hw₁).rests hidle
  dsimp only
  split
  · next map m₂ hw₂ he =>
    rw [he] at hattach
    exact hattach.trans (enter_rests (hattach.isIdle hidle) m.resume map hw₂)
  · next error m₂ hw₂ he =>
    rw [he] at hattach
    exact hattach.trans ((m₂.halt_waits error hw₂).rests_of_isIdle (hattach.isIdle hidle))

theorem start_minds (h : m.worker.Paced) (hw : Hardware) : Minds (m, hw) (m.start hw).2 := by
  have haccept : m.SameWork m.accept := by
    unfold accept setRunState
    split <;> exact ⟨rfl, rfl, rfl, rfl⟩
  cases hload : m.startLoad? hw with
  | some p =>
    rw [start_of_some hload]
    obtain rfl : p = (m.accept, hw) := by
      unfold startLoad? at hload
      split at hload
      · exact (Option.some.inj hload).symm
      · cases hload
    refine (haccept.waits (load_waits ?_ hw)).minds
    rw [haccept.worker]
    exact h
  | none =>
    rw [start_of_none hload]
    dsimp only
    split
    · exact (haccept.rests hw).minds
    · exact (Rests.refl (m, hw)).minds

theorem stop_minds (m : Machine) (hw : Hardware) : Minds (m, hw) (m.stop hw) := by
  unfold stop
  split
  · refine ((m.setRunState_sameWork .stopping).waits ?_).minds
    have hidle := (m.setRunState .stopping).cancel_isIdle hw
    refine ⟨Worker.cancel, .cancel, hidle, ?_⟩
    show Rests ((m.setRunState .stopping).cancel hw) _
    generalize (m.setRunState .stopping).cancel hw = p at hidle
    obtain ⟨m₁, hw₁⟩ := p
    have hrelease := (m₁.releaseDevices_stands hw₁).rests hidle
    dsimp only
    generalize m₁.releaseDevices hw₁ = p at hrelease
    obtain ⟨m₂, hw₂⟩ := p
    have hreset : Rests (m₂, hw₂) (({ m₂ with resume := false } : Machine).resetTerminal, hw₂) :=
      ⟨rfl, .refl, .refl _ hw₂⟩
    exact (hrelease.trans hreset).trans ((setRunState_sameInside _ .stopped).rests hw₂)
  · exact (Rests.refl (m, hw)).minds

theorem clear_waits (h : m.worker.Paced) (hw : Hardware) : Waits (m, hw) (m.clear hw) := by
  have hidle := quiesce_isIdle h hw
  exact ⟨Worker.quiesce, .quiesce, hidle,
    ((m.quiesce hw).1.releaseDevices_stands (m.quiesce hw).2).rests hidle⟩

theorem clear_paced (h : m.worker.Paced) (hw : Hardware) : (m.clear hw).1.worker.Paced := by
  have hmoves : Moves [] false (m, hw) (m.clear hw) :=
    (m.quiesce_moves hw).trans ((m.quiesce hw).1.releaseDevices_moves (m.quiesce hw).2)
  exact hmoves.paced h

/-! ## Ticks -/

/-- Taking up the changes of the bus waits for the worker, or leaves everything else alone. -/
theorem absorbChanges_cases (h : m.worker.Paced) (hw : Hardware) :
    m.absorbChanges hw = ({ m with controller := m.controller.takeChanges.2 }, hw) ∨
      Waits (m, hw) (m.absorbChanges hw) := by
  have htaken : m.SameWork { m with controller := m.controller.takeChanges.2 } := ⟨rfl, rfl, rfl, rfl⟩
  have hclear := htaken.waits (clear_waits (m := { m with controller := m.controller.takeChanges.2 }) h hw)
  cases hload : m.absorbLoad? hw with
  | some p =>
    right
    have hp := (absorbLoad?_eq hload).1
    have hbegin : Waits (m, hw) p := by
      rw [hp]
      exact hclear.rests ⟨rfl, .refl, .refl _ _⟩
    have hpaced : p.1.worker.Paced := by
      rw [hp]
      exact clear_paced (m := { m with controller := m.controller.takeChanges.2 }) h hw
    rw [absorbChanges_of_some hload]
    exact hbegin.rests ((load_waits hpaced p.2).rests_of_isIdle hbegin.isIdle)
  | none =>
    rw [absorbChanges_of_none hload]
    dsimp only
    split
    · exact .inr hclear
    · exact .inl rfl

theorem absorbChanges_paced (h : m.worker.Paced) (hw : Hardware) : (m.absorbChanges hw).1.worker.Paced := by
  have hmoves : Moves m.controller.devices false (m, hw) (m.absorbChanges hw) :=
    m.absorbChanges_moves rfl hw
  exact hmoves.paced h

/-- What is left of the worker once cycles were granted for a charge, or none without one. -/
def Paid (charge : Option Nat) (cycles : Nat) (w w' : Worker) : Prop :=
  w' = w ∨ charge.isSome = true ∧ w' = (w.grant cycles).2

theorem Paid.of_none {charge : Option Nat} {cycles : Nat} {w w' : Worker} (h : Paid charge cycles w w')
    (hcharge : charge = none) : w' = w := by
  rcases h with h | ⟨hsome, -⟩
  · exact h
  · rw [hcharge] at hsome
    cases hsome

theorem advance_minds (m : Machine) (slices : Nat) (hw : Hardware) :
    Minds (m, hw) (m.advance slices hw) := by
  have hslices : Worker.Carries (runSlice m.id) fun g g' =>
      g.hardware.Adds (·.touches = false) g'.hardware :=
    ⟨fun _ => .refl _ _, .trans, fun _ _ => .one rfl rfl⟩
  refine ⟨.inl (Worker.progress_carries hslices slices m.worker ⟨m.emulator, m.terminal, hw⟩), ?_⟩
  intro hidle
  rw [advance_of_isIdle hidle]
  exact .refl _

theorem grantAtOnce_paid (m : Machine) (energy : EnergySource) :
    Paid (m.price? energy) m.config.cyclesPerTick.toNat m.worker (m.grantAtOnce energy).1.worker := by
  cases hprice : m.price? energy with
  | none =>
    rw [grantAtOnce_of_price?_eq_none hprice]
    exact .inl rfl
  | some amount =>
    obtain ⟨-, -, -, he⟩ := grantAtOnce_of_price?_eq_some hprice
    rw [he]
    exact .inr ⟨rfl, rfl⟩

/-- The worker may get on, and is granted cycles after that. -/
theorem grantTick_minds (energy : EnergySource) (hdue : m.Due) (hw : Hardware) :
    ∃ c, Minds (m, hw) c ∧ (m.grantTick energy hw).2.2 = c.2 ∧
      Paid (m.fee? energy hw) m.config.cyclesPerTick.toNat c.1.worker (m.grantTick energy hw).1.worker := by
  have hdrift : Minds (m, hw) (m.drift m.platform.look hw) :=
    drift_cases (P := Minds (m, hw)) (Rests.refl (m, hw)).minds (m.advance_minds · hw) m.platform.look
  have hpaid := (m.looked hw).grantAtOnce_paid energy
  rw [show (m.looked hw).config = m.config from (m.drift_acts m.platform.look hw).relays.config] at hpaid
  unfold fee?
  rw [grantTick_eq, if_pos hdue]
  exact ⟨_, hdrift, rfl, hpaid⟩

/-- A step halts the machine with a failure, or may grant cycles. -/
theorem step_minds (energy : EnergySource) (hrun : m.runState = .running)
    (hbus : m.controller.state = .ready) (hmap : m.map.isSome = true) (hw : Hardware) :
    ∃ c, Minds (m, hw) c ∧ (m.step energy hw).2.2 = c.2 ∧
      Paid (m.fee? energy hw) m.config.cyclesPerTick.toNat c.1.worker (m.step energy hw).1.worker := by
  unfold step
  split
  · next fault worker htake =>
    obtain rfl : worker = m.worker.takeFault.2 := (congrArg Prod.snd htake).symm
    dsimp only
    rw [halt_takeFault]
    exact ⟨_, (m.halt_waits (.emulation fault) hw).minds, rfl, .inl rfl⟩
  · next htake => exact grantTick_minds energy ⟨hrun, hbus, hmap, congrArg Prod.fst htake⟩ hw

theorem proceed_minds (hpaced : m.worker.Paced) (energy : EnergySource) (hw : Hardware) :
    ∃ c, Minds (m, hw) c ∧ (m.proceed energy hw).2.2 = c.2 ∧
      Paid (m.fee? energy hw) m.config.cyclesPerTick.toNat c.1.worker (m.proceed energy hw).1.worker := by
  unfold proceed
  split
  · exact ⟨_, (load_waits hpaced hw).minds, rfl, .inl rfl⟩
  · next hrun hbus =>
    split
    · have hresume : m.SameWork { m with resume := true } := ⟨rfl, rfl, rfl, rfl⟩
      have hload := load_waits (m := { m with resume := true }) hpaced hw
      exact ⟨_, (hresume.waits hload).minds, rfl, .inl rfl⟩
    · next hmap =>
      rw [Bool.not_eq_true, Option.isNone_eq_false_iff] at hmap
      exact step_minds energy hrun hbus hmap hw
  · exact ⟨(m, hw), (Rests.refl (m, hw)).minds, rfl, .inl rfl⟩

/-- A tick asks the bus for its devices, waits before it touches any, and may grant cycles last. -/
theorem tick_minds (hpaced : m.worker.Paced) (energy : EnergySource) (s : Site) :
    ∃ asked c, s.hardware.Asks asked ∧ Minds (m, asked) c ∧ (m.tick energy s).2.2.hardware = c.2 ∧
      Paid (m.charge? energy s) m.config.cyclesPerTick.toNat c.1.worker (m.tick energy s).1.worker := by
  have hasks : s.hardware.Asks (m.observe s).2.hardware := m.controller.poll_asks s
  have hobserve := m.observe_sameWork s
  have hconfig : (m.observe s).1.config = m.config := (setBusState_sameInside _ _).config
  unfold charge?
  rw [tick_eq]
  generalize m.observe s = p at hasks hobserve hconfig
  obtain ⟨m₁, s₁⟩ := p
  dsimp only at hasks hobserve hconfig ⊢
  have hpaced₁ : m₁.worker.Paced := by
    rw [hobserve.worker]
    exact hpaced
  have hpaced₂ := absorbChanges_paced hpaced₁ s₁.hardware
  have hcases := absorbChanges_cases hpaced₁ s₁.hardware
  have hconfig₂ := (m₁.absorbChanges_acts s₁.hardware).relays.config
  dsimp only at hconfig₂
  have hsame (hw : Hardware) : m₁.absorbChanges s₁.hardware =
      ({ m₁ with controller := m₁.controller.takeChanges.2 }, hw) →
      m.SameWork (m₁.absorbChanges s₁.hardware).1 := by
    intro heq
    rw [heq]
    exact ⟨hobserve.id, hobserve.worker, hobserve.emulator, hobserve.terminal⟩
  generalize m₁.absorbChanges s₁.hardware = p at hpaced₂ hcases hconfig₂ hsame
  obtain ⟨m₂, hw₂⟩ := p
  obtain ⟨c, hminds, hhardware, hpaid⟩ := proceed_minds hpaced₂ energy hw₂
  have hwhole : Minds (m, s₁.hardware) c := by
    rcases hcases with heq | hwaits
    · have hwork := hsame s₁.hardware heq
      obtain rfl : hw₂ = s₁.hardware := congrArg Prod.snd heq
      exact hwork.minds hminds
    · exact ((hobserve.waits hwaits).rests (hminds.rests hwaits.isIdle)).minds
  refine ⟨s₁.hardware, c, hasks, hwhole, hhardware, ?_⟩
  rw [hconfig₂, hconfig] at hpaid
  dsimp only
  generalize m₂.proceed energy hw₂ = p at hpaid
  obtain ⟨m₃, energy₃, hw₃⟩ := p
  have hworker : (m₃.flushTerminal.publishMedia hw₃).worker = m₃.worker :=
    (publishMedia_sameInside _ hw₃).worker.trans m₃.flushTerminal_sameInside.worker
  dsimp only at hpaid ⊢
  rw [hworker]
  exact hpaid

/-! ## Suspension and records -/

theorem suspend_waits (h : m.worker.Sound) (s : Site) :
    Waits (m, s.hardware) ((m.suspend s).1, (m.suspend s).2.hardware) := by
  have hidle := shutdown_isIdle h s.hardware
  refine ⟨Worker.shutdown, .shutdown, hidle, ?_⟩
  show Rests (m.shutdown s.hardware) _
  unfold suspend
  generalize m.shutdown s.hardware = p at hidle
  obtain ⟨m₁, hw₁⟩ := p
  have hnote : Stands (m₁, hw₁) (m₁, m₁.noteCall .releaseScratch hw₁) :=
    m₁.stands_of_adds (.one rfl ⟨rfl, fun _ h => nomatch h⟩)
  have hrelease := (hnote.trans (m₁.releaseDevices_stands _)).rests hidle
  dsimp only
  generalize m₁.releaseDevices (m₁.noteCall .releaseScratch hw₁) = p at hrelease
  obtain ⟨m₂, hw₂⟩ := p
  have hresume : Rests (m₂, hw₂)
      (if m₂.runState = .running then { m₂ with resume := true } else m₂, hw₂) := by
    split <;> exact ⟨rfl, .refl, .refl _ hw₂⟩
  dsimp only
  generalize (if m₂.runState = .running then { m₂ with resume := true } else m₂) = m₃ at hresume
  have hdispose : Rests (m₃, hw₂) ({ m₃ with controller := (m₃.controller.dispose s.topology).1 }, hw₂) :=
    ⟨rfl, .refl, .refl _ hw₂⟩
  exact (hrelease.trans hresume).trans hdispose

theorem finalize_waits (h : m.worker.Sound) (s : Site) :
    Waits (m, s.hardware) ((m.finalize s).1, (m.finalize s).2.hardware) := by
  have hsuspend := suspend_waits h s
  unfold finalize
  generalize m.suspend s = p at hsuspend
  obtain ⟨m₁, s₁⟩ := p
  have hidle := hsuspend.isIdle
  dsimp only at hsuspend hidle ⊢
  have hdevices : Stands (m₁, s₁.hardware) (m₁, m₁.controller.devices.foldl
      (fun hw d => hw.finalize d.device.handle) s₁.hardware) := by
    apply m₁.stands_of_adds
    exact Hardware.foldl_adds (fun hw (d : BusDevice) => Hardware.finalize_adds
      ⟨rfl, fun _ h => nomatch h⟩) _ _
  generalize m₁.controller.devices.foldl (fun hw d => hw.finalize d.device.handle) s₁.hardware = hw₁
    at hdevices
  have hreset := (hdevices.trans (m₁.resetEmulator_stands hw₁)).rests hidle
  generalize m₁.resetEmulator hw₁ = p at hreset
  obtain ⟨m₂, hw₂⟩ := p
  have hcleared : Rests (m₂, hw₂) (({ m₂ with
      pendingStates := .empty, media := .empty, resume := false } : Machine).resetTerminal, hw₂) :=
    ⟨rfl, .refl, .refl _ hw₂⟩
  exact hsuspend.rests ((hreset.trans hcleared).trans ((settle_sameInside _ none .stopped).rests hw₂))

theorem saveRecord_waits (h : m.worker.Paced) (hw : Hardware) : Waits (m, hw) (m.saveRecord hw).2 := by
  have hidle := quiesce_isIdle h hw
  refine ⟨Worker.quiesce, .quiesce, hidle, ?_⟩
  have hsaved := foldl_saveDevice_adds (P := Event.Aside true) (fun _ => ⟨rfl, fun _ h => nomatch h⟩)
    (m.quiesce hw).1.controller.devices ((m.quiesce hw).1.pendingStates, (m.quiesce hw).2)
  have hnote : (m.quiesce hw).2.Adds (Event.Aside true) (m.saveRecord hw).2.2 :=
    hsaved.trans (.one rfl ⟨rfl, fun _ h => nomatch h⟩)
  exact ⟨rfl, .refl, hnote⟩

theorem restoreEmulator_stands (m : Machine) (state : Bytes) (hw : Hardware) :
    Stands (m, hw) (m.restoreEmulator state hw).2 := by
  unfold restoreEmulator
  split
  · exact ⟨rfl, rfl, .one rfl ⟨rfl, fun _ h => nomatch h⟩⟩
  · exact ⟨rfl, rfl, .one rfl ⟨rfl, fun _ h => nomatch h⟩⟩

theorem loadRecord_waits (m : Machine) (r : Record) (hw : Hardware) :
    Waits (m, hw) (m.loadRecord r hw) := by
  have hidle := m.cancel_isIdle hw
  refine ⟨Worker.cancel, .cancel, hidle, ?_⟩
  show Rests (m.cancel hw) _
  unfold loadRecord
  generalize m.cancel hw = p at hidle
  obtain ⟨m₁, hw₁⟩ := p
  have hrelease := m₁.releaseDevices_stands hw₁
  dsimp only
  generalize m₁.releaseDevices hw₁ = p at hrelease
  obtain ⟨m₂, hw₂⟩ := p
  have hadopt : Stands (m₁, hw₁) (m₂.adoptRecord r, hw₂) := hrelease.trans ⟨rfl, rfl, .refl _ hw₂⟩
  dsimp only
  split
  · exact hadopt.rests hidle
  · have hrestore := (m₂.adoptRecord r).restoreEmulator_stands r.emulation hw₂
    split
    · next he =>
      rw [he] at hrestore
      exact (hadopt.trans hrestore).rests hidle
    · next fault m₃ hw₃ he =>
      rw [he] at hrestore
      have hreject : Stands (m₃, hw₃) (m₃.rejectEmulation fault, hw₃) := by
        unfold rejectEmulation
        dsimp only
        split <;> exact ⟨rfl, rfl, .refl _ hw₃⟩
      exact ((hadopt.trans hrestore).trans hreject).rests hidle

end

end Machine

end DeviceBus
