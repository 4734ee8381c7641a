import DeviceBus.Proofs.Machine.Charts
import Mathlib.Algebra.GroupWithZero.Nat

/-!
# Charges and grants

A tick that runs the machine looks for a failure of the worker, then whether it is idle; if there is none
and it is, the tick charges the source and grants the cycles.  The grant may be refused, and nobody looks
whether it was.  A machine with devices attached has a worker that runs, unless the worker died of a
failure that nobody took (`Machine.Powered`), so what can come between is a failure that is raised after
the first look and before the second (`Machine.lateFault?`), and nothing else.

A tick is free and grants nothing, or charges what the bus draws and grants the cycles of a tick, and that
grant is refused only after such a failure (`Machine.tick_settles`); `Machine.charge?` says what it charges.
No other operation charges or grants.
-/

namespace DeviceBus

/-- A sum that saturates at every step is the sum, saturated once. -/
theorem Consumption.total_eq {base : Nat} (h : base ≤ limit) (draws : List Int) :
    total base draws = min limit (base + (draws.map Int.toNat).sum) := by
  induction draws generalizing base with
  | nil => exact (Nat.min_eq_right h).symm
  | cons draw draws ih =>
    have hrest : total base (draw :: draws) = total (min limit (base + draw.toNat)) draws := rfl
    rw [hrest, ih (Nat.min_le_left _ _), List.map_cons, List.sum_cons]
    omega

theorem EnergyStore.consume_true (store : EnergyStore) (amount : Nat) :
    store.consume amount true = (decide (amount ≤ store.stored), store) := by
  unfold consume
  split
  · next h => rw [decide_eq_false (Nat.not_le.2 h)]
  · next h =>
    rw [decide_eq_true (Nat.not_lt.1 h)]
    rfl

/-- What is taken was stored, and is missing afterwards. -/
theorem EnergyStore.consume_false {store : EnergyStore} {amount : Nat} (h : amount ≤ store.stored) :
    (store.consume amount false).2.capacity = store.capacity ∧
      (store.consume amount false).2.stored + amount = store.stored := by
  unfold consume
  rw [if_neg (Nat.not_lt.2 h)]
  exact ⟨rfl, Nat.sub_add_cancel h⟩

namespace Machine

/-! ## Operations grant nothing -/

section

variable {bus : List BusDevice} {a b : Machine × Hardware}

theorem Move.goesOn (h : Move bus false a b) : a.1.worker.GoesOn b.1.worker := by
  cases h with
  | other hw hworker hstates =>
    dsimp only
    rw [hworker]
  | calls m h => exact .refl
  | hand hw hentry hstate => exact .refl
  | advance m slices hw =>
    exact (Worker.progress_works (runSlice m.id) slices m.worker ⟨m.emulator, m.terminal, hw⟩).goesOn
  | cancel m hw => exact Worker.cancel_goesOn (runSlice m.id) m.worker ⟨m.emulator, m.terminal, hw⟩
  | shutdown m hw => exact Worker.shutdown_goesOn (runSlice m.id) m.worker ⟨m.emulator, m.terminal, hw⟩
  | takeFault m hw => exact .single (.takeFault _)
  | start m refusal hw => exact .single (.start _ refusal)
  | grant m cycles hw hgrants => cases hgrants

/-- Without a grant among the moves, the worker is granted nothing. -/
theorem Moves.goesOn (h : Moves bus false a b) : a.1.worker.GoesOn b.1.worker := by
  induction h with
  | refl => exact .refl
  | tail _ hmove ih => exact ih.trans hmove.goesOn

end

theorem releaseDevices_worker (m : Machine) (hw : Hardware) :
    (m.releaseDevices hw).1.worker = m.worker := by
  unfold releaseDevices
  split <;> rfl

theorem loadRecord_worker (m : Machine) (r : Record) (hw : Hardware) :
    (m.loadRecord r hw).1.worker = (m.cancel hw).1.worker := by
  have hrelease := (m.cancel hw).1.releaseDevices_worker (m.cancel hw).2
  unfold loadRecord
  generalize m.cancel hw = p at hrelease
  obtain ⟨m', hw'⟩ := p
  dsimp only at hrelease ⊢
  generalize m'.releaseDevices hw' = p at hrelease
  obtain ⟨m'', hw''⟩ := p
  dsimp only at hrelease ⊢
  unfold restoreEmulator
  split
  · exact hrelease
  · split
    · next he =>
      split at he
      · cases he
        exact hrelease
      · cases he
    · next he =>
      split at he
      · cases he
      · cases he
        unfold rejectEmulation
        dsimp only
        split <;> exact hrelease

end Machine

/-- Only a tick grants the worker cycles. -/
theorem Station.step_goesOn (station : Station) (s : Site) {op : MachineOp} (hop : op ≠ .tick) :
    station.machine.worker.GoesOn (station.step s op).2.1.machine.worker := by
  have hgrants : op.grants = false := by
    cases op with
    | tick => exact absurd rfl hop
    | _ => rfl
  cases hstates : op.replacesStates with
  | false =>
    have hmoves := station.step_moves s hstates
    rw [hgrants] at hmoves
    exact hmoves.goesOn
  | true =>
    cases op with
    | finalize =>
      obtain ⟨m', hmoves, hworker⟩ : ∃ m', Machine.Moves [] false (station.machine, s.hardware)
          (m', (station.machine.finalize s).2.hardware) ∧
          (station.machine.finalize s).1.worker = m'.worker := station.machine.finalize_moves s
      show station.machine.worker.GoesOn (station.machine.finalize s).1.worker
      rw [hworker]
      exact hmoves.goesOn
    | loadRecord r =>
      show station.machine.worker.GoesOn (station.machine.loadRecord r s.hardware).1.worker
      rw [Machine.loadRecord_worker]
      have hcancel : Machine.Move [] false (station.machine, s.hardware)
          (station.machine.cancel s.hardware) := .cancel _ _
      exact hcancel.goesOn
    | _ => cases hstates

/-! ## Powered machines -/

namespace Machine

variable {m : Machine}

/-- If devices are attached, the worker runs, or died of a failure that nobody took. -/
def Powered (m : Machine) : Prop := m.map.isSome = true → m.worker.Answers

theorem Powered.of_none (h : m.map = none) : m.Powered := by
  intro hmap
  rw [h] at hmap
  cases hmap

theorem Powered.congr {m' : Machine} (h : m.Powered) (hmap : m'.map = m.map)
    (hworker : m'.worker = m.worker) : m'.Powered := by
  unfold Powered
  rw [hmap, hworker]
  exact h

/-- A load starts the worker, or leaves no device attached. -/
theorem load_powered (m : Machine) (hw : Hardware) : (m.load hw).1.Powered := by
  unfold load
  generalize ({ m with resume := false } : Machine).quiesce hw = p
  obtain ⟨m₁, hw₁⟩ := p
  dsimp only
  split
  · next map m₂ hw₂ _ =>
    obtain ⟨_, worker, hstart, ⟨rfl, -, he⟩ | ⟨reason, -, -, he⟩⟩ := m₂.enter_cases m.resume map hw₂ <;> rw [he]
    · intro _
      rw [(settle_sameInside _ none .running).worker]
      exact Worker.start_answers hstart
    · exact .of_none (halt_outcome _ _ _).2.2
  · next e m₂ hw₂ _ => exact .of_none (m₂.halt_outcome e hw₂).2.2

theorem Powered.start (h : m.Powered) (hw : Hardware) : (m.start hw).2.1.Powered := by
  cases hload : m.startLoad? hw with
  | some p =>
    rw [start_of_some hload]
    exact p.1.load_powered p.2
  | none =>
    rw [start_of_none hload]
    dsimp only
    split
    · exact h.congr m.accept_map (setRunState_sameInside _ .loading).worker
    · exact h

theorem Powered.absorbChanges (h : m.Powered) (hw : Hardware) : (m.absorbChanges hw).1.Powered := by
  cases hload : m.absorbLoad? hw with
  | some p =>
    rw [absorbChanges_of_some hload]
    exact p.1.load_powered p.2
  | none =>
    rw [absorbChanges_of_none hload]
    dsimp only
    split
    · exact .of_none (releaseDevices_map _ _)
    · exact h

/-- Waiting for the worker, or letting it run, leaves the machine powered. -/
theorem Powered.advance (h : m.Powered) (slices : Nat) (hw : Hardware) :
    (m.advance slices hw).1.Powered :=
  fun hmap => (Worker.progress_works _ slices m.worker _).answers (h hmap)

theorem Powered.drift (h : m.Powered) (slices : Option Nat) (hw : Hardware) : (m.drift slices hw).1.Powered :=
  drift_cases (P := fun p => p.1.Powered) h (h.advance · hw) slices

theorem Powered.grantAtOnce (h : m.Powered) (energy : EnergySource) : (m.grantAtOnce energy).1.Powered := by
  unfold Machine.grantAtOnce
  split
  · exact h
  · dsimp only
    split
    · exact h
    · exact fun hmap => Worker.grant_answers (h hmap) _

theorem Powered.grantTick (h : m.Powered) (energy : EnergySource) (hw : Hardware) :
    (m.grantTick energy hw).1.Powered := by
  rw [grantTick_eq]
  exact (h.drift m.platform.look hw).grantAtOnce energy

theorem Powered.step (h : m.Powered) (energy : EnergySource) (hw : Hardware) :
    (m.step energy hw).1.Powered := by
  unfold Machine.step
  split
  · exact .of_none (halt_outcome _ _ _).2.2
  · exact h.grantTick energy hw

theorem Powered.proceed (h : m.Powered) (energy : EnergySource) (hw : Hardware) :
    (m.proceed energy hw).1.Powered := by
  cases hload : m.proceedLoad? hw with
  | some p =>
    rw [proceed_of_some hload]
    exact p.1.load_powered p.2
  | none =>
    rcases proceed_of_none hload energy with he | ⟨-, -, he⟩
    · rw [he]
      exact h
    · rw [he]
      exact h.step energy hw

theorem Powered.observe (h : m.Powered) (s : Site) : (m.observe s).1.Powered :=
  h.congr (m.observe_steady s).map (setBusState_sameInside _ _).worker

theorem Powered.tick (h : m.Powered) (energy : EnergySource) (s : Site) :
    (m.tick energy s).1.Powered := by
  have hobserve := h.observe s
  rw [tick_eq]
  generalize m.observe s = p at hobserve
  obtain ⟨m₁, s₁⟩ := p
  have habsorb := hobserve.absorbChanges s₁.hardware
  dsimp only
  generalize m₁.absorbChanges s₁.hardware = p at habsorb
  obtain ⟨m₂, hw₂⟩ := p
  have hproceed := habsorb.proceed energy hw₂
  dsimp only
  generalize m₂.proceed energy hw₂ = p at hproceed
  obtain ⟨m₃, energy', hw₃⟩ := p
  refine hproceed.congr ((flushTerminal_steady m₃).trans (publishMedia_steady _ hw₃)).map ?_
  exact (publishMedia_sameInside _ hw₃).worker.trans m₃.flushTerminal_sameInside.worker

end Machine

theorem Station.step_powered {station : Station} (h : station.machine.Powered) (s : Site)
    (op : MachineOp) : (station.step s op).2.1.machine.Powered := by
  cases op with
  | start => exact h.start s.hardware
  | tick => exact h.tick station.energy s
  | stop =>
    show (station.machine.stop s.hardware).1.Powered
    unfold Machine.stop
    split
    · exact .of_none ((Machine.setRunState_sameInside _ _).map.trans (Machine.releaseDevices_map _ _))
    · exact h
  | advance slices => exact h.advance slices s.hardware
  | quiesce => exact h.advance station.machine.worker.slicesLeft s.hardware
  | saveRecord => exact h.advance station.machine.worker.slicesLeft s.hardware
  | suspend => exact .of_none (station.machine.suspend_map s)
  | finalize => exact .of_none (station.machine.finalize_map s)
  | loadRecord r => exact .of_none (station.machine.loadRecord_map r s.hardware)
  | readMemory address count =>
    show (readMemory station.machine address count s.hardware).2.1.Powered
    unfold readMemory
    split <;> exact h
  | writeMemory address data =>
    show (writeMemory station.machine address data s.hardware).2.1.Powered
    unfold writeMemory
    split <;> exact h
  | _ => exact h

/-! ## Ticks -/

namespace Machine

variable {m : Machine}

/-- What the machine and the devices of its bus draw in a tick, as far as that can be stated.  A device
that gives energy counts as drawing none. -/
def draw (m : Machine) : Nat :=
  min Consumption.limit
    (m.config.energyPerTick.toNat + (m.controller.devices.map fun d => d.draw.toNat).sum)

theorem consumption_eq (h : m.controller.baseDraw = m.config.energyPerTick.toNat) :
    m.controller.consumption = m.draw := by
  have hbase : m.controller.baseDraw ≤ Consumption.limit := by
    rw [h]
    exact Nat.le_sub_one_of_lt m.config.energyPerTick.toNat_lt
  unfold Controller.consumption draw
  rw [Consumption.total_eq hbase, List.map_map, h]
  rfl

/-- A tick looks whether the worker is idle: the machine runs with devices attached on a ready bus, and
there is no failure to be taken. -/
def Due (m : Machine) : Prop :=
  m.runState = .running ∧ m.controller.state = .ready ∧ m.map.isSome = true ∧ m.worker.fault = none

instance (m : Machine) : Decidable m.Due := inferInstanceAs (Decidable (_ ∧ _))

/-- The machine as it is when a tick looks whether the worker is idle. -/
def looked (m : Machine) (hw : Hardware) : Machine := (m.drift m.platform.look hw).1

/-- What the machine is charged, if it is charged anything. -/
def price? (m : Machine) (energy : EnergySource) : Option Nat :=
  if m.worker.isIdle = true ∧ (energy.consume m.controller.consumption true).1 = true then
    some m.controller.consumption
  else none

/-- What the rest of a tick charges, if it charges anything. -/
def fee? (m : Machine) (energy : EnergySource) (hw : Hardware) : Option Nat :=
  if m.Due then (m.looked hw).price? energy else none

/-- What a tick charges, if it charges anything. -/
def charge? (m : Machine) (energy : EnergySource) (s : Site) : Option Nat :=
  let (m, s) := m.observe s
  let (m, hw) := m.absorbChanges s.hardware
  m.fee? energy hw

/-- The failure that a slice raises in the rest of a tick, between the look for a failure and the look
whether the worker is idle. -/
def slip? (m : Machine) (hw : Hardware) : Option Fault :=
  if m.Due then (m.looked hw).worker.fault else none

/-- The failure that a slice raises in a tick after the tick looked for one. -/
def lateFault? (m : Machine) (s : Site) : Option Fault :=
  let (m, s) := m.observe s
  let (m, hw) := m.absorbChanges s.hardware
  m.slip? hw

theorem drift_works (m : Machine) (slices : Option Nat) (hw : Hardware) :
    m.worker.Works (m.drift slices hw).1.worker :=
  drift_cases (P := fun p => m.worker.Works p.1.worker) .refl
    (fun slices => Worker.progress_works (runSlice m.id) slices m.worker ⟨m.emulator, m.terminal, hw⟩) slices

/-- How a tick settles with a store, given the worker before, the machine after and the failure that was
raised late: free of charge, and then the worker is granted nothing; or at the charge of what the bus draws,
which was stored, and then the machine runs with devices attached on a ready bus, and its worker, which was
idle, was granted the cycles of a tick.  Unless there was a late failure the worker had not failed, and
accepted them. -/
inductive Settles (before : Worker) (store : EnergyStore) (m : Machine) (late : Option Fault) :
    EnergyStore → Option Nat → Prop where
  | free (hworker : before.GoesOn m.worker) : Settles before store m late store none
  | charged {w : Worker} {left : EnergyStore} (hworker : before.GoesOn w) (hidle : w.isIdle = true)
      (hfault : w.fault = late) (hgranted : m.worker = (w.grant m.config.cyclesPerTick.toNat).2)
      (haccepted : late = none → m.worker = { w with activity := .granted m.config.cyclesPerTick.toNat })
      (hrun : m.runState = .running) (hbus : m.controller.state = .ready)
      (hmap : m.map.isSome = true) (hcapacity : left.capacity = store.capacity)
      (hpaid : left.stored + m.draw = store.stored) : Settles before store m late left (some m.draw)

namespace Settles

variable {store left : EnergyStore} {before w : Worker} {charge : Option Nat} {late : Option Fault}
  {m' : Machine}

theorem head (h : Settles w store m late left charge) (hworker : before.GoesOn w) :
    Settles before store m late left charge := by
  cases h with
  | free hrest => exact .free (hworker.trans hrest)
  | charged hrest hidle hfault hgranted haccepted hrun hbus hmap hcapacity hpaid =>
    exact .charged (hworker.trans hrest) hidle hfault hgranted haccepted hrun hbus hmap hcapacity hpaid

/-- What leaves worker, map, run state, settings and controller alone settles nothing more. -/
theorem tail (h : Settles before store m late left charge) (hworker : m'.worker = m.worker)
    (hsteady : m.Steady m') (hrelays : m.Relays m') : Settles before store m' late left charge := by
  have hdraw : m'.draw = m.draw := by
    unfold draw
    rw [hrelays.config, hrelays.controller]
  cases h with
  | free hrest => exact .free (hworker ▸ hrest)
  | charged hrest hidle hfault hgranted haccepted hrun hbus hmap hcapacity hpaid =>
    rw [← hdraw] at hpaid ⊢
    refine .charged hrest hidle hfault ?_ (fun hlate => ?_) (hsteady.runState.trans hrun) ?_ ?_ hcapacity hpaid
    · rw [hworker, hrelays.config]
      exact hgranted
    · rw [hworker, hrelays.config]
      exact haccepted hlate
    · rw [hrelays.controller]
      exact hbus
    · rw [hsteady.map]
      exact hmap

theorem capacity_eq (h : Settles before store m late left charge) : left.capacity = store.capacity := by
  cases h with
  | free => rfl
  | charged _ _ _ _ _ _ _ _ hcapacity => exact hcapacity

/-- The store has less by the charge, and nothing else. -/
theorem stored_eq (h : Settles before store m late left charge) :
    left.stored + charge.toList.sum = store.stored := by
  cases h with
  | free => rfl
  | charged _ _ _ _ _ _ _ _ _ hpaid => exact hpaid

/-- The worker comes by the cycles of a tick at most for a charge, and by none without. -/
theorem accounted_le (h : Settles before store m late left charge) :
    m.worker.accounted ≤ before.accounted + m.config.cyclesPerTick.toNat * charge.toList.length := by
  cases h with
  | free hworker => exact hworker.accounted_le
  | @charged w _ hworker hidle _ hgranted =>
    have haccounted := Worker.grant_accounted_le hidle m.config.cyclesPerTick.toNat
    rw [hgranted]
    show _ ≤ before.accounted + m.config.cyclesPerTick.toNat * 1
    rw [Nat.mul_one]
    exact Nat.le_trans haccounted (Nat.add_le_add_right hworker.accounted_le _)

end Settles

/-- A machine whose worker is not idle, or whose source has too little, is not charged. -/
theorem grantAtOnce_of_price?_eq_none {energy : EnergySource} (h : m.price? energy = none) :
    m.grantAtOnce energy = (m, energy) := by
  unfold price? at h
  unfold grantAtOnce
  split at h
  · cases h
  · next hprice =>
    split
    · rfl
    · next hidle =>
      dsimp only
      split
      · rfl
      · next hrich => exact absurd ⟨by simpa using hidle, by simpa using hrich⟩ hprice

/-- A machine that is charged has its input delivered and its worker granted a tick. -/
theorem grantAtOnce_of_price?_eq_some {energy : EnergySource} {amount : Nat}
    (h : m.price? energy = some amount) :
    amount = m.controller.consumption ∧ m.worker.isIdle = true ∧ (energy.consume amount true).1 = true ∧
      m.grantAtOnce energy = ({ m with
        terminal := m.terminal.deliverInput
        worker := (m.worker.grant m.config.cyclesPerTick.toNat).2 }, (energy.consume amount false).2) := by
  unfold price? at h
  split at h
  · next hprice =>
    cases h
    refine ⟨rfl, hprice.1, hprice.2, ?_⟩
    unfold grantAtOnce
    dsimp only
    rw [hprice.1, hprice.2]
    rfl
  · cases h

/-- A grant is charged, and refused only if the worker died of a failure. -/
theorem grantAtOnce_settles (store : EnergyStore) (hpowered : m.Powered)
    (hcycles : 0 < m.config.cyclesPerTick.toNat)
    (hbase : m.controller.baseDraw = m.config.energyPerTick.toNat) (hrun : m.runState = .running)
    (hbus : m.controller.state = .ready) (hmap : m.map.isSome = true) :
    ∃ left, (m.grantAtOnce (.metered store)).2 = .metered left ∧
      Settles m.worker store (m.grantAtOnce (.metered store)).1 m.worker.fault left
        (m.price? (.metered store)) := by
  cases hprice : m.price? (.metered store) with
  | none =>
    rw [grantAtOnce_of_price?_eq_none hprice]
    exact ⟨store, rfl, .free .refl⟩
  | some amount =>
    obtain ⟨rfl, hidle, hrich, he⟩ := grantAtOnce_of_price?_eq_some hprice
    replace hrich : (store.consume m.controller.consumption true).1 = true := hrich
    rw [store.consume_true, consumption_eq hbase] at hrich
    have hpaid := EnergyStore.consume_false (of_decide_eq_true hrich)
    rw [consumption_eq hbase] at he ⊢
    rw [he]
    refine ⟨_, rfl, .charged .refl hidle rfl rfl (fun hfault => ?_) hrun hbus hmap hpaid.1 hpaid.2⟩
    refine Worker.grant_of_isIdle ?_ hidle hcycles
    rcases hpowered hmap with hrunning | hfailed
    · exact hrunning
    · rw [hfault] at hfailed
      cases hfailed

theorem fee?_of_not_due {energy : EnergySource} {hw : Hardware} (h : ¬m.Due) : m.fee? energy hw = none :=
  if_neg h

theorem grantTick_settles (store : EnergyStore) (hpowered : m.Powered)
    (hcycles : 0 < m.config.cyclesPerTick.toNat)
    (hbase : m.controller.baseDraw = m.config.energyPerTick.toNat) (hdue : m.Due) (hw : Hardware) :
    ∃ left, (m.grantTick (.metered store) hw).2.1 = .metered left ∧
      Settles m.worker store (m.grantTick (.metered store) hw).1 (m.slip? hw) left
        (m.fee? (.metered store) hw) := by
  have hworks := m.drift_works m.platform.look hw
  have hpowered' := hpowered.drift m.platform.look hw
  have hsteady := m.drift_steady m.platform.look hw
  have hrelays := (m.drift_acts m.platform.look hw).relays
  rw [grantTick_eq, fee?, slip?, if_pos hdue, if_pos hdue]
  obtain ⟨hrun, hbus, hmap, -⟩ := hdue
  unfold looked
  generalize m.drift m.platform.look hw = p at hworks hpowered' hsteady hrelays
  obtain ⟨m₁, hw₁⟩ := p
  dsimp only at hworks hpowered' hsteady hrelays ⊢
  have hcycles' : 0 < m₁.config.cyclesPerTick.toNat := by
    rw [hrelays.config]
    exact hcycles
  have hbase' : m₁.controller.baseDraw = m₁.config.energyPerTick.toNat := by
    rw [hrelays.controller, hrelays.config]
    exact hbase
  have hbus' : m₁.controller.state = .ready := by
    rw [hrelays.controller]
    exact hbus
  have hmap' : m₁.map.isSome = true := by
    rw [hsteady.map]
    exact hmap
  obtain ⟨left, henergy, hsettles⟩ :=
    grantAtOnce_settles store hpowered' hcycles' hbase' (hsteady.runState.trans hrun) hbus' hmap'
  exact ⟨left, henergy, hsettles.head hworks.goesOn⟩

theorem step_settles (store : EnergyStore) (hpowered : m.Powered) (hcycles : 0 < m.config.cyclesPerTick.toNat)
    (hbase : m.controller.baseDraw = m.config.energyPerTick.toNat) (hrun : m.runState = .running)
    (hbus : m.controller.state = .ready) (hmap : m.map.isSome = true) (hw : Hardware) :
    ∃ left, (m.step (.metered store) hw).2.1 = .metered left ∧
      Settles m.worker store (m.step (.metered store) hw).1 (m.slip? hw) left (m.fee? (.metered store) hw) := by
  unfold Machine.step
  split
  · next fault worker htake =>
    have hfault : m.worker.fault = some fault := congrArg Prod.fst htake
    have hworker : worker = m.worker.takeFault.2 := (congrArg Prod.snd htake).symm
    have hnotDue : ¬m.Due := by
      rintro ⟨-, -, -, hnone⟩
      rw [hfault] at hnone
      cases hnone
    have hhalt : Moves [] false ({ m with worker }, hw)
        (({ m with worker } : Machine).halt (.emulation fault) hw) := halt_moves _ _ hw
    rw [fee?_of_not_due hnotDue]
    refine ⟨store, rfl, .free (.head (.takeFault m.worker) ?_)⟩
    rw [← hworker]
    exact hhalt.goesOn
  · next worker htake =>
    exact grantTick_settles store hpowered hcycles hbase ⟨hrun, hbus, hmap, congrArg Prod.fst htake⟩ hw

theorem proceed_settles (store : EnergyStore) (hpowered : m.Powered)
    (hcycles : 0 < m.config.cyclesPerTick.toNat)
    (hbase : m.controller.baseDraw = m.config.energyPerTick.toNat) (hw : Hardware) :
    ∃ left, (m.proceed (.metered store) hw).2.1 = .metered left ∧
      Settles m.worker store (m.proceed (.metered store) hw).1 (m.slip? hw) left (m.fee? (.metered store) hw) := by
  unfold Machine.proceed
  split
  · next hrun hbus =>
    have hload : Moves m.controller.devices false (m, hw) (m.load hw) := m.load_moves rfl hw
    have hnotDue : ¬m.Due := by
      rintro ⟨hrunning, -⟩
      rw [hrunning] at hrun
      cases hrun
    rw [fee?_of_not_due hnotDue]
    exact ⟨store, rfl, .free hload.goesOn⟩
  · next hrun hbus =>
    split
    · next hnone =>
      have hload : Moves m.controller.devices false ({ m with resume := true }, hw)
          (({ m with resume := true } : Machine).load hw) := load_moves { m with resume := true } rfl hw
      have hnotDue : ¬m.Due := by
        rintro ⟨-, -, hmap, -⟩
        rw [Option.isNone_iff_eq_none] at hnone
        rw [hnone] at hmap
        cases hmap
      rw [fee?_of_not_due hnotDue]
      exact ⟨store, rfl, .free hload.goesOn⟩
    · next hsome =>
      have hmap : m.map.isSome = true := by
        rwa [Bool.not_eq_true, Option.isNone_eq_false_iff] at hsome
      exact step_settles store hpowered hcycles hbase hrun hbus hmap hw
  · next hloading hrunning =>
    rw [fee?_of_not_due fun hdue => hrunning hdue.1 hdue.2.1]
    exact ⟨store, rfl, .free .refl⟩

/-- A tick charges the store what it says, and settles for that. -/
theorem tick_settles (store : EnergyStore) (hpowered : m.Powered) (hcycles : 0 < m.config.cyclesPerTick.toNat)
    (hbase : m.controller.baseDraw = m.config.energyPerTick.toNat) (s : Site) :
    ∃ left, (m.tick (.metered store) s).2.1 = .metered left ∧
      Settles m.worker store (m.tick (.metered store) s).1 (m.lateFault? s) left
        (m.charge? (.metered store) s) := by
  have hobserved := hpowered.observe s
  have hobserve : Moves [] false (m, s.hardware) ((m.observe s).1, (m.observe s).2.hardware) :=
    m.observe_moves s
  have hconfig : (m.observe s).1.config = m.config := (setBusState_sameInside _ _).config
  have hdraw : (m.observe s).1.controller.baseDraw = m.controller.baseDraw := by
    rw [show (m.observe s).1.controller = (m.controller.poll s).1 from
      (setBusState_sameInside _ _).controller]
    exact m.controller.poll_baseDraw s
  unfold charge? lateFault?
  rw [tick_eq]
  generalize m.observe s = p at hobserved hobserve hconfig hdraw
  obtain ⟨m₁, s₁⟩ := p
  have hpowered₂ := hobserved.absorbChanges s₁.hardware
  have habsorb : Moves m₁.controller.devices false (m₁, s₁.hardware) (m₁.absorbChanges s₁.hardware) :=
    m₁.absorbChanges_moves rfl s₁.hardware
  have hacts := (m₁.absorbChanges_acts s₁.hardware).relays
  dsimp only at hobserve hconfig hdraw ⊢
  generalize m₁.absorbChanges s₁.hardware = p at hpowered₂ habsorb hacts
  obtain ⟨m₂, hw₂⟩ := p
  have hconfig₂ : m₂.config = m.config := hacts.config.trans hconfig
  have hdraw₂ : m₂.controller.baseDraw = m.controller.baseDraw := by
    rw [show m₂.controller = m₁.controller.takeChanges.2 from hacts.controller]
    exact hdraw
  have hgoesOn := hobserve.goesOn.trans habsorb.goesOn
  obtain ⟨left, henergy, hsettles⟩ :=
    proceed_settles store hpowered₂ (hconfig₂ ▸ hcycles) (by rw [hconfig₂, hdraw₂, hbase]) hw₂
  dsimp only at hgoesOn ⊢
  generalize m₂.proceed (.metered store) hw₂ = p at henergy hsettles
  obtain ⟨m₃, energy, hw₃⟩ := p
  dsimp only at henergy hsettles ⊢
  refine ⟨left, henergy, (hsettles.head hgoesOn).tail ?_ ?_ ?_⟩
  · exact (publishMedia_sameInside _ hw₃).worker.trans m₃.flushTerminal_sameInside.worker
  · exact (flushTerminal_steady m₃).trans (publishMedia_steady _ hw₃)
  · exact (flushTerminal_relays m₃).trans (publishMedia_relays _ hw₃)

end Machine

end DeviceBus
