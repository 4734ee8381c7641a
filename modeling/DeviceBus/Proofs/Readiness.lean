import DeviceBus.Proofs.Controller
import DeviceBus.Proofs.Machine.Loads
import Mathlib.Data.List.Induction

/-!
# Loading waits for the bus

A machine has its bus while its controller is ready and was not disposed of.  A tick polls the bus
before it loads, so its loads find the bus ready.  A start does not poll: it goes by the bus state
that observers were told, which suspending, finalizing and taking over a record let fall out of step
with the controller.  Such a start is stale, and it is the only operation that loads without a bus
(`World.StaleStart`).
-/

namespace DeviceBus

open Event (Outside)

namespace Machine

/-- Whether the bus of the machine is ready, and was not given up. -/
def hasBus (m : Machine) : Bool := m.controller.state = .ready && !m.controller.disposed

theorem hasBus_iff {m : Machine} :
    m.hasBus = true ↔ m.controller.state = .ready ∧ m.controller.disposed = false := by
  simp [hasBus]

end Machine

/-! ## Polling -/

namespace Machine

theorem observe_controller (m : Machine) (s : Site) :
    (m.observe s).1.controller = (m.controller.poll s).1 := (setBusState_sameInside _ _).controller

theorem observe_busState (m : Machine) (s : Site) :
    (m.observe s).1.busState = (m.observe s).1.controller.state := by
  rw [observe_controller]
  exact setBusState_busState _ _

theorem observe_disposed (m : Machine) (s : Site) : (m.observe s).1.controller.disposed = false := by
  rw [observe_controller]
  exact m.controller.poll_disposed s

/-! ## Loads of a tick -/

theorem swapLoad?_controller {m : Machine} {hw : Hardware} {p : Machine × Hardware}
    (h : m.swapLoad? hw = some p) :
    p.1.controller = m.controller ∧ m.controller.state = .ready ∧ m.runState = .running := by
  have hclear := (m.clear_acts hw).relays.controller
  have hrun : (m.clear hw).1.runState = m.runState := releaseDevices_runState _ _
  unfold swapLoad? at h
  dsimp only at h
  split at h
  · next hc =>
    cases h
    rw [hrun, hclear] at hc
    exact ⟨hclear, hc.2, hc.1⟩
  · cases h

theorem absorbLoad?_controller {m : Machine} {hw : Hardware} {p : Machine × Hardware}
    (h : m.absorbLoad? hw = some p) :
    p.1.controller = m.controller.takeChanges.2 ∧ m.controller.state = .ready ∧
      m.runState = .running := by
  unfold absorbLoad? at h
  dsimp only at h
  split at h
  · exact swapLoad?_controller h
  · cases h

theorem proceedLoad?_controller {m : Machine} {hw : Hardware} {p : Machine × Hardware}
    (h : m.proceedLoad? hw = some p) :
    p.1.controller = m.controller ∧ m.controller.state = .ready := by
  unfold proceedLoad? at h
  split at h
  · next hbus =>
    cases h
    exact ⟨rfl, hbus⟩
  · next hbus =>
    split at h
    · cases h
      exact ⟨rfl, hbus⟩
    · cases h
  · cases h

/-- A tick leaves the controller as its poll did, but for the changes it took. -/
theorem tick_controller (m : Machine) (energy : EnergySource) (s : Site) :
    (m.tick energy s).1.controller = (m.observe s).1.controller.takeChanges.2 :=
  (m.tick_acts energy s).relays.controller

/-- A tick loads only while the machine has its bus. -/
theorem tickLoads_hasBus {m : Machine} {s : Site} {p : Machine × Hardware}
    (h : p ∈ m.tickLoads s) : p.1.hasBus = true := by
  have hdisposed := m.observe_disposed s
  unfold tickLoads at h
  generalize m.observe s = q at h hdisposed
  obtain ⟨m₁, s₁⟩ := q
  dsimp only at h hdisposed
  have habsorb := (m₁.absorbChanges_acts s₁.hardware).relays.controller
  rcases List.mem_append.1 h with h | h
  · obtain ⟨hc, hbus, -⟩ := absorbLoad?_controller (Option.mem_toList.1 h)
    rw [hasBus_iff, hc]
    exact ⟨hbus, hdisposed⟩
  · obtain ⟨hc, hbus⟩ := proceedLoad?_controller (Option.mem_toList.1 h)
    rw [habsorb] at hc hbus
    rw [hasBus_iff, hc]
    exact ⟨hbus, hdisposed⟩

/-- A tick of a machine that loads, and still does not have its bus, leaves it loading. -/
theorem tick_waits {m : Machine} (hrun : m.runState = .loading) (energy : EnergySource) (s : Site) :
    (m.tick energy s).1.runState = .loading ∨ (m.tick energy s).1.hasBus = true := by
  have hcontroller := m.tick_controller energy s
  have hdisposed := m.observe_disposed s
  have hobserve : (m.observe s).1.runState = .loading := (m.observe_steady s).runState.trans hrun
  rw [hasBus_iff, hcontroller]
  rw [tick_eq]
  generalize m.observe s = q at hdisposed hobserve
  obtain ⟨m₁, s₁⟩ := q
  dsimp only at hdisposed hobserve ⊢
  have habsorb : m₁.absorbLoad? s₁.hardware = none := by
    rw [Option.eq_none_iff_forall_not_mem]
    intro p hp
    have hrunning := (absorbLoad?_controller hp).2.2
    rw [hobserve] at hrunning
    cases hrunning
  have hkept : (m₁.absorbChanges s₁.hardware).1.runState = .loading := by
    rw [absorbChanges_of_none habsorb]
    dsimp only
    split
    · exact (releaseDevices_runState _ _).trans hobserve
    · exact hobserve
  have hkeptController := (m₁.absorbChanges_acts s₁.hardware).relays.controller
  generalize m₁.absorbChanges s₁.hardware = q at hkept hkeptController
  obtain ⟨m₂, hw₂⟩ := q
  dsimp only at hkept hkeptController ⊢
  cases hload : m₂.proceedLoad? hw₂ with
  | some p =>
    right
    have hbus := (proceedLoad?_controller hload).2
    rw [hkeptController] at hbus
    exact ⟨hbus, hdisposed⟩
  | none =>
    left
    rw [(publishMedia_steady _ _).runState, (flushTerminal_steady _).runState]
    rcases proceed_of_none hload energy with he | ⟨hrunning, -⟩
    · rw [he]
      exact hkept
    · rw [hkept] at hrunning
      cases hrunning

/-! ## The bus state that observers were told -/

/-- What observers were told of the bus is so, and a ready bus was not given up. -/
structure InStep (m : Machine) : Prop where
  busState : m.busState = m.controller.state
  kept : m.controller.state = .ready → m.controller.disposed = false

theorem InStep.relays {m m' : Machine} (h : m.InStep) (hs : m.Relays m') : m'.InStep := by
  refine ⟨?_, ?_⟩
  · rw [hs.busState, hs.controller]
    exact h.busState
  · rw [hs.controller]
    exact h.kept

/-- A tick finds out how the bus is. -/
theorem tick_inStep (m : Machine) (energy : EnergySource) (s : Site) :
    (m.tick energy s).1.InStep := by
  refine InStep.relays ⟨?_, ?_⟩ (m.tick_acts energy s).relays
  · exact m.observe_busState s
  · intro _
    exact m.observe_disposed s

theorem InStep.hasBus {m : Machine} (h : m.InStep) (hbus : m.busState = .ready) : m.hasBus = true := by
  rw [h.busState] at hbus
  exact hasBus_iff.2 ⟨hbus, h.kept hbus⟩

end Machine

/-- Whether an operation lets the bus state that observers were told fall out of step: it gives the
bus up, or takes over the bus state of a record. -/
def MachineOp.unsettles : MachineOp → Bool
  | .suspend => true
  | .finalize => true
  | .loadRecord _ => true
  | _ => false

namespace Station

theorem step_inStep {station : Station} (s : Site) {op : MachineOp} (hop : op.unsettles = false)
    (h : station.machine.InStep) : (station.step s op).2.1.machine.InStep := by
  cases op with
  | start => exact h.relays (station.machine.start_acts s.hardware).relays
  | stop => exact h.relays (station.machine.stop_acts s.hardware).relays
  | tick => exact station.machine.tick_inStep station.energy s
  | readMemory address count =>
    exact h.relays (readMemory_acts station.machine address count s.hardware).relays
  | writeMemory address data =>
    exact h.relays (writeMemory_acts station.machine address data s.hardware).relays
  | saveRecord => exact h.relays (station.machine.saveRecord_acts s.hardware).relays
  | suspend => cases hop
  | finalize => cases hop
  | loadRecord r => cases hop
  | _ => exact ⟨h.busState, h.kept⟩

/-- A machine that loads goes on loading until it is stopped, finalized, given a record, or ticked
while it has its bus. -/
theorem step_waits {station : Station} (s : Site) (op : MachineOp)
    (h : station.machine.runState = .loading) :
    (station.step s op).2.1.machine.runState = .loading ∨ op = .stop ∨ op = .finalize ∨
      (∃ r, op = .loadRecord r) ∨
      op = .tick ∧ (station.step s op).2.1.machine.hasBus = true := by
  cases op with
  | start =>
    left
    show (station.machine.start s.hardware).2.1.runState = _
    unfold Machine.start
    rw [if_neg (by rw [h]; decide)]
    exact h
  | stop => exact .inr (.inl rfl)
  | tick =>
    rcases Machine.tick_waits h station.energy s with hr | hb
    · exact .inl hr
    · exact .inr (.inr (.inr (.inr ⟨rfl, hb⟩)))
  | suspend =>
    left
    show (station.machine.suspend s).1.runState = _
    rw [Machine.suspend_eq]
    unfold Machine.retire
    dsimp only
    split
    · exact (Machine.releaseDevices_runState _ _).trans h
    · exact (Machine.releaseDevices_runState _ _).trans h
  | finalize => exact .inr (.inr (.inl rfl))
  | readMemory address count =>
    left
    show (readMemory station.machine address count s.hardware).2.1.runState = _
    unfold readMemory
    split <;> exact h
  | writeMemory address data =>
    left
    show (writeMemory station.machine address data s.hardware).2.1.runState = _
    unfold writeMemory
    split <;> exact h
  | loadRecord r => exact .inr (.inr (.inr (.inl ⟨r, rfl⟩)))
  | _ => exact .inl h

end Station

/-! ## Runs -/

namespace World

/-- An operation of the host goes by the bus of each machine. -/
structure AwaitsBus (w : World) (op : Op) : Prop where
  /-- A load begins only while the machine has its bus. -/
  loads : ∀ p ∈ w.loads op, p.1.hasBus = true
  /-- Without a load no device is asked to attach, and no emulator is given devices. -/
  silent : w.loads op = [] → w.site.hardware.Adds Outside (w.step op).2.site.hardware
  /-- A start without the bus is accepted, and loads nothing. -/
  start : ∀ i m, op = .machine i .start → w.machine? i = some m → m.startable = true →
    m.hasBus = false → (w.step op).2.journal = w.journal ∧
      ∃ m', (w.step op).2.machine? i = some m' ∧ m'.runState = .loading ∧ m'.map = m.map
  /-- A machine that loads goes on loading until it is stopped, finalized, given a record, or ticked
  while it has its bus. -/
  waits : ∀ i m m', w.machine? i = some m → m.runState = .loading →
    (w.step op).2.machine? i = some m' →
    m'.runState = .loading ∨ op = .machine i .stop ∨ op = .machine i .finalize ∨
      (∃ r, op = .machine i (.loadRecord r)) ∨ op = .machine i .tick ∧ m'.hasBus = true

/-- A start of a machine that was told of a ready bus and does not have it. -/
def StaleStart (w : World) (op : Op) : Prop :=
  ∃ i m, op = .machine i .start ∧ w.machine? i = some m ∧ m.startable = true ∧
    m.busState = .ready ∧ m.hasBus = false

/-- The machine gave up its bus or took over a record, and was not ticked since. -/
def Unsettled (i : Nat) (ops : List Op) : Prop :=
  ∃ pre mop post, ops = pre ++ .machine i mop :: post ∧ mop.unsettles = true ∧
    Op.machine i .tick ∉ post

theorem step_waits {w : World} {op : Op} {i : Nat} {m m' : Machine} (hm : w.machine? i = some m)
    (hrun : m.runState = .loading) (hm' : (w.step op).2.machine? i = some m') :
    m'.runState = .loading ∨ op = .machine i .stop ∨ op = .machine i .finalize ∨
      (∃ r, op = .machine i (.loadRecord r)) ∨ op = .machine i .tick ∧ m'.hasBus = true := by
  obtain ⟨station, hs, rfl⟩ := machine?_eq_some hm
  obtain ⟨station', hs', hcases⟩ := step_station hs op
  rw [machine?_of_station hs'] at hm'
  cases hm'
  rcases hcases with rfl | rfl | ⟨mop, rfl, rfl⟩
  · exact .inl hrun
  · exact .inl hrun
  · rcases Station.step_waits w.site mop hrun with h | rfl | rfl | ⟨r, rfl⟩ | ⟨rfl, h⟩
    · exact .inl h
    · exact .inr (.inl rfl)
    · exact .inr (.inr (.inl rfl))
    · exact .inr (.inr (.inr (.inl ⟨r, rfl⟩)))
    · exact .inr (.inr (.inr (.inr ⟨rfl, h⟩)))

/-- In every run what observers were told of a bus is so, unless the machine is unsettled. -/
theorem inStep_or_unsettled (ops : List Op) {i : Nat} {m : Machine}
    (h : (empty.run ops).machine? i = some m) : m.InStep ∨ Unsettled i ops := by
  induction ops using List.reverseRecOn generalizing m with
  | nil => cases h
  | append_singleton ops op ih =>
    rw [run_snoc] at h
    obtain ⟨station', hs', rfl⟩ := machine?_eq_some h
    rcases step_station_inv hs' with ⟨station, hs⟩ | ⟨root, emulator, config, sink, -, hm⟩
    · have hbefore := ih (machine?_of_station hs)
      have hextend (hop : op ≠ .machine i .tick) (hu : Unsettled i ops) :
          Unsettled i (ops ++ [op]) := by
        obtain ⟨pre, mop, post, rfl, hmop, hpost⟩ := hu
        refine ⟨pre, mop, post ++ [op], by simp, hmop, ?_⟩
        intro hmem
        rcases List.mem_append.1 hmem with hmem | hmem
        · exact hpost hmem
        · exact hop (List.mem_singleton.1 hmem).symm
      by_cases htick : op = .machine i .tick
      · subst htick
        rw [step_machine? hs] at hs'
        cases hs'
        exact .inl (station.machine.tick_inStep station.energy _)
      · obtain ⟨station'', hs'', hcases⟩ := step_station hs op
        rw [hs'] at hs''
        cases hs''
        rcases hcases with rfl | rfl | ⟨mop, rfl, rfl⟩
        · exact hbefore.imp_right (hextend htick)
        · exact hbefore.imp (Station.step_inStep _ rfl) (hextend htick)
        · cases hmop : mop.unsettles with
          | true => exact .inr ⟨ops, mop, [], rfl, hmop, by simp⟩
          | false => exact hbefore.imp (Station.step_inStep _ hmop) (hextend htick)
    · left
      rw [hm]
      exact ⟨rfl, fun h => by cases h⟩

/-- A start loads if, and only if, the machine was told of a ready bus. -/
theorem loads_start {w : World} {i : Nat} {station : Station} (h : w.stations[i]? = some station) :
    w.loads (.machine i .start) =
      if station.machine.startable ∧ station.machine.busState = .ready then
        [(station.machine.accept, w.site.hardware)]
      else [] := by
  rw [loads_machine h]
  show (station.machine.startLoad? w.site.hardware).toList = _
  unfold Machine.startLoad?
  split <;> rfl

/-- A start is the only operation that may load without a bus. -/
theorem loads_hasBus {w : World} {op : Op} (hop : ∀ i, op ≠ .machine i .start)
    {p : Machine × Hardware} (hp : p ∈ w.loads op) : p.1.hasBus = true := by
  cases op with
  | machine i mop =>
    obtain ⟨station, -, hp⟩ := List.mem_flatMap.1 hp
    cases mop with
    | start => exact absurd rfl (hop i)
    | tick => exact Machine.tickLoads_hasBus hp
    | _ => cases hp
  | _ => cases hp

/-- A start that is not stale goes by the bus. -/
theorem awaitsBus_of_not_staleStart {w : World} {op : Op} (h : ¬w.StaleStart op) :
    w.AwaitsBus op := by
  refine ⟨?_, step_adds_of_nil, ?_, fun i m m' hm hrun hm' => step_waits hm hrun hm'⟩
  · intro p hp
    by_cases hop : ∃ i, op = .machine i .start
    · obtain ⟨i, rfl⟩ := hop
      obtain ⟨station, hs, -⟩ := List.mem_flatMap.1 hp
      rw [loads_start (Option.mem_toList.1 hs)] at hp
      split at hp
      · next hc =>
        cases List.mem_singleton.1 hp
        have haccept : station.machine.Relays station.machine.accept :=
          (station.machine.resume_relays false).trans (Machine.setRunState_relays _ .loading)
        by_contra hbus
        refine h ⟨i, station.machine, rfl, machine?_of_station (Option.mem_toList.1 hs), hc.1, hc.2, ?_⟩
        rw [← Bool.not_eq_true]
        unfold Machine.hasBus at hbus ⊢
        rwa [haccept.controller] at hbus
      · cases hp
    · exact loads_hasBus (fun i hi => hop ⟨i, hi⟩) hp
  · rintro i m rfl hm hstart hbus
    obtain ⟨station, hs, rfl⟩ := machine?_eq_some hm
    have htold : ¬(station.machine.startable ∧ station.machine.busState = .ready) := fun hc =>
      h ⟨i, station.machine, rfl, hm, hstart, hc.2, hbus⟩
    have hload : station.machine.startLoad? w.site.hardware = none := if_neg htold
    have hnone := Machine.start_of_none hload
    rw [hstart, if_pos rfl] at hnone
    refine ⟨?_, station.machine.accept, ?_, ?_, ?_⟩
    · show (w.stepMachine i .start).2.site.hardware.journal = _
      unfold stepMachine
      rw [hs]
      show (station.machine.start w.site.hardware).2.2.journal = _
      rw [hnone]
    · rw [machine?_of_station (step_machine? hs .start)]
      show some (station.machine.start w.site.hardware).2.1 = _
      rw [hnone]
    · unfold Machine.accept Machine.setRunState
      split
      · next hloading => exact hloading
      · rfl
    · unfold Machine.accept Machine.setRunState
      split <;> rfl

/-- A stale start loads without a bus. -/
theorem not_awaitsBus_of_staleStart {w : World} {op : Op} (h : w.StaleStart op) :
    ¬w.AwaitsBus op := by
  obtain ⟨i, m, rfl, hm, hstart, htold, hbus⟩ := h
  obtain ⟨station, hs, rfl⟩ := machine?_eq_some hm
  intro hawaits
  have hload := hawaits.loads (station.machine.accept, w.site.hardware) (by
    rw [loads_start hs, if_pos ⟨hstart, htold⟩]
    exact List.mem_singleton_self _)
  have haccept : station.machine.Relays station.machine.accept :=
    (station.machine.resume_relays false).trans (Machine.setRunState_relays _ .loading)
  unfold Machine.hasBus at hload hbus
  rw [haccept.controller, hbus] at hload
  cases hload

/-- In every run an operation goes by the bus of each machine exactly if it is not a stale start, and
only a machine that gave up its bus or took over a record, and was not ticked since, can be started
so. -/
theorem awaitsBus_iff_not_staleStart (ops : List Op) (op : Op) :
    ((empty.run ops).AwaitsBus op ↔ ¬(empty.run ops).StaleStart op) ∧
      ((empty.run ops).StaleStart op → ∃ i, op = .machine i .start ∧ Unsettled i ops) := by
  refine ⟨⟨?_, awaitsBus_of_not_staleStart⟩, ?_⟩
  · intro hawaits hstale
    exact not_awaitsBus_of_staleStart hstale hawaits
  · rintro ⟨i, m, rfl, hm, -, htold, hbus⟩
    refine ⟨i, rfl, ?_⟩
    rcases inStep_or_unsettled ops hm with hstep | hunsettled
    · rw [hstep.hasBus htold] at hbus
      cases hbus
    · exact hunsettled

/-- A machine that was finalized still goes by the bus it had: started, it attaches the devices and
runs, while its controller is disposed of. -/
theorem start_after_finalize_loads :
    let w := empty.run [.build (.bare ⟨10⟩), .topology (.insert ⟨1⟩ [] [⟨⟨0⟩, ⟨10⟩⟩]),
      .newMachine ⟨1⟩ (.scripted {}) {} (.queue []) .unmetered,
      .machine 0 .tick, .machine 0 .finalize]
    let w' := (w.step (.machine 0 .start)).2
    ¬w.AwaitsBus (.machine 0 .start) ∧
      (w'.machine? 0).map (fun m => (m.runState, m.controller.disposed)) = some (.running, true) ∧
      .device ⟨0⟩ (.attach ⟨0⟩ none [1] true) ∈ w'.journal := by
  refine ⟨?_, by decide, by decide⟩
  intro h
  have hall : ((empty.run _).loads (.machine 0 .start)).all (fun p => p.1.hasBus) = true :=
    List.all_eq_true.2 h.loads
  revert hall
  decide

end World

end DeviceBus
