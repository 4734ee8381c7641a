import DeviceBus.Proofs.Machine.Steps

/-!
# Runs of a world

A run is a list of operations on a world.  An operation reaches a machine in three ways: it is an
operation of that machine, it waits for the machine's worker because a drive is attached to it, or it
leaves the machine alone (`World.step_station`).  What holds of every machine when it is built and is
kept by its own operations therefore holds of every machine in every run
(`World.machine_induction`).
-/

namespace DeviceBus

open Event (Plain Outside Own)

/-! ## Stations -/

/-- Whether an operation may load the devices of the bus. -/
def MachineOp.mayLoad : MachineOp → Bool
  | .start => true
  | .tick => true
  | _ => false

/-- Whether an operation of the host lets a device go, past the machine it is attached to. -/
def DeviceOp.letsGo : DeviceOp → Bool
  | .suspend => true
  | .finalize => true
  | _ => false

/-- Whether an operation of the host lets a device go, past the machine it is attached to. -/
def Op.letsGo : Op → Bool
  | .device _ op => op.letsGo
  | _ => false

/-- Whether an operation is one of the machine at a position. -/
def Op.isOf (i : Nat) : Op → Bool
  | .machine j _ => j = i
  | _ => false

/-- Whether an operation builds a machine. -/
def Op.buildsMachine : Op → Bool
  | .newMachine .. => true
  | _ => false

namespace Station

theorem readMemory_acts (m : Machine) (address count : Nat) (hw : Hardware) :
    Machine.Acts Plain (m, hw) (readMemory m address count hw).2 := by
  unfold readMemory
  split
  · exact .refl _ _
  · next h offset _ => exact ⟨.refl m, Hardware.readMemory_adds ⟨rfl, rfl⟩⟩

theorem writeMemory_acts (m : Machine) (address : Nat) (data : Bytes) (hw : Hardware) :
    Machine.Acts Plain (m, hw) (writeMemory m address data hw).2 := by
  unfold writeMemory
  split
  · exact .refl _ _
  · next h offset _ => exact ⟨.refl m, Hardware.writeMemory_adds ⟨rfl, rfl⟩⟩

/-- The machine and the site after a tick of the station. -/
theorem tick_adds (m : Machine) (energy : EnergySource) (s : Site) :
    s.hardware.Adds (Own m.id) (m.tick energy s).2.2.hardware :=
  ((m.controller.poll_adds s).mono fun _ he => .inl he.1).trans (m.tick_acts energy s).adds

/-- Only starting and ticking load. -/
theorem step_adds_outside (station : Station) (s : Site) {op : MachineOp} (hop : op.mayLoad = false) :
    s.hardware.Adds Outside (station.step s op).2.2.hardware := by
  cases op with
  | start => cases hop
  | tick => cases hop
  | stop => exact (station.machine.stop_acts s.hardware).adds
  | advance slices => exact (station.machine.advance_acts slices s.hardware).outside.adds
  | quiesce => exact (station.machine.quiesce_acts s.hardware).outside.adds
  | suspend => exact station.machine.suspend_adds s
  | finalize => exact (station.machine.suspend_adds s).trans (station.machine.finalize_acts s).adds
  | readMemory address count =>
    exact (readMemory_acts station.machine address count s.hardware).outside.adds
  | writeMemory address data =>
    exact (writeMemory_acts station.machine address data s.hardware).outside.adds
  | saveRecord => exact (station.machine.saveRecord_acts s.hardware).outside.adds
  | loadRecord r => exact station.machine.loadRecord_adds r s.hardware
  | scheduleScan => exact .refl _ _
  | recharge amount simulate => exact .refl _ _
  | terminal call => exact .refl _ _
  | script change => exact .refl _ _
  | platform platform => exact .refl _ _
  | drainUpdates => exact .refl _ _

/-- A machine never makes a call of the load of another. -/
theorem step_adds (station : Station) (s : Site) (op : MachineOp) :
    s.hardware.Adds (Own station.machine.id) (station.step s op).2.2.hardware := by
  cases hop : op.mayLoad with
  | false => exact (station.step_adds_outside s hop).mono fun _ => .inl
  | true =>
    cases op with
    | start => exact (station.machine.start_acts s.hardware).adds
    | tick => exact tick_adds station.machine station.energy s
    | _ => cases hop

theorem step_id (station : Station) (s : Site) (op : MachineOp) :
    (station.step s op).2.1.machine.id = station.machine.id := by
  cases op with
  | start => exact (station.machine.start_acts s.hardware).relays.id
  | tick => exact (station.machine.tick_acts station.energy s).relays.id.trans (Machine.look_id _ s)
  | stop => exact (station.machine.stop_acts s.hardware).relays.id
  | suspend => exact station.machine.suspend_id s
  | finalize => exact (station.machine.finalize_acts s).relays.id.trans (station.machine.suspend_id s)
  | readMemory address count =>
    exact (readMemory_acts station.machine address count s.hardware).relays.id
  | writeMemory address data =>
    exact (writeMemory_acts station.machine address data s.hardware).relays.id
  | saveRecord => exact (station.machine.saveRecord_acts s.hardware).relays.id
  | loadRecord r => exact (station.machine.loadRecord_keeps r s.hardware).1
  | _ => rfl

theorem step_config (station : Station) (s : Site) (op : MachineOp) :
    (station.step s op).2.1.machine.config = station.machine.config := by
  cases op with
  | start => exact (station.machine.start_acts s.hardware).relays.config
  | tick =>
    exact (station.machine.tick_acts station.energy s).relays.config.trans
      (Machine.setBusState_sameInside _ _).config
  | stop => exact (station.machine.stop_acts s.hardware).relays.config
  | suspend => exact (station.machine.retire_acts s.hardware).relays.config
  | finalize =>
    exact (station.machine.finalize_acts s).relays.config.trans
      (station.machine.retire_acts s.hardware).relays.config
  | readMemory address count =>
    exact (readMemory_acts station.machine address count s.hardware).relays.config
  | writeMemory address data =>
    exact (writeMemory_acts station.machine address data s.hardware).relays.config
  | saveRecord => exact (station.machine.saveRecord_acts s.hardware).relays.config
  | loadRecord r => exact (station.machine.loadRecord_keeps r s.hardware).2.1
  | _ => rfl

end Station

/-! ## Machines of a world -/

namespace World

/-- The calls made so far, the latest first. -/
abbrev journal (w : World) : List Event := w.site.hardware.journal

/-- The machine at a position. -/
def machine? (w : World) (i : Nat) : Option Machine := w.stations[i]?.map Station.machine

/-- What an operation of the machine at a position makes of the station there. -/
theorem stepMachine_stations (w : World) (i : Nat) (op : MachineOp) (j : Nat) :
    (w.stepMachine i op).2.stations[j]? =
      if i = j then w.stations[j]?.map fun station => (station.step w.site op).2.1
      else w.stations[j]? := by
  unfold stepMachine
  by_cases hij : i = j
  · subst hij
    rw [if_pos rfl]
    split
    · next h => rw [h]; rfl
    · next station h =>
      have hlt : i < w.stations.length := (List.getElem?_eq_some_iff.1 h).1
      show (w.stations.set i _)[i]? = _
      rw [List.getElem?_set_self hlt, h]
      rfl
  · rw [if_neg hij]
    split
    · rfl
    · exact List.getElem?_set_ne hij

theorem machine?_eq_some {w : World} {i : Nat} {m : Machine} (h : w.machine? i = some m) :
    ∃ station, w.stations[i]? = some station ∧ station.machine = m :=
  Option.map_eq_some_iff.1 h

theorem machine?_of_station {w : World} {i : Nat} {station : Station}
    (h : w.stations[i]? = some station) : w.machine? i = some station.machine := by
  unfold machine?
  rw [h]
  rfl

/-- A machine after one of its own operations. -/
theorem step_machine? {w : World} {i : Nat} {station : Station} (h : w.stations[i]? = some station)
    (op : MachineOp) :
    (w.step (.machine i op)).2.stations[i]? = some (station.step w.site op).2.1 := by
  have hs := w.stepMachine_stations i op i
  rw [if_pos rfl, h] at hs
  exact hs

/-- The site after an operation of a machine. -/
theorem step_site {w : World} {i : Nat} {station : Station} (h : w.stations[i]? = some station)
    (op : MachineOp) : (w.step (.machine i op)).2.site = (station.step w.site op).2.2 := by
  show (w.stepMachine i op).2.site = _
  unfold stepMachine
  rw [h]

theorem stepController_stations (w : World) (i : Nat) (op : ControllerOp) :
    (w.stepController i op).2.stations = w.stations := by
  unfold stepController
  split <;> rfl

/-- Waiting for the machine of a drive is an operation of that machine, or nothing. -/
theorem awaitBarrier_cases (w : World) (h : Handle) :
    w.awaitBarrier h = w ∨ ∃ i, w.awaitBarrier h = (w.stepMachine i .quiesce).2 := by
  unfold awaitBarrier
  split
  · exact .inl rfl
  · exact .inr ⟨_, rfl⟩

/-- An operation on a device changes the stations, if at all, by waiting for one machine. -/
theorem stepDevice_stations (w : World) (h : Handle) (op : DeviceOp) :
    (w.stepDevice h op).2.stations = w.stations ∨
      ∃ i, (w.stepDevice h op).2.stations = (w.stepMachine i .quiesce).2.stations := by
  have hawait : (w.awaitBarrier h).stations = w.stations ∨
      ∃ i, (w.awaitBarrier h).stations = (w.stepMachine i .quiesce).2.stations := by
    rcases w.awaitBarrier_cases h with he | ⟨i, he⟩
    · exact .inl (by rw [he])
    · exact .inr ⟨i, by rw [he]⟩
  cases op with
  | insertMedium m => exact hawait
  | ejectMedium => exact hawait
  | exportMedium => exact hawait
  | restore state =>
    unfold stepDevice
    by_cases hmedium : w.restoresMedium h state
    · simp only [hmedium, if_true]
      exact hawait
    · simp only [hmedium]
      exact .inl rfl
  | writeStorage offset data =>
    unfold stepDevice
    dsimp only
    split <;> exact .inl rfl
  | _ => exact .inl rfl

/-- An operation leaves a station alone, is one of its machine, or waits for its worker. -/
theorem step_station {w : World} {i : Nat} {station : Station} (h : w.stations[i]? = some station)
    (op : Op) : ∃ station', (w.step op).2.stations[i]? = some station' ∧
      (station' = station ∨ station' = (station.step w.site .quiesce).2.1 ∨
        ∃ mop, op = .machine i mop ∧ station' = (station.step w.site mop).2.1) := by
  cases op with
  | machine j mop =>
    have hs := w.stepMachine_stations j mop i
    by_cases hij : j = i
    · subst hij
      rw [if_pos rfl, h] at hs
      exact ⟨_, hs, .inr (.inr ⟨mop, rfl, rfl⟩)⟩
    · rw [if_neg hij, h] at hs
      exact ⟨station, hs, .inl rfl⟩
  | device handle dop =>
    rcases w.stepDevice_stations handle dop with hs | ⟨j, hs⟩
    · exact ⟨station, by show (w.stepDevice handle dop).2.stations[i]? = _; rw [hs, h], .inl rfl⟩
    · have hq := w.stepMachine_stations j .quiesce i
      rw [← hs] at hq
      by_cases hij : j = i
      · rw [if_pos hij, h] at hq
        exact ⟨_, hq, .inr (.inl rfl)⟩
      · rw [if_neg hij, h] at hq
        exact ⟨station, hq, .inl rfl⟩
  | controller j cop =>
    refine ⟨station, ?_, .inl rfl⟩
    show (w.stepController j cop).2.stations[i]? = _
    rw [stepController_stations, h]
  | newMachine root emulator config sink energy =>
    refine ⟨station, ?_, .inl rfl⟩
    have hlt : i < w.stations.length := (List.getElem?_eq_some_iff.1 h).1
    show (w.stations ++ [_])[i]? = _
    rw [List.getElem?_append_left hlt, h]
  | build d => exact ⟨station, h, .inl rfl⟩
  | topology top => exact ⟨station, h, .inl rfl⟩
  | newController root config => exact ⟨station, h, .inl rfl⟩

/-- An operation that is not one of the machine leaves the station alone, or waits for its worker. -/
theorem step_station_other {w : World} {i : Nat} {station : Station} (h : w.stations[i]? = some station)
    {op : Op} (hop : op.isOf i = false) : ∃ station', (w.step op).2.stations[i]? = some station' ∧
      (station' = station ∨ station' = (station.step w.site .quiesce).2.1) := by
  obtain ⟨station', hs', hcases⟩ := step_station h op
  refine ⟨station', hs', ?_⟩
  rcases hcases with hsame | hwaited | ⟨mop, rfl, -⟩
  · exact .inl hsame
  · exact .inr hwaited
  · exact absurd (decide_eq_true rfl) (ne_true_of_eq_false hop)

/-- An operation builds no machine, or one at the next position. -/
theorem step_stations_length (w : World) (op : Op) :
    (w.step op).2.stations.length = w.stations.length ∨
      ∃ root emulator config sink energy, op = .newMachine root emulator config sink energy ∧
        (w.step op).2.stations = w.stations ++
          [⟨(Machine.build ⟨w.stations.length⟩ root emulator config sink w.site.topology).1, energy⟩] := by
  have hmachine (j : Nat) (mop : MachineOp) :
      (w.stepMachine j mop).2.stations.length = w.stations.length := by
    unfold stepMachine
    split
    · rfl
    · exact List.length_set
  cases op with
  | machine j mop => exact .inl (hmachine j mop)
  | device handle dop =>
    left
    show (w.stepDevice handle dop).2.stations.length = _
    rcases w.stepDevice_stations handle dop with hs | ⟨j, hs⟩
    · rw [hs]
    · rw [hs, hmachine]
  | controller j cop => exact .inl (congrArg List.length (w.stepController_stations j cop))
  | newMachine root emulator config sink energy =>
    exact .inr ⟨root, emulator, config, sink, energy, rfl, rfl⟩
  | build d => exact .inl rfl
  | topology top => exact .inl rfl
  | newController root config => exact .inl rfl

/-- The machines of a world are those it had and the one an operation built. -/
theorem step_stations_count (w : World) (op : Op) :
    (w.step op).2.stations.length = w.stations.length + [op].countP Op.buildsMachine := by
  rcases w.step_stations_length op with hlen | ⟨root, emulator, config, sink, energy, rfl, hs⟩
  · cases op with
    | newMachine => exact List.length_append
    | _ => exact hlen
  · rw [hs]
    exact List.length_append

/-- A machine after an operation was there before, or the operation built it. -/
theorem step_station_inv {w : World} {i : Nat} {station' : Station} {op : Op}
    (h : (w.step op).2.stations[i]? = some station') :
    (∃ station, w.stations[i]? = some station) ∨
      ∃ root emulator config sink, i = w.stations.length ∧
        station'.machine = (Machine.build ⟨i⟩ root emulator config sink w.site.topology).1 := by
  by_cases hlt : i < w.stations.length
  · exact .inl ⟨_, List.getElem?_eq_getElem hlt⟩
  · have hlt' : i < (w.step op).2.stations.length := (List.getElem?_eq_some_iff.1 h).1
    rcases w.step_stations_length op with hlen | ⟨root, emulator, config, sink, energy, -, hs⟩
    · omega
    · have hi : i = w.stations.length := by
        rw [hs, List.length_append, List.length_singleton] at hlt'
        omega
      subst hi
      rw [hs, List.getElem?_append_right (Nat.le_refl _), Nat.sub_self] at h
      refine .inr ⟨root, emulator, config, sink, rfl, ?_⟩
      exact congrArg Station.machine (Option.some.inj h).symm

/-! ## Runs -/

theorem run_nil (w : World) : w.run [] = w := rfl

theorem run_append (w : World) (ops ops' : List Op) : w.run (ops ++ ops') = (w.run ops).run ops' :=
  List.foldl_append

theorem run_snoc (w : World) (ops : List Op) (op : Op) :
    w.run (ops ++ [op]) = ((w.run ops).step op).2 := w.run_append ops [op]

/-- What the operations of a run add to a log, in their order. -/
def log {α : Type} (f : World → Op → List α) : World → List Op → List α
  | _, [] => []
  | w, op :: ops => f w op ++ log f (w.step op).2 ops

theorem log_append {α : Type} (f : World → Op → List α) (w : World) (ops ops' : List Op) :
    w.log f (ops ++ ops') = w.log f ops ++ (w.run ops).log f ops' := by
  induction ops generalizing w with
  | nil => rfl
  | cons op ops ih =>
    rw [List.cons_append, log, ih, log, List.append_assoc]
    rfl

theorem log_snoc {α : Type} (f : World → Op → List α) (w : World) (ops : List Op) (op : Op) :
    w.log f (ops ++ [op]) = w.log f ops ++ f (w.run ops) op :=
  (w.log_append f ops [op]).trans (congrArg _ (List.append_nil _))

/-- What every step keeps holds after every run. -/
theorem run_induction {I : World → Prop} (hstep : ∀ w op, I w → I (w.step op).2) {w : World}
    (h : I w) (ops : List Op) : I (w.run ops) := by
  induction ops generalizing w with
  | nil => exact h
  | cons op ops ih => exact ih (hstep w op h)

/-- What holds of a machine when it is built and is kept by its own operations holds of every machine
in every run. -/
theorem machine_induction {I : Nat → Machine → Prop}
    (hbuild : ∀ i root emulator config sink t, I i (Machine.build ⟨i⟩ root emulator config sink t).1)
    (hstep : ∀ i (station : Station) s op, I i station.machine → I i (station.step s op).2.1.machine)
    (ops : List Op) {i : Nat} {m : Machine} (h : (empty.run ops).machine? i = some m) : I i m := by
  have hall : ∀ i station, (empty.run ops).stations[i]? = some station → I i station.machine := by
    refine run_induction (I := fun w => ∀ i station, w.stations[i]? = some station →
      I i station.machine) ?_ (fun i station h => ?_) ops
    · intro w op hw i station' h'
      rcases step_station_inv h' with ⟨station, h⟩ | ⟨root, emulator, config, sink, -, hm⟩
      · obtain ⟨station'', h'', hcases⟩ := step_station h op
        rw [h'] at h''
        cases h''
        rcases hcases with rfl | rfl | ⟨mop, -, rfl⟩
        · exact hw i _ h
        · exact hstep i station w.site .quiesce (hw i station h)
        · exact hstep i station w.site mop (hw i station h)
      · rw [hm]
        exact hbuild i root emulator config sink w.site.topology
    · cases h
  obtain ⟨station, hs, rfl⟩ := Option.map_eq_some_iff.1 h
  exact hall i station hs

/-- A machine is named by its position. -/
theorem machine?_id (ops : List Op) {i : Nat} {m : Machine}
    (h : (empty.run ops).machine? i = some m) : m.id = ⟨i⟩ := by
  refine machine_induction (I := fun i m => m.id = ⟨i⟩) ?_ ?_ ops h
  · intro i root emulator config sink t
    rfl
  · intro i station s op hid
    rw [station.step_id s op, hid]

/-! ## Calls -/

theorem stepMachine_adds {P : Event → Prop} (w : World) (i : Nat) (op : MachineOp)
    (h : ∀ station, w.stations[i]? = some station →
      w.site.hardware.Adds P (station.step w.site op).2.2.hardware) :
    w.site.hardware.Adds P (w.stepMachine i op).2.site.hardware := by
  unfold stepMachine
  split
  · exact .refl _ _
  · next station hs => exact h station hs

theorem awaitBarrier_adds (w : World) (h : Handle) :
    w.site.hardware.Adds Plain (w.awaitBarrier h).site.hardware := by
  rcases w.awaitBarrier_cases h with he | ⟨i, he⟩
  · rw [he]
    exact .refl _ _
  · rw [he]
    exact w.stepMachine_adds i .quiesce fun station _ =>
      (station.machine.quiesce_acts w.site.hardware).adds

theorem stepController_adds (w : World) (i : Nat) (op : ControllerOp) :
    w.site.hardware.Adds Plain (w.stepController i op).2.site.hardware := by
  unfold stepController
  split
  · exact .refl _ _
  · next c _ => exact c.step_adds w.site op

theorem modifyDevice_adds (w : World) (h : Handle) (f : Device → Device) :
    w.site.hardware.Adds Plain (w.modifyDevice h f).site.hardware := .refl _ _

theorem changeDrive_adds (w : World) (h : Handle) (f : Drive → Drive) :
    w.site.hardware.Adds Plain (w.changeDrive h f).2.site.hardware :=
  (w.awaitBarrier_adds h).trans (modifyDevice_adds (w.awaitBarrier h) h _)

theorem stepDevice_adds (w : World) (h : Handle) {op : DeviceOp} (hop : op.letsGo = false) :
    w.site.hardware.Adds Plain (w.stepDevice h op).2.site.hardware := by
  cases op with
  | suspend => cases hop
  | finalize => cases hop
  | readMemory offset count => exact Hardware.readMemory_adds ⟨rfl, rfl⟩
  | writeMemory offset data => exact Hardware.writeMemory_adds ⟨rfl, rfl⟩
  | writeStorage offset data =>
    unfold stepDevice
    dsimp only
    split
    · exact w.modifyDevice_adds h _
    · exact .refl _ _
  | acknowledge => exact w.modifyDevice_adds h _
  | save => exact Hardware.save_adds ⟨rfl, rfl⟩
  | restore state =>
    unfold stepDevice
    dsimp only
    have hrestore (hw : Hardware) : hw.Adds Plain (hw.restore h state).2 :=
      Hardware.restore_adds fun _ => ⟨rfl, rfl⟩
    split
    · exact (w.awaitBarrier_adds h).trans (hrestore _)
    · exact hrestore _
  | insertMedium m => exact w.changeDrive_adds h _
  | ejectMedium => exact w.changeDrive_adds h _
  | exportMedium => exact w.changeDrive_adds h _
  | configure change => exact w.modifyDevice_adds h _

/-- What is not an operation of a machine, and does not let a device go, makes plain calls only. -/
theorem step_adds_plain (w : World) {op : Op} (hmachine : ∀ i mop, op ≠ .machine i mop)
    (hop : op.letsGo = false) : w.site.hardware.Adds Plain (w.step op).2.site.hardware := by
  cases op with
  | machine i mop => exact absurd rfl (hmachine i mop)
  | device h dop => exact w.stepDevice_adds h hop
  | controller i cop => exact w.stepController_adds i cop
  | build d => exact .refl _ _
  | topology top => exact .refl _ _
  | newController root config => exact .refl _ _
  | newMachine root emulator config sink energy => exact .refl _ _

/-- Only starting and ticking a machine loads. -/
theorem step_adds_outside (w : World) {op : Op}
    (hop : ∀ i mop, op = .machine i mop → mop.mayLoad = false) :
    w.site.hardware.Adds Outside (w.step op).2.site.hardware := by
  cases hgo : op.letsGo with
  | true =>
    cases op with
    | device h dop =>
      cases dop with
      | suspend => exact Hardware.suspend_adds rfl
      | finalize => exact Hardware.finalize_adds rfl
      | _ => cases hgo
    | _ => cases hgo
  | false =>
    cases op with
    | machine i mop =>
      exact w.stepMachine_adds i mop fun station _ => station.step_adds_outside w.site (hop i mop rfl)
    | _ => exact (w.step_adds_plain (fun _ _ => by simp) hgo).mono fun _ he => he.1

end World

end DeviceBus
