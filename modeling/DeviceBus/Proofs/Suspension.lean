import DeviceBus.Proofs.Emulation
import DeviceBus.Proofs.Machine.Suspension
import DeviceBus.Proofs.Relisting

/-!
# Suspensions

A machine whose worker is idle loses nothing by a suspension.  Its record is as it was, its controller owns
no element, a second suspension finds all of it done; and a machine that was running on a ready bus, with
the devices of the bus attached, attaches them in its next tick as they were attached before.  For that
the topology and the controllers have to be left alone meanwhile (`Op.bystands`) and the devices to be of
the sizes that they had (`Machine.Resumable`).

That the poll of the tick finds the bus as it was rests on what every controller keeps of its last scan
(`Controller.Found`), and that the load takes up the map as it was on what every map keeps of the load
that left it (`Machine.Replays`).
-/

namespace DeviceBus

/-! ## Buses that were given up -/

/-- A controller that gave up its bus is not ready, and owns nothing. -/
structure Controller.Vacant (c : Controller) (t : Topology) : Prop where
  state : c.disposed = true → c.state ≠ .ready
  owner : c.disposed = true → ∀ e, t.owner? e ≠ some c.id

theorem Controller.dispose_vacant {c : Controller} {t : Topology} (h : c.Enrolled t) (hvacant : c.Vacant t) :
    (c.dispose t).1.Vacant (c.dispose t).2 := by
  have hregistered := h.isRegistered
  unfold dispose
  split
  · exact hvacant
  · next hlive =>
    rw [eq_false_of_ne_true hlive] at hregistered
    refine ⟨fun _ hready => (nomatch hready), fun _ e howner => ?_⟩
    exact (((Topology.unregister_leaves hregistered).owner e c.id).1 howner).2 rfl

/-- All controllers are enrolled, and those of machines own nothing after they gave up their bus. -/
structure Network.Vacates (n : Network) : Prop where
  enrolled : n.Enrolled
  machines : ∀ i c, n.controllers (.machine i) = some c → c.Vacant n.topology

namespace Network

variable {n : Network}

theorem Vacates.put (h : n.Vacates) {seat : Seat} {c : Controller} {t : Topology}
    (henrolled : (n.put seat c t).Enrolled) (hc : ∀ i, seat = .machine i → c.Vacant t)
    (hothers : ∀ id, id ≠ c.id → ∀ e, t.owner? e = some id → n.topology.owner? e = some id) :
    (n.put seat c t).Vacates := by
  refine ⟨henrolled, fun i d hd => ?_⟩
  have hput := hd
  rw [put_controllers] at hd
  split at hd
  · next hs =>
    cases hd
    exact hc i hs.symm
  · next hs =>
    have hne : d.id ≠ c.id := fun heq => hs (henrolled.distinct _ _ _ _ hput (if_pos rfl) heq)
    have hvacant := h.machines i d hd
    exact ⟨hvacant.state, fun hdisposed e howner => hvacant.owner hdisposed e (hothers d.id hne e howner)⟩

/-- A machine has its controller scan in polls only, which make a controller live. -/
theorem Vacates.act (h : n.Vacates) (hw : Hardware) {a : Action}
    (ha : ∀ i, a ≠ .control (.machine i) .scan) : (n.act hw a).Vacates := by
  have henrolled := h.enrolled.act hw a
  cases a with
  | topology op =>
    refine ⟨henrolled, fun i c hc => ?_⟩
    have hvacant := h.machines i c hc
    exact ⟨hvacant.state, fun hdisposed e howner =>
      hvacant.owner hdisposed e ((n.topology.step_rouses op c.id).owner e howner)⟩
  | join seat root config =>
    cases hseat : n.controllers seat with
    | some c => simpa only [Network.act, hseat] using h
    | none =>
      rw [act_join hseat] at henrolled ⊢
      refine h.put henrolled (fun i _ => ?_) fun id hne e => (n.topology.register_ignores root hne).owner e
      exact ⟨fun hdisposed => absurd hdisposed Bool.false_ne_true,
        fun hdisposed => absurd hdisposed Bool.false_ne_true⟩
  | restore seat members =>
    cases hc : n.controllers seat with
    | none => simpa only [Network.act, hc] using h
    | some c =>
      rw [act_restore hc] at henrolled ⊢
      refine h.put henrolled (fun i hs => ?_) fun _ _ _ howner => howner
      have hvacant := h.machines i c (hs ▸ hc)
      exact ⟨hvacant.state, hvacant.owner⟩
  | control seat op =>
    cases hc : n.controllers seat with
    | none => simpa only [Network.act, hc] using h
    | some c =>
      rw [act_control hc] at henrolled ⊢
      have hvacant (i : Nat) (hs : seat = .machine i) := h.machines i c (hs ▸ hc)
      cases op with
      | poll =>
        have hlive := c.poll_disposed ⟨n.topology, hw⟩
        refine h.put henrolled (fun i hs => ?_) fun id hne e => (c.poll_ignores ⟨n.topology, hw⟩ hne).owner e
        exact ⟨fun hdisposed => absurd hdisposed (ne_true_of_eq_false hlive),
          fun hdisposed => absurd hdisposed (ne_true_of_eq_false hlive)⟩
      | scan =>
        refine h.put henrolled (fun i hs => absurd (hs ▸ rfl) (ha i)) fun id hne e => ?_
        have hid := c.scan_id ⟨n.topology, hw⟩
        exact (c.scan_ignores ⟨n.topology, hw⟩ (hid ▸ hne)).owner e
      | dispose =>
        have henrolled₀ := h.enrolled.controllers seat c hc
        refine h.put henrolled (fun i hs => Controller.dispose_vacant henrolled₀ (hvacant i hs)) fun id hne e => ?_
        exact (Controller.dispose_rouses henrolled₀ (c.dispose_id n.topology ▸ hne)).owner e
      | scheduleScan =>
        exact h.put henrolled (fun i hs => ⟨(hvacant i hs).state, (hvacant i hs).owner⟩) fun _ _ _ howner => howner
      | takeChanges =>
        exact h.put henrolled (fun i hs => ⟨(hvacant i hs).state, (hvacant i hs).owner⟩) fun _ _ _ howner => howner

end Network

namespace World

variable {w : World} {ops : List Op} {i : Nat}

theorem actions_not_scan (w : World) (op : Op) {a : Network.Action} (ha : a ∈ w.actions op) (i : Nat) :
    a ≠ .control (.machine i) .scan := by
  rintro rfl
  cases op with
  | machine j mop => cases mop <;> simp [actions, MachineOp.actions] at ha
  | _ => simp [actions] at ha

/-- In every run a machine that gave up its bus owns nothing. -/
theorem run_vacates (ops : List Op) : (empty.run ops).network.Vacates := by
  refine network_induction (w := empty) (I := Network.Vacates)
    (Q := fun a => ∀ i, a ≠ .control (.machine i) .scan) (fun n hw a ha h => h.act hw ha) ?_ ops
    fun op _ w a ha => w.actions_not_scan op ha
  exact ⟨run_enrolled [], fun i c hc => by cases hc⟩

/-! ## Meanwhile -/

end World

/-- Whether an operation leaves the topology and all controllers alone, and does not stop the machine at a
position. -/
def Op.bystands (i : Nat) : Op → Bool
  | .build _ => true
  | .device .. => true
  | .machine j .stop => j ≠ i
  | .machine j op => (op.actions (.machine j)).isEmpty
  | _ => false

/-- The machine `m'` has no devices and an idle worker.  It differs from `m` in nothing else that its next load
depends on, the emulator apart. -/
structure Machine.Dormant (m m' : Machine) : Prop where
  id : m'.id = m.id
  config : m'.config = m.config
  controller : m'.controller = m.controller
  runState : m'.runState = m.runState
  pendingStates : m'.pendingStates = m.pendingStates
  map : m'.map = none
  idle : m'.worker.isIdle = true

/-- Where a dormant machine is running, only what does something with its bus changes that, or stops
it. -/
theorem Station.step_dormant {m : Machine} {station : Station} (h : m.Dormant station.machine)
    (hrun : m.runState = .running) (s : Site) {op : MachineOp} {i : Nat}
    (hop : (Op.machine i op).bystands i = true) : m.Dormant (station.step s op).2.1.machine := by
  cases op with
  | start =>
    show m.Dormant (station.machine.start s.hardware).2.1
    unfold Machine.start
    rw [h.runState, hrun, if_neg (by decide)]
    exact h
  | stop => exact absurd rfl (of_decide_eq_true hop)
  | advance slices =>
    show m.Dormant (station.machine.advance slices s.hardware).1
    rw [Machine.advance_of_isIdle h.idle]
    exact h
  | quiesce =>
    show m.Dormant (station.machine.quiesce s.hardware).1
    rw [Machine.quiesce_of_isIdle h.idle]
    exact h
  | readMemory address count =>
    show m.Dormant (readMemory station.machine address count s.hardware).2.1
    unfold readMemory
    split <;> exact h
  | writeMemory address data =>
    show m.Dormant (writeMemory station.machine address data s.hardware).2.1
    unfold writeMemory
    split <;> exact h
  | saveRecord =>
    show m.Dormant (station.machine.saveRecord s.hardware).2.1
    unfold Machine.saveRecord
    rw [Machine.quiesce_of_isIdle h.idle]
    exact h
  | recharge amount simulate => exact h
  | terminal call => exact ⟨h.id, h.config, h.controller, h.runState, h.pendingStates, h.map, h.idle⟩
  | script change => exact ⟨h.id, h.config, h.controller, h.runState, h.pendingStates, h.map, h.idle⟩
  | platform platform => exact ⟨h.id, h.config, h.controller, h.runState, h.pendingStates, h.map, h.idle⟩
  | drainUpdates => exact ⟨h.id, h.config, h.controller, h.runState, h.pendingStates, h.map, h.idle⟩
  | _ => cases hop

namespace World

variable {w : World} {ops : List Op} {i : Nat}

theorem actions_of_bystands {op : Op} (h : op.bystands i = true) (w : World) : w.actions op = [] := by
  cases op with
  | machine j mop =>
    cases mop <;> first | rfl | cases h
  | build d => rfl
  | device handle dop => rfl
  | _ => cases h

/-- A machine that is dormant stays so while others do what is no concern of it, and the topology and the
controllers stay as they are. -/
theorem run_bystands (h : ∀ op ∈ ops, op.bystands i = true) {m : Machine} (hrun : m.runState = .running)
    {station : Station} (hs : w.stations[i]? = some station) (hdormant : m.Dormant station.machine) :
    (∃ station', (w.run ops).stations[i]? = some station' ∧ m.Dormant station'.machine) ∧
      (w.run ops).network = w.network := by
  induction ops generalizing w station with
  | nil => exact ⟨⟨station, hs, hdormant⟩, rfl⟩
  | cons op ops ih =>
    have hop := h op List.mem_cons_self
    obtain ⟨station', hs', hcases⟩ := step_station hs op
    have hdormant' : m.Dormant station'.machine := by
      rcases hcases with rfl | rfl | ⟨mop, rfl, rfl⟩
      · exact hdormant
      · exact Station.step_dormant (i := i) hdormant hrun w.site rfl
      · exact Station.step_dormant hdormant hrun w.site hop
    have hnetwork : (w.step op).2.network = w.network := by
      rw [network_step, actions_of_bystands hop]
      rfl
    obtain ⟨hfound, hsame⟩ := ih (fun op' hmem => h op' (List.mem_cons_of_mem _ hmem)) hs' hdormant'
    exact ⟨hfound, hsame.trans hnetwork⟩

/-! ## Resumptions -/

/-- In a run every map is what attaching the devices leads to, of a list of devices that are where those of
the bus are. -/
theorem run_replays {station : Station} (hs : (empty.run ops).stations[i]? = some station) :
    station.machine.MapsBy Machine.Replays :=
  run_mapsBy (fun _ _ _ _ hreplays => hreplays)
    (fun _ _ _ _ _ _ hreplays hnodup => Station.step_replays hreplays hnodup) hs

end World

/-- What it takes that a machine, once it is suspended, takes up the devices of its map again when they are
as in `hw`. -/
structure Machine.Resumable (m : Machine) (map : DeviceMap) (t : Topology) (hw : Hardware) : Prop where
  running : m.runState = .running
  mapped : m.map = some map
  /-- The map lists the devices of the bus in their order. -/
  lists : map.mappings.map Mapping.device = m.controller.devices.map BusDevice.device
  ready : m.controller.state = .ready
  told : m.controller.Told t
  /-- The devices have the sizes and the interrupt lines of the map, and none refuses. -/
  suits : ∀ mapping ∈ map.mappings, mapping.Suits hw
  /-- They have the sizes that they had when the bus was listed (`Scan.enumerate_places`), so a scan gives them
  the same addresses. -/
  placed : m.controller.devices.map BusDevice.address =
    Scan.addresses 0 (m.controller.devices.map fun d => hw.sizeAt d.device.handle)

instance (m : Machine) (map : DeviceMap) (t : Topology) (hw : Hardware) :
    Decidable (m.Resumable map t hw) :=
  decidable_of_iff (m.runState = .running ∧ m.map = some map ∧
      map.mappings.map Mapping.device = m.controller.devices.map BusDevice.device ∧
      m.controller.state = .ready ∧ (m.controller.id ∉ t.invalidations ∧ m.controller.id ∉ t.scanRequests) ∧
      (∀ mapping ∈ map.mappings, mapping.Suits hw) ∧ m.controller.devices.map BusDevice.address =
        Scan.addresses 0 (m.controller.devices.map fun d => hw.sizeAt d.device.handle))
    ⟨fun ⟨hrun, hmap, hlists, hready, htold, hsuits, hplaced⟩ =>
      ⟨hrun, hmap, hlists, hready, ⟨htold.1, htold.2⟩, hsuits, hplaced⟩,
    fun h => ⟨h.running, h.mapped, h.lists, h.ready, ⟨h.told.notices, h.told.requests⟩, h.suits, h.placed⟩⟩

theorem BusDevice.map_spot (devices : List BusDevice) : devices.map BusDevice.spot =
    (devices.map BusDevice.device).zip (devices.map BusDevice.address) := List.zip_map'.symm

namespace Machine

variable {m : Machine} {map : DeviceMap} {t : Topology} {hw : Hardware}

/-- The load that left the map attached the devices where those of the bus are now. -/
theorem Resumable.attached (h : m.Resumable map t hw) (hmaps : m.MapsBy Replays)
    (hnodup : (m.controller.devices.map BusDevice.id).Nodup) :
    ∃ devices, m.Replays devices map ∧
      m.controller.devices.map BusDevice.spot = devices.map BusDevice.spot := by
  obtain ⟨devices, hdistinct, hreplays, hplaces⟩ := hmaps.made map h.mapped
  have hplace := SamePlaces.map_place hplaces hdistinct hnodup (hreplays.lists.symm.trans h.lists) 0 fun _ => 0
  have hspots := congrArg (List.map fun place => (place.1, place.2.1)) hplace
  have hspot : (fun place : DeviceRef × Option Nat × Nat => (place.1, place.2.1)) ∘
      BusDevice.place 0 (fun _ => 0) = BusDevice.spot := by
    funext d
    show (d.device, d.address.map (0 + ·)) = (d.device, d.address)
    cases d.address with
    | none => rfl
    | some address => rw [Option.map_some, Nat.zero_add]
  rw [List.map_map, List.map_map, hspot] at hspots
  exact ⟨devices, hreplays, hspots.symm⟩

/-- There are addresses for all the devices of the bus. -/
theorem Resumable.room (h : m.Resumable map t hw) {devices : List BusDevice} (hreplays : m.Replays devices map)
    (hspots : m.controller.devices.map BusDevice.spot = devices.map BusDevice.spot) :
    (m.controller.devices.map fun d => hw.sizeAt d.device.handle).sum ≤ Scan.lastAddress := by
  rw [← Nat.zero_add (List.sum _)]
  refine Scan.sum_le_of_addresses (Nat.zero_le _) ?_
  rw [← h.placed, List.zip_map']
  intro p hp address haddress
  obtain ⟨d, hd, rfl⟩ := List.mem_map.1 hp
  obtain ⟨d', hd', hspot⟩ := List.mem_map.1 (hspots ▸ List.mem_map_of_mem hd)
  have hdevice : d'.device = d.device := congrArg Prod.fst hspot
  have haddress' : d'.address = some address := (congrArg Prod.snd hspot).trans haddress
  exact hdevice ▸ hreplays.room h.suits hd' haddress'

end Machine

namespace World

variable {w : World} {ops : List Op} {i : Nat}

/-- In its next tick the machine at a position attaches the devices of a map, in their order, at their bases
and with their lines, and gives them to its emulator, which it does not reset.  It runs with the map then,
unless the emulator refuses or the platform has no thread for the worker. -/
def Resumes (w : World) (i : Nat) (map : DeviceMap) : Prop :=
  ∃ m accepted, (w.step (.machine i .tick)).2.machine? i = some m ∧
    (w.calls (.machine i .tick)).filter (·.loader?.isSome) = Machine.loadOf ⟨i⟩ map accepted ∧
    .reset ∉ w.emulatorCalls i (.machine i .tick) ∧ Machine.Ends map m accepted

/-- A machine that was suspended on a ready bus finds the bus as it was in its next poll. -/
theorem poll_restores (hedges : ∀ pre, pre <+: ops → (empty.run pre).site.topology.EdgesKnown)
    {station : Station} (hs : (empty.run ops).stations[i]? = some station) {map : DeviceMap}
    {devices : List BusDevice} {s : Site}
    (hresumable : station.machine.Resumable map (empty.run ops).site.topology s.hardware)
    (hreplays : station.machine.Replays devices map)
    (hspots : station.machine.controller.devices.map BusDevice.spot = devices.map BusDevice.spot)
    (hnumbered : s.topology.Numbered) {c : Controller}
    (hdisposed : station.machine.controller.dispose (empty.run ops).site.topology = (c, s.topology)) :
    (c.poll s).1.state = .ready ∧ (c.poll s).1.devices.map BusDevice.spot = devices.map BusDevice.spot := by
  have hc := controllerAt_machine hs
  have hlive : station.machine.controller.disposed = false := eq_false_of_ne_true fun hdisposed =>
    ((run_vacates ops).machines i _ hc).state hdisposed hresumable.ready
  obtain ⟨hw, visits, hwalk, hlisted⟩ := ((run_found hedges).controllers _ _ hc).sees hlive
    hresumable.ready hresumable.told.notices hresumable.told.requests
  have hroom := hresumable.room hreplays hspots
  have hplaced := hresumable.placed
  have hlooks := (empty.run ops).site.topology.unregister_looks station.machine.controller.id
  rw [Controller.dispose, if_neg (ne_true_of_eq_false hlive), Prod.mk.injEq] at hdisposed
  obtain ⟨rfl, htopology⟩ := hdisposed
  rw [htopology] at hlooks
  obtain ⟨hready, hsame, hsameAt⟩ :=
    Controller.poll_relists (c := { station.machine.controller with disposed := true, state := .scanning })
      hnumbered rfl hlooks hwalk hlisted hplaced hroom
  refine ⟨hready, ?_⟩
  rw [← hspots, BusDevice.map_spot, BusDevice.map_spot, hsame, hsameAt]

theorem resumes_of_resumable {m : Machine} (hm : (empty.run ops).machine? i = some m)
    (hidle : m.worker.isIdle = true)
    (hedges : ∀ pre, pre <+: ops → (empty.run pre).site.topology.EdgesKnown) {mid : List Op}
    (hmid : ∀ op ∈ mid, op.bystands i = true) {map : DeviceMap}
    (hresumable : m.Resumable map (empty.run ops).site.topology
      (((empty.run ops).step (.machine i .suspend)).2.run mid).site.hardware) :
    (((empty.run ops).step (.machine i .suspend)).2.run mid).Resumes i map := by
  have hid := machine?_id ops hm
  obtain ⟨station, hs, rfl⟩ := machine?_eq_some hm
  obtain ⟨devices, hreplays, hspots⟩ := hresumable.attached (run_replays hs) (bus_nodup ops hs)
  have hsuspend := Machine.suspend_of_isIdle hidle (empty.run ops).site
  have hs₁ : ((empty.run ops).step (.machine i .suspend)).2.stations[i]? =
      some { station with machine := (station.machine.suspend (empty.run ops).site).1 } :=
    step_machine? hs .suspend
  have hsite : ((empty.run ops).step (.machine i .suspend)).2.site =
      (station.machine.suspend (empty.run ops).site).2 := step_site hs .suspend
  rw [hsuspend] at hs₁ hsite
  obtain ⟨⟨station₂, hs₂, hdormant⟩, hnetwork⟩ :=
    run_bystands (m := { station.machine.retired with
      controller := (station.machine.controller.dispose (empty.run ops).site.topology).1 })
      hmid hresumable.running hs₁ ⟨rfl, rfl, rfl, rfl, rfl, rfl, hidle⟩
  have hrun : ((empty.run ops).step (.machine i .suspend)).2.run mid =
      empty.run (ops ++ .machine i .suspend :: mid) :=
    (empty.run_append ops (.machine i .suspend :: mid)).symm
  have hnumbered := (run_enrolled (ops ++ .machine i .suspend :: mid)).numbered
  obtain ⟨_, -, hemulates, -⟩ := run_step_emulates (ops ++ .machine i .suspend :: mid)
    (hrun ▸ machine?_of_station hs₂) (.machine i .tick)
  rw [← hrun] at hnumbered hemulates
  generalize ((empty.run ops).step (.machine i .suspend)).2.run mid = w at *
  have htopology : (station.machine.controller.dispose (empty.run ops).site.topology).2 = w.site.topology :=
    (congrArg Site.topology hsite).symm.trans (congrArg Network.topology hnetwork).symm
  have hrunning : station₂.machine.runState = .running := hdormant.runState.trans hresumable.running
  have hconfig : station₂.machine.config = station.machine.config := hdormant.config
  have hstates : station₂.machine.pendingStates = station.machine.pendingStates := hdormant.pendingStates
  have hcontroller : station₂.machine.controller =
      (station.machine.controller.dispose (empty.run ops).site.topology).1 := hdormant.controller
  have hgivenUp : station.machine.controller.dispose (empty.run ops).site.topology =
      (station₂.machine.controller, w.site.topology) := Prod.ext hcontroller.symm htopology
  obtain ⟨hready, hsame⟩ := poll_restores hedges hs hresumable hreplays hspots hnumbered hgivenUp
  have hreplays₂ : station₂.machine.Replays devices map := by
    unfold Machine.Replays
    rw [hconfig, hstates]
    exact hreplays
  obtain ⟨accepted, ⟨es, hjournal, hcalls⟩, hends⟩ := Machine.tick_resumes hrunning hdormant.map hdormant.idle
    hready hsame hreplays₂ hresumable.suits station₂.energy
  have hjournal' : (w.step (.machine i .tick)).2.journal = es ++ w.journal := by
    show (w.step (.machine i .tick)).2.site.hardware.journal = _
    rw [step_site hs₂]
    exact hjournal
  refine ⟨_, accepted, machine?_of_station (step_machine? hs₂ .tick), ?_, fun hreset => ?_, hends⟩
  · rw [calls_eq hjournal', hcalls]
    exact congrArg (Machine.loadOf · map accepted) (hdormant.id.trans hid)
  · exact not_spares_reset i _ (hemulates.spares hrunning (fun hop => nomatch hop) hreset)

/-! ## Suspensions -/

/-- A machine that is suspended a second time is as after the first. -/
theorem step_suspend_twice {station : Station} (hs : w.stations[i]? = some station)
    (hidle : station.machine.worker.isIdle = true) :
    ((w.step (.machine i .suspend)).2.step (.machine i .suspend)).2 =
      (w.step (.machine i .suspend)).2.withHardware ((w.step (.machine i .suspend)).2.site.hardware.record
        (.emulator station.machine.id .releaseScratch)) := by
  have hs₁ := step_machine? hs .suspend
  have hsite : (w.step (.machine i .suspend)).2.site = (station.machine.suspend w.site).2 := step_site hs .suspend
  generalize (w.step (.machine i .suspend)).2 = w₁ at hs₁ hsite ⊢
  have hagain : (station.step w.site .suspend).2.1.step w₁.site .suspend =
      (.done, (station.step w.site .suspend).2.1,
        ⟨w₁.site.topology, w₁.site.hardware.record (.emulator station.machine.id .releaseScratch)⟩) := by
    have htwice := Machine.suspend_twice hidle w.site
    rw [← hsite] at htwice
    show (Answer.done, Station.mk ((station.machine.suspend w.site).1.suspend w₁.site).1 station.energy,
      ((station.machine.suspend w.site).1.suspend w₁.site).2) = _
    rw [htwice]
    rfl
  have hset : w₁.stations.set i (station.step w.site .suspend).2.1 = w₁.stations := by
    obtain ⟨hlt, hget⟩ := List.getElem?_eq_some_iff.1 hs₁
    rw [← hget, List.set_getElem_self hlt]
  show (w₁.stepMachine i .suspend).2 = _
  unfold stepMachine
  rw [hs₁]
  dsimp only
  rw [hagain, hset]
  rfl

/-- A machine whose worker is idle would save the same record after a suspension as before; a second
suspension tells its emulator once more and does nothing else; and its controller owns nothing.  In a run
without edges to unknown elements a resumable machine takes up its devices again as they were, whatever
else was done in the meantime. -/
theorem suspension_transparent (ops : List Op) {i : Nat} {m : Machine}
    (hm : (empty.run ops).machine? i = some m) (hidle : m.worker.isIdle = true) :
    let w := empty.run ops
    let w' := (w.step (.machine i .suspend)).2
    ∃ m', w'.machine? i = some m' ∧
      (m'.saveRecord w'.site.hardware).1 = (m.saveRecord w.site.hardware).1 ∧
      (w'.step (.machine i .suspend)).2 =
        w'.withHardware (w'.site.hardware.record (.emulator m.id .releaseScratch)) ∧
      (∀ e, w'.site.topology.owner? e ≠ some m'.controller.id) ∧
      ∀ mid map, (∀ op ∈ mid, op.bystands i = true) →
        (∀ pre, pre <+: ops → (empty.run pre).site.topology.EdgesKnown) →
          m.Resumable map w.site.topology (w'.run mid).site.hardware → (w'.run mid).Resumes i map := by
  intro w w'
  obtain ⟨station, hs, rfl⟩ := machine?_eq_some hm
  have hsite : w'.site = (station.machine.suspend w.site).2 := step_site hs .suspend
  refine ⟨_, machine?_of_station (step_machine? hs .suspend), ?_, step_suspend_twice hs hidle, fun e => ?_,
    fun mid map hmid hedges hresumable => resumes_of_resumable hm hidle hedges hmid hresumable⟩
  · rw [hsite]
    exact Machine.suspend_saveRecord hidle w.site
  · have hc := controllerAt_machine hs
    have hvacant := Controller.dispose_vacant ((run_enrolled ops).controllers _ _ hc)
      ((run_vacates ops).machines i _ hc)
    show w'.site.topology.owner? e ≠ some (station.machine.suspend w.site).1.controller.id
    rw [hsite, Machine.suspend_of_isIdle hidle]
    exact hvacant.owner (Controller.dispose_disposed _ _) e

/-- A machine with a memory and a device with an interrupt is suspended after it ran for a cycle.  It takes up
both again, after it was saved and somebody wrote to the memory. -/
theorem suspended_machine_takes_up_devices :
    let ops : List Op := [.build (.ram (.new ⟨10⟩ 16 0)), .build (.bare ⟨11⟩),
      .topology (.insert ⟨1⟩ [] [⟨⟨0⟩, ⟨10⟩⟩, ⟨⟨1⟩, ⟨11⟩⟩]),
      .newMachine ⟨1⟩ (.scripted {}) { cyclesPerTick := 1 } (.queue []) .unmetered,
      .machine 0 .start, .machine 0 .tick, .machine 0 .tick, .machine 0 .quiesce]
    let mid : List Op := [.machine 0 .saveRecord, .device ⟨0⟩ (.writeMemory 0 [1, 2])]
    let map : DeviceMap := ⟨0x10000000, 0x20000000,
      [⟨⟨⟨0⟩, ⟨10⟩⟩, some 0x10000000, 16, []⟩, ⟨⟨⟨1⟩, ⟨11⟩⟩, none, 0, [1]⟩]⟩
    let w := empty.run ops
    let w' := (w.step (.machine 0 .suspend)).2
    ∃ m, w.machine? 0 = some m ∧ m.worker.isIdle = true ∧
      m.Resumable map w.site.topology (w'.run mid).site.hardware ∧
      ∃ m', w'.machine? 0 = some m' ∧
        (m'.saveRecord w'.site.hardware).1 = (m.saveRecord w.site.hardware).1 ∧
        (w'.step (.machine 0 .suspend)).2 =
          w'.withHardware (w'.site.hardware.record (.emulator m.id .releaseScratch)) ∧
        (∀ e, w'.site.topology.owner? e ≠ some m'.controller.id) ∧ (w'.run mid).Resumes 0 map := by
  intro ops mid map w w'
  have hedges : ∀ pre ∈ ops.inits, (empty.run pre).site.topology.EdgesKnown := by decide
  have hfound : ∃ m ∈ w.machine? 0, m.worker.isIdle = true ∧
      m.Resumable map w.site.topology (w'.run mid).site.hardware := by decide
  obtain ⟨m, hm, hidle, hresumable⟩ := hfound
  obtain ⟨m', hm', hrecord, htwice, howner, hresumes⟩ := suspension_transparent ops hm hidle
  refine ⟨m, hm, hidle, hresumable, m', hm', hrecord, htwice, howner, ?_⟩
  exact hresumes mid map (by decide) (fun pre hpre => hedges pre ((List.mem_inits pre ops).2 hpre)) hresumable

end World

end DeviceBus
