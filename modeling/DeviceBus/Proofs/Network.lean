import DeviceBus.Proofs.World

/-!
# The network of a world

The topology and the controllers over it, those of machines among them, are the network of a world.
An operation of the host reaches the network through a few actions only: an operation on the topology,
a new controller, an operation on one controller, or the members of a record that stand in for those
of a controller.

    (w.step op).2.network = (w.actions op).foldl (·.act w.site.hardware) w.network   (network_step)

So what the actions keep holds of the network in every run (`World.network_induction`).
-/

namespace DeviceBus

/-- Where a controller is: among the controllers of the host, or in a machine. -/
inductive Seat where
  | host (index : Nat)
  | machine (index : Nat)
  deriving DecidableEq, Repr

/-- The topology and the controllers over it. -/
structure Network where
  topology : Topology
  controllers : Seat → Option Controller

namespace Network

/-- What may happen to a network. -/
inductive Action where
  | topology (op : TopologyOp)
  /-- A new controller takes a free seat. -/
  | join (seat : Seat) (root : ElementId) (config : Config)
  | control (seat : Seat) (op : ControllerOp)
  /-- The members of a record stand in for those of a controller. -/
  | restore (seat : Seat) (members : List ElementId)

/-- The network with a controller in a seat. -/
def put (n : Network) (seat : Seat) (c : Controller) (t : Topology) : Network :=
  ⟨t, fun s => if s = seat then some c else n.controllers s⟩

/-- The network after an action.  Scans look at the sizes and draws of the devices. -/
def act (n : Network) (hw : Hardware) : Action → Network
  | .topology op => { n with topology := (n.topology.step op).2 }
  | .join seat root config =>
    match n.controllers seat with
    | some _ => n
    | none =>
      let (c, t) := Controller.new n.topology root config
      n.put seat c t
  | .control seat op =>
    match n.controllers seat with
    | none => n
    | some c =>
      let (_, c, s) := c.step ⟨n.topology, hw⟩ op
      n.put seat c s.topology
  | .restore seat members =>
    match n.controllers seat with
    | none => n
    | some c => n.put seat (c.restoreMembers members) n.topology

@[simp] theorem put_topology (n : Network) (seat : Seat) (c : Controller) (t : Topology) :
    (n.put seat c t).topology = t := rfl

@[simp] theorem put_controllers (n : Network) (seat : Seat) (c : Controller) (t : Topology) (s : Seat) :
    (n.put seat c t).controllers s = if s = seat then some c else n.controllers s := rfl

theorem put_self {n : Network} {seat : Seat} {c : Controller} (h : n.controllers seat = some c) :
    n.put seat c n.topology = n := by
  unfold put
  congr 1
  funext s
  by_cases hs : s = seat
  · rw [if_pos hs, hs, h]
  · rw [if_neg hs]

theorem put_put (n : Network) (seat : Seat) (c c' : Controller) (t t' : Topology) :
    (n.put seat c t).put seat c' t' = n.put seat c' t' := by
  unfold put
  congr 1
  funext s
  by_cases hs : s = seat
  · rw [if_pos hs, if_pos hs]
  · rw [if_neg hs, if_neg hs]
    exact if_neg hs

theorem act_join {n : Network} {seat : Seat} (h : n.controllers seat = none) (hw : Hardware)
    (root : ElementId) (config : Config) :
    n.act hw (.join seat root config) =
      n.put seat (Controller.new n.topology root config).1 (Controller.new n.topology root config).2 := by
  simp only [act, h]

theorem act_control {n : Network} {seat : Seat} {c : Controller} (h : n.controllers seat = some c)
    (hw : Hardware) (op : ControllerOp) :
    n.act hw (.control seat op) =
      n.put seat (c.step ⟨n.topology, hw⟩ op).2.1 (c.step ⟨n.topology, hw⟩ op).2.2.topology := by
  simp only [act, h]

theorem act_restore {n : Network} {seat : Seat} {c : Controller} (h : n.controllers seat = some c)
    (hw : Hardware) (members : List ElementId) :
    n.act hw (.restore seat members) = n.put seat (c.restoreMembers members) n.topology := by
  simp only [act, h]

/-! ### Names -/

/-- No two controllers share a name. -/
def Distinct (n : Network) : Prop :=
  ∀ seat seat' c c', n.controllers seat = some c → n.controllers seat' = some c' → c.id = c'.id →
    seat = seat'

/-- A controller under a name that is new, or was that of its seat before, shares it with no other. -/
theorem Distinct.apart {n : Network} (h : n.Distinct)
    (hserial : ∀ seat c, n.controllers seat = some c → c.id.serial ≤ n.topology.lastSerial)
    {seat : Seat} {c : Controller}
    (hname : n.topology.lastSerial < c.id.serial ∨ ∃ c₀, n.controllers seat = some c₀ ∧ c.id = c₀.id)
    (seat' : Seat) (c' : Controller) (hc' : n.controllers seat' = some c') (hne : seat' ≠ seat) :
    c'.id ≠ c.id := by
  intro heq
  rcases hname with hfresh | ⟨c₀, hc₀, hsame⟩
  · have hle := hserial seat' c' hc'
    rw [heq] at hle
    omega
  · exact hne (h seat' seat c' c₀ hc' hc₀ (heq.trans hsame))

theorem Distinct.put {n : Network} (h : n.Distinct) {seat : Seat} {c : Controller}
    (hapart : ∀ seat' c', n.controllers seat' = some c' → seat' ≠ seat → c'.id ≠ c.id) (t : Topology) :
    (n.put seat c t).Distinct := by
  intro s s' d d' hd hd' heq
  rw [put_controllers] at hd hd'
  split at hd
  · next hs =>
    cases hd
    split at hd'
    · next hs' => rw [hs, hs']
    · next hs' => exact absurd heq.symm (hapart s' d' hd' hs')
  · next hs =>
    split at hd'
    · cases hd'
      exact absurd heq (hapart s d hd hs)
    · exact h s s' d d' hd hd' heq

end Network

/-! ## Machines -/

open Network (Action)

/-- What an operation of a machine does to the network. -/
def MachineOp.actions (seat : Seat) : MachineOp → List Action
  | .tick => [.control seat .poll, .control seat .takeChanges]
  | .suspend => [.control seat .dispose]
  | .finalize => [.control seat .dispose]
  | .scheduleScan => [.control seat .scheduleScan]
  | .loadRecord r => [.restore seat r.elements]
  | _ => []

/-- What an operation of a machine does to its controller and the topology. -/
theorem Station.step_actions {n : Network} {seat : Seat} {station : Station} {s : Site}
    (hc : n.controllers seat = some station.machine.controller) (ht : n.topology = s.topology)
    (op : MachineOp) :
    (op.actions seat).foldl (fun n a => n.act s.hardware a) n =
      n.put seat (station.step s op).2.1.machine.controller (station.step s op).2.2.topology := by
  obtain ⟨t, hw⟩ := s
  subst ht
  have hsame {c : Controller} (h : c = station.machine.controller) : n = n.put seat c n.topology := by
    rw [h, Network.put_self hc]
  cases op with
  | tick =>
    have hcontroller := (station.machine.tick_acts station.energy ⟨n.topology, hw⟩).relays.controller
    have hlook := station.machine.look_controller ⟨n.topology, hw⟩
    show ((n.act hw (.control seat .poll)).act hw (.control seat .takeChanges)) = _
    rw [Network.act_control hc]
    rw [Network.act_control (if_pos rfl)]
    rw [Network.put_put]
    show n.put seat (station.machine.controller.poll ⟨n.topology, hw⟩).1.takeChanges.2 _ =
      n.put seat (station.machine.tick station.energy ⟨n.topology, hw⟩).1.controller _
    rw [show (station.machine.tick station.energy ⟨n.topology, hw⟩).1.controller = _ from
      hcontroller.trans hlook]
    rfl
  | suspend =>
    show n.act hw (.control seat .dispose) = _
    rw [Network.act_control hc]
    show n.put seat (station.machine.controller.dispose n.topology).1 _ =
      n.put seat (station.machine.suspend ⟨n.topology, hw⟩).1.controller _
    rw [Machine.suspend_controller]
    show n.put seat _ (station.machine.controller.dispose n.topology).2 = n.put seat _
      ((station.machine.retire hw).1.controller.dispose n.topology).2
    rw [(station.machine.retire_acts hw).relays.controller]
  | finalize =>
    show n.act hw (.control seat .dispose) = _
    rw [Network.act_control hc]
    show n.put seat (station.machine.controller.dispose n.topology).1 _ =
      n.put seat (station.machine.finalize ⟨n.topology, hw⟩).1.controller _
    rw [(station.machine.finalize_acts ⟨n.topology, hw⟩).relays.controller, Machine.suspend_controller]
    show n.put seat _ (station.machine.controller.dispose n.topology).2 = n.put seat _
      ((station.machine.retire hw).1.controller.dispose n.topology).2
    rw [(station.machine.retire_acts hw).relays.controller]
  | scheduleScan => exact Network.act_control hc hw .scheduleScan
  | loadRecord r =>
    show n.act hw (.restore seat r.elements) =
      n.put seat (station.machine.loadRecord r hw).1.controller n.topology
    rw [Network.act_restore hc, (station.machine.loadRecord_keeps r hw).2.2]
  | start => exact hsame (station.machine.start_acts hw).relays.controller
  | stop => exact hsame (station.machine.stop_acts hw).relays.controller
  | readMemory address count =>
    exact hsame (readMemory_acts station.machine address count hw).relays.controller
  | writeMemory address data =>
    exact hsame (writeMemory_acts station.machine address data hw).relays.controller
  | saveRecord => exact hsame (station.machine.saveRecord_acts hw).relays.controller
  | _ => exact hsame rfl

/-! ## Worlds -/

namespace World

/-- The controller in a seat. -/
def controllerAt (w : World) : Seat → Option Controller
  | .host i => w.controllers[i]?
  | .machine i => w.stations[i]?.map (·.machine.controller)

/-- The network of a world. -/
def network (w : World) : Network := ⟨w.site.topology, w.controllerAt⟩

/-- What an operation of the host does to the network. -/
def actions (w : World) : Op → List Action
  | .topology op => [.topology op]
  | .newController root config => [.join (.host w.controllers.length) root config]
  | .newMachine root _ config _ _ => [.join (.machine w.stations.length) root config]
  | .controller i op => [.control (.host i) op]
  | .machine i op => op.actions (.machine i)
  | _ => []

/-- Only an operation on the topology acts on the topology alone. -/
theorem eq_of_topology_mem_actions {w : World} {op : Op} {top : TopologyOp}
    (h : .topology top ∈ w.actions op) : op = .topology top := by
  cases op with
  | topology top' =>
    cases List.mem_singleton.1 h
    rfl
  | machine i mop => cases mop <;> simp [actions, MachineOp.actions] at h
  | _ => simp [actions] at h

theorem stepMachine_controllers (w : World) (i : Nat) (op : MachineOp) :
    (w.stepMachine i op).2.controllers = w.controllers := by
  unfold stepMachine
  split <;> rfl

/-- An operation of a machine nobody built does nothing. -/
theorem stepMachine_of_none {w : World} {i : Nat} (h : w.stations[i]? = none) (op : MachineOp) :
    (w.stepMachine i op).2 = w := by
  unfold stepMachine
  rw [h]

theorem actions_of_none {n : Network} {seat : Seat} (h : n.controllers seat = none) (hw : Hardware)
    (op : MachineOp) : (op.actions seat).foldl (fun n a => n.act hw a) n = n := by
  have hcontrol (op : ControllerOp) : n.act hw (.control seat op) = n := by
    simp only [Network.act, h]
  cases op with
  | tick =>
    show (n.act hw (.control seat .poll)).act hw (.control seat .takeChanges) = n
    rw [hcontrol, hcontrol]
  | suspend => exact hcontrol .dispose
  | finalize => exact hcontrol .dispose
  | scheduleScan => exact hcontrol .scheduleScan
  | loadRecord r =>
    show n.act hw (.restore seat r.elements) = n
    simp only [Network.act, h]
  | _ => rfl

theorem controllerAt_machine {w : World} {i : Nat} {station : Station} (h : w.stations[i]? = some station) :
    w.network.controllers (.machine i) = some station.machine.controller := congrArg (Option.map _) h

/-- The network after an operation of a machine. -/
theorem network_stepMachine (w : World) (i : Nat) (op : MachineOp) :
    (w.stepMachine i op).2.network =
      (op.actions (.machine i)).foldl (fun n a => n.act w.site.hardware a) w.network := by
  cases hs : w.stations[i]? with
  | none =>
    have hnone : w.network.controllers (.machine i) = none := by
      show w.stations[i]?.map _ = none
      rw [hs]
      rfl
    rw [stepMachine_of_none hs, actions_of_none hnone]
  | some station =>
    rw [Station.step_actions (controllerAt_machine hs) rfl op]
    have htopology : (w.stepMachine i op).2.site.topology = (station.step w.site op).2.2.topology := by
      unfold stepMachine
      rw [hs]
    unfold network Network.put
    rw [htopology]
    congr 1
    funext seat
    cases seat with
    | host j =>
      show (w.stepMachine i op).2.controllers[j]? = _
      rw [stepMachine_controllers]
      exact (if_neg (by simp)).symm
    | machine j =>
      show ((w.stepMachine i op).2.stations[j]?).map _ = _
      rw [stepMachine_stations]
      by_cases hij : i = j
      · subst hij
        rw [if_pos rfl, if_pos rfl, hs]
        rfl
      · rw [if_neg hij, if_neg (fun h => hij (Seat.machine.inj h).symm)]
        rfl

/-- Waiting for a machine leaves the network alone. -/
theorem network_awaitBarrier (w : World) (h : Handle) : (w.awaitBarrier h).network = w.network := by
  rcases w.awaitBarrier_cases h with he | ⟨i, he⟩
  · rw [he]
  · rw [he, network_stepMachine]
    rfl

theorem network_stepDevice (w : World) (h : Handle) (op : DeviceOp) :
    (w.stepDevice h op).2.network = w.network := by
  cases op with
  | insertMedium m => exact w.network_awaitBarrier h
  | ejectMedium => exact w.network_awaitBarrier h
  | exportMedium => exact w.network_awaitBarrier h
  | restore state =>
    unfold stepDevice
    by_cases hmedium : w.restoresMedium h state
    · simp only [hmedium, if_true]
      exact w.network_awaitBarrier h
    · simp only [hmedium]
      rfl
  | writeStorage offset data =>
    unfold stepDevice
    dsimp only
    split <;> rfl
  | _ => rfl

theorem getElem?_concat {α : Type} (as : List α) (a : α) (i : Nat) :
    (as ++ [a])[i]? = if i = as.length then some a else as[i]? := by
  split
  · next hi => rw [hi, List.getElem?_concat_length]
  · next hi =>
    rw [List.getElem?_append]
    split
    · rfl
    · rw [List.getElem?_eq_none (by simp; omega), List.getElem?_eq_none (by omega)]

theorem network_newController (w : World) (root : ElementId) (config : Config) :
    (w.step (.newController root config)).2.network =
      w.network.act w.site.hardware (.join (.host w.controllers.length) root config) := by
  have hfree : w.network.controllers (.host w.controllers.length) = none :=
    List.getElem?_eq_none (Nat.le_refl _)
  rw [Network.act_join hfree]
  unfold network Network.put
  congr 1
  funext seat
  cases seat with
  | host j =>
    show (w.controllers ++ [_])[j]? = _
    rw [getElem?_concat]
    simp only [Seat.host.injEq]
    rfl
  | machine j => exact (if_neg (by simp)).symm

theorem network_newMachine (w : World) (root : ElementId) (emulator : Emulator) (config : Config)
    (sink : Sink) (energy : EnergySource) :
    (w.step (.newMachine root emulator config sink energy)).2.network =
      w.network.act w.site.hardware (.join (.machine w.stations.length) root config) := by
  have hfree : w.network.controllers (.machine w.stations.length) = none := by
    show w.stations[w.stations.length]?.map _ = none
    rw [List.getElem?_eq_none (Nat.le_refl _)]
    rfl
  rw [Network.act_join hfree]
  unfold network Network.put
  congr 1
  funext seat
  cases seat with
  | host j => exact (if_neg (by simp)).symm
  | machine j =>
    show (w.stations ++ [_])[j]?.map _ = _
    rw [getElem?_concat]
    simp only [Seat.machine.injEq]
    split
    · rfl
    · rfl

theorem network_stepController (w : World) (i : Nat) (op : ControllerOp) :
    (w.stepController i op).2.network = w.network.act w.site.hardware (.control (.host i) op) := by
  cases hc : w.controllers[i]? with
  | none =>
    have hnone : w.network.controllers (.host i) = none := hc
    simp only [stepController, Network.act, hc, hnone]
  | some c =>
    rw [Network.act_control (show w.network.controllers (.host i) = some c from hc)]
    unfold stepController
    rw [hc]
    have hlt : i < w.controllers.length := (List.getElem?_eq_some_iff.1 hc).1
    unfold network Network.put
    congr 1
    funext seat
    cases seat with
    | host j =>
      show (w.controllers.set i _)[j]? = _
      by_cases hij : i = j
      · subst hij
        rw [if_pos rfl, List.getElem?_set_self hlt]
      · rw [if_neg (fun h => hij (Seat.host.inj h).symm), List.getElem?_set_ne hij]
        rfl
    | machine j => exact (if_neg (by simp)).symm

/-- An operation of the host does its actions to the network, and nothing else. -/
theorem network_step (w : World) (op : Op) :
    (w.step op).2.network = (w.actions op).foldl (fun n a => n.act w.site.hardware a) w.network := by
  cases op with
  | machine i mop => exact w.network_stepMachine i mop
  | device h dop => exact w.network_stepDevice h dop
  | build d => rfl
  | topology top => rfl
  | newController root config => exact w.network_newController root config
  | newMachine root emulator config sink energy =>
    exact w.network_newMachine root emulator config sink energy
  | controller i cop => exact w.network_stepController i cop

/-- What each action of an operation keeps holds of the network after the operation. -/
theorem step_induction {I : Network → Prop} (w : World) {op : Op}
    (hact : ∀ n, ∀ a ∈ w.actions op, I n → I (n.act w.site.hardware a)) (h : I w.network) :
    I (w.step op).2.network := by
  have hfold (as : List Action) (has : ∀ a ∈ as, a ∈ w.actions op) (n : Network) (hn : I n) :
      I (as.foldl (fun n a => n.act w.site.hardware a) n) := by
    induction as generalizing n with
    | nil => exact hn
    | cons a as ih =>
      exact ih (fun b hb => has b (List.mem_cons_of_mem _ hb)) _ (hact n a (has a List.mem_cons_self) hn)
  rw [network_step]
  exact hfold _ (fun _ ha => ha) _ h

/-- What every action of a kind keeps holds of the network in every run of such actions. -/
theorem network_induction {I : Network → Prop} {Q : Action → Prop}
    (hact : ∀ n hw a, Q a → I n → I (n.act hw a)) {w : World} (h : I w.network) (ops : List Op)
    (hops : ∀ op ∈ ops, ∀ w' : World, ∀ a ∈ w'.actions op, Q a) : I (w.run ops).network := by
  induction ops generalizing w with
  | nil => exact h
  | cons op ops ih =>
    refine ih ?_ fun op' hop' => hops op' (List.mem_cons_of_mem _ hop')
    exact w.step_induction (fun n a ha hn => hact n _ a (hops op List.mem_cons_self w a ha) hn) h

end World

end DeviceBus
