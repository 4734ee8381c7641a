import DeviceBus.Proofs.Disposal
import DeviceBus.Proofs.Persistence

/-!
# Whose elements a record has

The record of a machine has the members of its controller for elements.  They are what a scan found or,
since then, what another record had, which was taken over and asked for no scan.  So after a tick that
leaves the bus ready a machine owns the elements of its last completed scan, and its record has these
exactly if the last record that was taken over since, if there was any, had them too
(`World.saved_elements_iff`).

    found [1]  loaded [7]               owns 1, saves 7
    found [1]  loaded [7]  found [1]    owns 1, saves 1
-/

namespace DeviceBus

/-! ## Controllers with nothing to be told -/

namespace Topology

/-- A controller that has nothing to be told afterwards had nothing to be told before, and owns what it
did. -/
def Warns (id : ControllerId) (t t' : Topology) : Prop :=
  id ∉ t'.invalidations → id ∉ t'.scanRequests →
    id ∉ t.invalidations ∧ id ∉ t.scanRequests ∧ ∀ e, t'.owner? e = some id ↔ t.owner? e = some id

variable {t t' t'' : Topology} {id : ControllerId}

theorem Warns.refl (t : Topology) (id : ControllerId) : t.Warns id t :=
  fun hnotice hrequest => ⟨hnotice, hrequest, fun _ => .rfl⟩

theorem Warns.trans (h : t.Warns id t') (h' : t'.Warns id t'') : t.Warns id t'' := by
  intro hnotice hrequest
  obtain ⟨hnotice, hrequest, howner'⟩ := h' hnotice hrequest
  obtain ⟨hnotice, hrequest, howner⟩ := h hnotice hrequest
  exact ⟨hnotice, hrequest, fun e => (howner' e).trans (howner e)⟩

theorem Keeps.warns (h : t.Keeps id t') : t.Warns id t' :=
  fun hnotice hrequest => ⟨mt h.invalidations.2 hnotice, mt h.requests hrequest, h.owner⟩

theorem Treats.warns (h : t.Treats id t') : t.Warns id t' := by
  rcases h with hkeeps | hrobs
  · exact hkeeps.warns
  · exact fun hnotice => absurd hrobs.invalidations hnotice

theorem step_warns (t : Topology) (op : TopologyOp) (id : ControllerId) : t.Warns id (t.step op).2 :=
  fun hnotice hrequest => (t.step_keeps op hrequest).warns hnotice hrequest

end Topology

namespace Network

variable {n : Network} {seat : Seat} {c : Controller}

/-- What an action elsewhere does to the topology is an operation on elements, or nothing, or what another
controller does. -/
theorem Enrolled.act_elsewhere (h : n.Enrolled) (hw : Hardware) (hc : n.controllers seat = some c)
    {a : Action} (ha : a.seat? ≠ some seat) :
    (∃ op, a = .topology op) ∨ (n.act hw a).topology = n.topology ∨
      ∃ id, c.id ≠ id ∧ n.topology.Yields id (n.act hw a).topology := by
  cases a with
  | topology op => exact .inl ⟨op, rfl⟩
  | join s root config =>
    cases hseat : n.controllers s with
    | some d => exact .inr (.inl (by simp only [Network.act, hseat]))
    | none =>
      rw [act_join hseat]
      refine .inr (.inr ⟨_, fun heq => ?_, n.topology.register_yields root⟩)
      have hserial := (h.controllers seat c hc).serial
      rw [heq] at hserial
      exact absurd hserial (Nat.not_succ_le_self _)
  | restore s members =>
    cases hseat : n.controllers s with
    | none => exact .inr (.inl (by simp only [Network.act, hseat]))
    | some d =>
      rw [act_restore hseat]
      exact .inr (.inl rfl)
  | control s op =>
    have hne : seat ≠ s := fun hs => ha (congrArg some hs.symm)
    cases hseat : n.controllers s with
    | none => exact .inr (.inl (by simp only [Network.act, hseat]))
    | some d =>
      have hid : c.id ≠ d.id := fun heq => hne (h.distinct seat s c d hc hseat heq)
      rw [act_control hseat]
      cases op with
      | poll =>
        have hserial (s' : Seat) (c' : Controller) (hc' : n.controllers s' = some c') :=
          (h.controllers s' c' hc').serial
        have hapart : c.id ≠ (d.poll ⟨n.topology, hw⟩).1.id :=
          h.distinct.apart hserial (poll_name hseat) seat c hc hne
        exact .inr (.inr ⟨_, hapart, d.poll_yields ⟨n.topology, hw⟩⟩)
      | scan => exact .inr (.inr ⟨_, hid, d.scan_yields ⟨n.topology, hw⟩⟩)
      | dispose =>
        have hregistered := (h.controllers s d hseat).isRegistered
        exact .inr (.inr ⟨_, hid, Controller.dispose_yields hregistered⟩)
      | scheduleScan => exact .inr (.inl rfl)
      | takeChanges => exact .inr (.inl rfl)

/-- No action elsewhere takes anything from a controller in office without telling it. -/
theorem Enrolled.act_warns (h : n.Enrolled) (hw : Hardware) (hc : n.controllers seat = some c)
    (hlive : c.disposed = false) {a : Action} (ha : a.seat? ≠ some seat) :
    n.topology.Warns c.id (n.act hw a).topology := by
  have hregistered : n.topology.isRegistered c.id = true := by
    rw [(h.controllers seat c hc).isRegistered, hlive]
    rfl
  rcases h.act_elsewhere hw hc ha with ⟨op, rfl⟩ | hsame | ⟨id, hne, hyields⟩
  · exact n.topology.step_warns op c.id
  · rw [hsame]
    exact .refl _ _
  · exact (hyields.treats c.id hne hregistered).warns

end Network

/-! ## Polls that leave the bus ready -/

namespace Controller

/-- The elements that a poll finds, if it runs a scan and the scan completes. -/
def survey? (c : Controller) (s : Site) : Option (List ElementId) :=
  if (c.absorb s).1.scanPending = true ∧ (c.poll s).1.state = .ready then some (c.reach s) else none

variable {c : Controller} {s : Site}

theorem reach_nodup (c : Controller) (s : Site) : (c.reach s).Nodup := by
  unfold reach
  split
  · exact List.nodup_nil
  · next visits hwalk =>
    split
    · exact List.nodup_nil
    · exact Scan.walk_nodup hwalk

/-- A scan that completes has the elements that it reaches for members, and owns exactly these. -/
theorem scan_ready (h : (c.scan s).1.state = .ready) :
    (c.scan s).1.members = c.reach s ∧
      ∀ e, (c.scan s).2.topology.owner? e = some (c.scan s).1.id ↔ e ∈ c.reach s := by
  rcases c.scan_cases s with he | ⟨_, _, _, he⟩ | ⟨visits, devices, _, _, hwalk, henumerate, he⟩
  · rw [he] at h
    cases h
  · rw [he] at h
    cases h
  · have hreach : c.reach s = visits.map Query.element := by
      unfold reach
      rw [hwalk]
      dsimp only
      rw [henumerate]
    rw [he, hreach]
    exact ⟨rfl, s.topology.owner?_claim c.id _⟩

/-- A controller that is ready and not about to scan, after it was told all there is, was told nothing. -/
theorem absorb_idle (ht : s.topology.Numbered) (hidle : (c.absorb s).1.scanPending ≠ true)
    (hready : (c.absorb s).1.state = .ready) :
    c.Quiescent s.topology ∧ c.absorb s = (c, s.told c.id) := by
  obtain ⟨hlive, hrequest, hlost⟩ := of_absorb_idle ht hidle
  have htold : c.id ∉ s.topology.invalidations := by
    intro hlost
    obtain ⟨changes, he⟩ := absorb_of_lost hlive hlost
    rw [he] at hready
    cases hready
  have hpending : ¬ c.scanPending = true := fun h => htold (hlost h)
  have hunasked : ¬ c.Asked s.topology := not_or.2 ⟨hpending, hrequest⟩
  refine ⟨⟨⟨htold, hrequest⟩, eq_false_of_ne_true hpending⟩, ?_⟩
  rw [absorb_of_told hlive htold, if_neg hunasked]

/-- A poll that leaves the bus ready found it, or left the controller and all claims as they were. -/
theorem poll_ready (ht : s.topology.Numbered) (hready : (c.poll s).1.state = .ready) :
    (c.survey? s = some (c.reach s) ∧ (c.poll s).1.members = c.reach s ∧
        ∀ e, (c.poll s).2.topology.owner? e = some (c.poll s).1.id ↔ e ∈ c.reach s) ∨
      c.survey? s = none ∧ c.state = .ready ∧ c.Quiescent s.topology ∧ c.poll s = (c, s.told c.id) := by
  by_cases hdue : (c.absorb s).1.scanPending = true
  · left
    refine ⟨if_pos ⟨hdue, hready⟩, ?_⟩
    rw [poll_of_due hdue] at hready ⊢
    rw [← c.absorb_reach s]
    exact scan_ready hready
  · right
    have hpoll : c.poll s = c.absorb s := poll_of_idle hdue
    rw [hpoll] at hready
    obtain ⟨hquiescent, habsorb⟩ := absorb_idle ht hdue hready
    rw [habsorb] at hpoll hready
    exact ⟨if_neg fun h => hdue h.1, hready, hquiescent, hpoll⟩

end Controller

/-! ## What becomes the members of a controller -/

/-- What the members of a machine's controller are set to. -/
inductive Membership where
  /-- What a scan found. -/
  | found (elements : List ElementId)
  /-- What a record had. -/
  | loaded (elements : List ElementId)
  deriving DecidableEq, Repr

/-- A controller that was last found to have a bus, and since then took over these lists of members. -/
structure Controller.Holds (c : Controller) (t : Topology) (bus : List ElementId)
    (loads : List (List ElementId)) : Prop where
  live : c.disposed = false
  nodup : bus.Nodup
  owner : c.Told t → ∀ e, t.owner? e = some c.id ↔ e ∈ bus
  members : c.members = loads.getLast?.getD bus

/-- Every action of an operation of a machine is about its seat. -/
theorem MachineOp.seat_of_mem_actions {seat : Seat} {mop : MachineOp} {a : Network.Action}
    (ha : a ∈ mop.actions seat) : a.seat? = some seat := by
  cases mop with
  | tick =>
    rcases List.mem_cons.1 ha with rfl | ha
    · rfl
    · cases List.mem_singleton.1 ha
      rfl
  | suspend | finalize | scheduleScan | loadRecord r =>
    cases List.mem_singleton.1 ha
    rfl
  | _ => cases ha

namespace World

/-- What an operation sets the members of a machine's controller to. -/
def membership? (w : World) (i : Nat) : Op → Option Membership
  | .machine j .tick =>
    if j = i then ((w.controllerAt (.machine i)).bind (·.survey? w.site)).map .found else none
  | .machine j (.loadRecord r) =>
    if j = i then (w.controllerAt (.machine i)).map fun _ => .loaded r.elements else none
  | _ => none

/-- What a run sets the members of a machine's controller to, in order. -/
def memberships (i : Nat) (ops : List Op) : List Membership :=
  empty.log (fun w op => (w.membership? i op).toList) ops

variable {w : World} {op : Op} {i : Nat} {c c₀ : Controller}

/-- Only an operation of a machine, and the one that builds it, is about its seat. -/
theorem seat_of_mem_actions {a : Network.Action} (ha : a ∈ w.actions op)
    (hseat : a.seat? = some (.machine i)) : (∃ mop, op = .machine i mop) ∨ i = w.stations.length := by
  cases op with
  | machine j mop =>
    cases (MachineOp.seat_of_mem_actions ha).symm.trans hseat
    exact .inl ⟨mop, rfl⟩
  | newMachine root emulator config sink energy =>
    cases List.mem_singleton.1 ha
    cases hseat
    exact .inr rfl
  | topology top =>
    cases List.mem_singleton.1 ha
    cases hseat
  | newController root config =>
    cases List.mem_singleton.1 ha
    cases hseat
  | controller j cop =>
    cases List.mem_singleton.1 ha
    cases hseat
  | _ => cases ha

/-- A controller that is ready was there before the operation. -/
theorem controllerAt_of_ready (hc : (w.step op).2.controllerAt (.machine i) = some c)
    (hready : c.state = .ready) : ∃ c₀, w.controllerAt (.machine i) = some c₀ := by
  obtain ⟨station', hs', rfl⟩ := Option.map_eq_some_iff.1 hc
  rcases step_station_inv hs' with ⟨station, hs⟩ | ⟨root, emulator, config, sink, -, hm⟩
  · exact ⟨_, controllerAt_machine hs⟩
  · rw [hm] at hready
    cases hready

/-- An operation elsewhere leaves a machine its controller, and takes nothing from it without telling
it. -/
theorem step_elsewhere (h : w.network.Enrolled) (hop : ∀ mop, op ≠ .machine i mop)
    (hc : w.controllerAt (.machine i) = some c₀) :
    (w.step op).2.controllerAt (.machine i) = some c₀ ∧
      (c₀.disposed = false → w.site.topology.Warns c₀.id (w.step op).2.site.topology) := by
  have hlt : i < w.stations.length := by
    obtain ⟨station, hs, -⟩ := Option.map_eq_some_iff.1 hc
    exact (List.getElem?_eq_some_iff.1 hs).1
  have hstep : (w.step op).2.network.Enrolled ∧
      (w.step op).2.network.controllers (.machine i) = some c₀ ∧
      (c₀.disposed = false → w.site.topology.Warns c₀.id (w.step op).2.network.topology) := by
    refine w.step_induction (I := fun n => n.Enrolled ∧ n.controllers (.machine i) = some c₀ ∧
      (c₀.disposed = false → w.site.topology.Warns c₀.id n.topology)) (fun n a ha hn => ?_)
      ⟨h, hc, fun _ => .refl _ _⟩
    obtain ⟨henrolled, hseat, hwarns⟩ := hn
    have ha : a.seat? ≠ some (.machine i) := by
      intro hs
      rcases seat_of_mem_actions ha hs with ⟨mop, rfl⟩ | hi
      · exact hop mop rfl
      · exact absurd hi (Nat.ne_of_lt hlt)
    refine ⟨henrolled.act _ a, (Network.act_controllers n _ ha).trans hseat, fun hlive => ?_⟩
    exact (hwarns hlive).trans (henrolled.act_warns _ hseat hlive ha)
  exact hstep.2

theorem membership?_elsewhere (hop : ∀ mop, op ≠ .machine i mop) : w.membership? i op = none := by
  cases op with
  | machine j mop =>
    have hne : j ≠ i := by
      rintro rfl
      exact hop mop rfl
    cases mop with
    | tick => exact if_neg hne
    | loadRecord r => exact if_neg hne
    | _ => rfl
  | _ => rfl

/-- What an operation does to a ready controller that holds a bus: a tick finds it anew, a record that is
taken over stands in for its members, and all else leaves it the bus. -/
inductive Succeeds (w : World) (i : Nat) (op : Op) (c : Controller) (t : Topology) : Prop where
  | found (bus : List ElementId) (hop : w.membership? i op = some (.found bus)) (hc : c.Holds t bus [])
  | kept (c₀ : Controller) (loads : List (List ElementId)) (hc₀ : w.controllerAt (.machine i) = some c₀)
    (hready : c₀.state = .ready) (hop : (w.membership? i op).toList = loads.map .loaded)
    (hc : ∀ bus earlier, c₀.Holds w.site.topology bus earlier → c.Holds t bus (earlier ++ loads))

/-- What a seat has after an operation that puts a controller there. -/
theorem of_network_put {c' : Controller} {t : Topology}
    (hstep : (w.step op).2.network = w.network.put (.machine i) c' t)
    (hc : (w.step op).2.controllerAt (.machine i) = some c) :
    c = c' ∧ (w.step op).2.site.topology = t := by
  change (w.step op).2.network.controllers (.machine i) = some c at hc
  rw [hstep, Network.put_controllers, if_pos rfl] at hc
  exact ⟨(Option.some.inj hc).symm, congrArg Network.topology hstep⟩

/-- A controller that goes on with its name and its members goes on with its bus. -/
theorem Succeeds.of_same {t : Topology} (hc₀ : w.controllerAt (.machine i) = some c₀)
    (hready : c₀.state = .ready) (hop : w.membership? i op = none) (hdisposed : c.disposed = c₀.disposed)
    (hmembers : c.members = c₀.members)
    (howner : c₀.disposed = false → c.Told t → c₀.Told w.site.topology ∧
      ∀ e, t.owner? e = some c.id ↔ w.site.topology.owner? e = some c₀.id) : w.Succeeds i op c t := by
  refine .kept c₀ [] hc₀ hready (by rw [hop]; rfl) fun bus earlier h => ?_
  rw [List.append_nil]
  refine ⟨hdisposed.trans h.live, h.nodup, fun htold e => ?_, hmembers.trans h.members⟩
  obtain ⟨htold, hsame⟩ := howner h.live htold
  exact (hsame e).trans (h.owner htold e)

theorem tick_succeeds (h : w.network.Enrolled) (hc₀ : w.controllerAt (.machine i) = some c₀)
    (hready : (c₀.poll w.site).1.state = .ready) :
    w.Succeeds i (.machine i .tick) (c₀.poll w.site).1.takeChanges.2 (c₀.poll w.site).2.topology := by
  have hmembership : w.membership? i (.machine i .tick) = (c₀.survey? w.site).map .found := by
    refine (if_pos rfl).trans ?_
    rw [hc₀]
    rfl
  rcases Controller.poll_ready (s := w.site) h.numbered hready with
    ⟨hsurvey, hmembers, howner⟩ | ⟨hsurvey, hready₀, hquiescent, hpoll⟩
  · rw [hsurvey] at hmembership
    exact .found (c₀.reach w.site) hmembership
      ⟨c₀.poll_disposed w.site, c₀.reach_nodup w.site, fun _ => howner, hmembers⟩
  · rw [hsurvey] at hmembership
    rw [hpoll]
    exact .of_same hc₀ hready₀ hmembership rfl rfl fun _ _ => ⟨hquiescent.toTold, fun _ => .rfl⟩

theorem loadRecord_succeeds (hc₀ : w.controllerAt (.machine i) = some c₀) (hready : c₀.state = .ready)
    (r : Record) :
    w.Succeeds i (.machine i (.loadRecord r)) (c₀.restoreMembers r.elements) w.site.topology := by
  have hmembership : w.membership? i (.machine i (.loadRecord r)) = some (.loaded r.elements) := by
    refine (if_pos rfl).trans ?_
    rw [hc₀]
    rfl
  refine .kept c₀ [r.elements] hc₀ hready (by rw [hmembership]; rfl) fun bus earlier h => ?_
  refine ⟨h.live, h.nodup, fun htold => h.owner ⟨htold.notices, htold.requests⟩, ?_⟩
  rw [List.getLast?_concat]
  rfl

/-- Who gives up its bus is not ready any more. -/
theorem disposal_succeeds (hc₀ : w.controllerAt (.machine i) = some c₀)
    (hready : (c₀.dispose w.site.topology).1.state = .ready) (hop : w.membership? i op = none) :
    w.Succeeds i op (c₀.dispose w.site.topology).1 (c₀.dispose w.site.topology).2 := by
  cases hdisposed : c₀.disposed with
  | false =>
    unfold Controller.dispose at hready
    rw [if_neg (ne_true_of_eq_false hdisposed)] at hready
    cases hready
  | true =>
    have hsame : c₀.dispose w.site.topology = (c₀, w.site.topology) := if_pos hdisposed
    rw [hsame] at hready ⊢
    exact .of_same hc₀ hready hop rfl rfl fun _ htold => ⟨htold, fun _ => .rfl⟩

/-- An operation that does nothing to the network leaves a controller its bus. -/
theorem idle_succeeds (hsame : (w.step op).2.network = w.network) (hop : w.membership? i op = none)
    (hc : (w.step op).2.controllerAt (.machine i) = some c) (hready : c.state = .ready) :
    w.Succeeds i op c (w.step op).2.site.topology := by
  change (w.step op).2.network.controllers (.machine i) = some c at hc
  show w.Succeeds i op c (w.step op).2.network.topology
  rw [hsame] at hc ⊢
  exact .of_same hc hready hop rfl rfl fun _ htold => ⟨htold, fun _ => .rfl⟩

/-- A controller that is ready after an operation found its bus just now, or goes on with it. -/
theorem step_succeeds (h : w.network.Enrolled) (hc : (w.step op).2.controllerAt (.machine i) = some c)
    (hready : c.state = .ready) : w.Succeeds i op c (w.step op).2.site.topology := by
  obtain ⟨c₀, hc₀⟩ := controllerAt_of_ready hc hready
  by_cases hop : ∃ mop, op = .machine i mop
  · obtain ⟨mop, rfl⟩ := hop
    cases mop with
    | tick =>
      obtain ⟨rfl, htopology⟩ := of_network_put (network_step_polled rfl hc₀) hc
      rw [htopology]
      exact tick_succeeds h hc₀ hready
    | loadRecord r =>
      have hstep := (w.network_step (.machine i (.loadRecord r))).trans
        (Network.act_restore hc₀ w.site.hardware r.elements)
      obtain ⟨rfl, htopology⟩ := of_network_put hstep hc
      rw [htopology]
      exact loadRecord_succeeds hc₀ hready r
    | scheduleScan =>
      have hstep := (w.network_step (.machine i .scheduleScan)).trans
        (Network.act_control hc₀ w.site.hardware .scheduleScan)
      obtain ⟨rfl, htopology⟩ := of_network_put hstep hc
      rw [htopology]
      exact .of_same hc₀ hready rfl rfl rfl fun _ htold =>
        ⟨⟨htold.notices, htold.requests⟩, fun _ => .rfl⟩
    | suspend | finalize =>
      obtain ⟨rfl, htopology⟩ := of_network_put (network_step_disposed rfl hc₀) hc
      rw [htopology]
      exact disposal_succeeds hc₀ hready rfl
    | _ => exact idle_succeeds (w.network_step _) rfl hc hready
  · have hop (mop : MachineOp) : op ≠ .machine i mop := fun heq => hop ⟨mop, heq⟩
    obtain ⟨hkept, hwarns⟩ := step_elsewhere h hop hc₀
    cases hkept.symm.trans hc
    refine .of_same hc₀ hready (membership?_elsewhere hop) rfl rfl fun hlive htold => ?_
    obtain ⟨hnotice, hrequest, howner⟩ := hwarns hlive htold.notices htold.requests
    exact ⟨⟨hnotice, hrequest⟩, howner⟩

/-! ## Runs -/

theorem memberships_snoc (i : Nat) (ops : List Op) (op : Op) :
    memberships i (ops ++ [op]) = memberships i ops ++ ((empty.run ops).membership? i op).toList :=
  log_snoc _ _ ops op

/-- In every run a controller of a machine that is ready holds the bus that it found last, with what was
loaded since. -/
theorem run_holds (ops : List Op) {i : Nat} {c : Controller}
    (hc : (empty.run ops).controllerAt (.machine i) = some c) (hready : c.state = .ready) :
    ∃ before bus loads, memberships i ops = before ++ .found bus :: loads.map .loaded ∧
      c.Holds (empty.run ops).site.topology bus loads := by
  induction ops using List.reverseRecOn generalizing c with
  | nil => cases hc
  | append_singleton ops op ih =>
    rw [run_snoc] at hc ⊢
    rw [memberships_snoc]
    rcases step_succeeds (run_enrolled ops) hc hready with
      ⟨bus, hop, hholds⟩ | ⟨c₀, loads, hc₀, hready₀, hop, hkept⟩
    · rw [hop]
      exact ⟨memberships i ops, bus, [], rfl, hholds⟩
    · obtain ⟨before, bus, earlier, hlog, hholds⟩ := ih hc₀ hready₀
      refine ⟨before, bus, earlier ++ loads, ?_, hkept bus earlier hholds⟩
      rw [hlog, hop, List.map_append, List.append_assoc, List.cons_append]

/-- After a tick observers know how the bus is. -/
theorem inStep_of_tick {m : Machine} (hm : (w.step (.machine i .tick)).2.machine? i = some m) :
    m.InStep := by
  obtain ⟨station', hs', rfl⟩ := machine?_eq_some hm
  have hs := w.stepMachine_stations i .tick i
  rw [if_pos rfl] at hs
  obtain ⟨station, -, rfl⟩ := Option.map_eq_some_iff.1 (hs.symm.trans hs')
  exact station.machine.tick_inStep station.energy w.site

/-- After a tick that leaves the bus ready, no scan is pending and there is nothing to be told.  The
controller owns what its last completed scan found, and the record of the machine has the elements of
the last record that was taken over since, or those if there was none.  So the record has what is
owned, in the order in which it was visited, exactly if that record, if there was one, had it too. -/
theorem saved_elements_iff {ops : List Op} {i : Nat} {m : Machine}
    (hm : (empty.run (ops ++ [.machine i .tick])).machine? i = some m) (hready : m.busState = .ready) :
    let w := empty.run (ops ++ [.machine i .tick])
    m.controller.Quiescent w.site.topology ∧
      ∃ before bus, ∃ loads : List (List ElementId),
        memberships i (ops ++ [.machine i .tick]) = before ++ .found bus :: loads.map .loaded ∧
        bus.Nodup ∧ (∀ e, w.site.topology.owner? e = some m.controller.id ↔ e ∈ bus) ∧
        (m.saveRecord w.site.hardware).1.elements = loads.getLast?.getD bus ∧
        ((m.saveRecord w.site.hardware).1.elements = bus ↔ ∀ es ∈ loads.getLast?, es = bus) := by
  intro w
  have hstep : ((empty.run ops).step (.machine i .tick)).2 = w := (run_snoc empty ops _).symm
  have hm : w.machine? i = some m := hm
  have hc : w.controllerAt (.machine i) = some m.controller := by
    obtain ⟨station, hs, rfl⟩ := machine?_eq_some hm
    exact controllerAt_machine hs
  have hready : m.controller.state = .ready := by
    rw [← hstep] at hm
    exact (inStep_of_tick hm).busState.symm.trans hready
  have hpolled : m.controller.Told w.site.topology ∧
      (m.controller.state ≠ .scanning → m.controller.scanPending = false) := by
    rw [← hstep] at hc ⊢
    exact (step_polled (show Op.polled? (.machine i .tick) = _ from rfl) hc).2
  obtain ⟨htold, hpending⟩ := hpolled
  obtain ⟨before, bus, loads, hlog, hholds⟩ := run_holds _ hc hready
  have helements : (m.saveRecord w.site.hardware).1.elements = loads.getLast?.getD bus := by
    obtain ⟨devices, hrecord⟩ := m.saveRecord_eq w.site.hardware
    rw [hrecord, ← hholds.members, ← (m.saveRecord_acts w.site.hardware).relays.controller]
    rfl
  refine ⟨⟨htold, hpending (by rw [hready]; decide)⟩, before, bus, loads, hlog, hholds.nodup,
    hholds.owner htold, helements, ?_⟩
  rw [helements]
  cases loads.getLast? with
  | none => simp
  | some es => simp

/-- A record is taken over while the bus is ready.  After a scan that the host asks for, the record of
the machine has what the machine owns. -/
theorem saved_elements_of_scan :
    let loaded : Record := { Record.empty with elements := [⟨7⟩], busState := 1 }
    let ops : List Op := [.topology (.insert ⟨1⟩ [] []), .topology (.insert ⟨2⟩ [] []),
      .topology (.connect ⟨1⟩ none ⟨2⟩ none),
      .newMachine ⟨1⟩ (.demo .new) {} (.queue []) .unmetered,
      .machine 0 .tick, .machine 0 (.loadRecord loaded), .machine 0 .tick, .machine 0 .scheduleScan]
    let w := empty.run (ops ++ [.machine 0 .tick])
    memberships 0 (ops ++ [.machine 0 .tick]) =
        [.found [⟨1⟩, ⟨2⟩], .loaded [⟨7⟩], .found [⟨1⟩, ⟨2⟩]] ∧
      ∃ m, w.machine? 0 = some m ∧ m.busState = .ready ∧ m.controller.Quiescent w.site.topology ∧
        (m.saveRecord w.site.hardware).1.elements = [⟨1⟩, ⟨2⟩] ∧
        ∀ e : ElementId, w.site.topology.owner? e = some m.controller.id ↔ e ∈ [⟨1⟩, ⟨2⟩] := by
  intro loaded ops w
  have hlog : memberships 0 (ops ++ [.machine 0 .tick]) =
      [.found [⟨1⟩, ⟨2⟩], .loaded [⟨7⟩], .found [⟨1⟩, ⟨2⟩]] := by decide +kernel
  have hmachine : ∃ m ∈ w.machine? 0, m.busState = .ready ∧
      (m.saveRecord w.site.hardware).1.elements = [⟨1⟩, ⟨2⟩] := by decide +kernel
  obtain ⟨m, hm, hready, helements⟩ := hmachine
  obtain ⟨hquiescent, before, bus, loads, hbus, -, howner, hsaved, -⟩ := saved_elements_iff hm hready
  rw [show empty.run (ops ++ [.machine 0 .tick]) = w from rfl] at hquiescent howner
  -- nothing was loaded after the last scan
  have hloads : loads = [] := by
    rcases List.eq_nil_or_concat loads with hnil | ⟨earlier, es, rfl⟩
    · exact hnil
    · rw [List.concat_eq_append, List.map_append, ← List.cons_append, ← List.append_assoc] at hbus
      have hlast := congrArg List.getLast? (hlog.symm.trans hbus)
      rw [List.map_singleton, List.getLast?_concat] at hlast
      cases hlast
  have hfound : bus = [⟨1⟩, ⟨2⟩] := by
    rw [← helements, hsaved, hloads]
    rfl
  rw [hfound] at howner
  exact ⟨hlog, m, hm, hready, hquiescent, helements, howner⟩

/-- Without a scan the record of the machine has the elements of the record that was taken over, though
the machine owns another one, and no scan is pending or asked for. -/
theorem record_stands_in_after_tick :
    let loaded : Record := { Record.empty with elements := [⟨7⟩], busState := 1 }
    let w := empty.run [.topology (.insert ⟨1⟩ [] []),
      .newMachine ⟨1⟩ (.demo .new) {} (.queue []) .unmetered,
      .machine 0 .tick, .machine 0 (.loadRecord loaded), .machine 0 .tick]
    ∃ m ∈ w.machine? 0, m.busState = .ready ∧ m.controller.Quiescent w.site.topology ∧
      w.site.topology.owner? ⟨1⟩ = some m.controller.id ∧ w.site.topology.owner? ⟨7⟩ = none ∧
      (m.saveRecord w.site.hardware).1.elements = [⟨7⟩] := by
  decide +kernel

end World

end DeviceBus
