import DeviceBus.Proofs.Coherence

/-!
# What a notice costs

A controller that lost its bus learns of it at its next poll, whatever it did in between.  Only a request
of the topology that came after the loss makes that poll scan (`Controller.Forfeits`).  So a notice that
waits undoes two things that came after it: a scan that the host ran itself, although that took the bus
back, and a scan that the host scheduled.

    a completed scan lasts over the next poll   ↔  no such notice waits         (completed_scan_lasts_iff)
    a scheduled scan runs at the next poll      ↔  no such notice waits           (scheduled_scan_runs_iff)
-/

namespace DeviceBus

namespace Controller

/-- A controller in office has a notice that it lost its bus, and no request to scan after that. -/
def Forfeits (c : Controller) (t : Topology) : Prop :=
  c.disposed = false ∧ c.id ∈ t.invalidations ∧ c.id ∉ t.scanRequests

instance (c : Controller) (t : Topology) : Decidable (c.Forfeits t) := inferInstanceAs (Decidable (_ ∧ _))

/-- A controller is ready as before, and owns what it owned, and so do all others.  It has the same name,
unless it was registered anew. -/
structure Lasts (c : Controller) (t : Topology) (c' : Controller) (t' : Topology) : Prop where
  state : c'.state = .ready
  members : c'.members = c.members
  devices : c'.devices = c.devices
  id : c.disposed = false → c'.id = c.id
  owner : ∀ e, t'.owner? e = some c'.id ↔ t.owner? e = some c.id
  others : ∀ e id, id ≠ c.id → id ≠ c'.id → (t'.owner? e = some id ↔ t.owner? e = some id)

/-- A controller takes note that it lost its bus. -/
structure Loses (c : Controller) (c' : Controller) (t' : Topology) : Prop where
  state : c'.state = .error
  fault : c'.fault = some .invalidated
  scanPending : c'.scanPending = false
  members : c'.members = []
  devices : c'.devices = []
  owner : ∀ e, t'.owner? e ≠ some c.id

variable {c : Controller} {s : Site}

/-! ## Polls with and without a scan -/

/-- A scan that was pending runs unless a notice undoes it. -/
theorem absorb_due_of_pending (ht : s.topology.Numbered) (hpending : c.scanPending = true) :
    (c.absorb s).1.scanPending = true ↔ ¬ c.Forfeits s.topology := by
  rw [absorb_due_iff ht, Forfeits]
  cases c.disposed with
  | true => simp
  | false => simp only [hpending, Bool.false_eq_true, true_and, false_or, not_and, not_not]; tauto

theorem isSome_scanAt? (c : Controller) (s : Site) :
    (c.scanAt? s).isSome = true ↔ (c.absorb s).1.scanPending = true := by
  unfold scanAt?
  split
  · next hdue => exact iff_of_true rfl hdue
  · next hidle => exact iff_of_false (fun h => nomatch h) hidle

/-- A poll that finds such a notice runs no scan. -/
theorem Forfeits.poll (h : c.Forfeits s.topology) : c.Loses (c.poll s).1 (c.poll s).2.topology := by
  obtain ⟨hlive, hlost, hunasked⟩ := h
  obtain ⟨changes, he⟩ := absorb_of_lost hlive hlost
  rw [decide_eq_false hunasked] at he
  rw [poll_eq_absorb, he]
  exact ⟨rfl, rfl, rfl, rfl, rfl, fun e howner => (Topology.owner?_releaseClaims.1 howner).2 rfl⟩

/-- The poll of a controller with a scan pending finds the bus lost only if it finds such a notice. -/
theorem poll_fault_iff (ht : s.topology.Numbered) (hpending : c.scanPending = true) :
    (c.poll s).1.fault = some .invalidated ↔ c.Forfeits s.topology := by
  constructor
  · intro hfault
    by_contra hkeeps
    rw [poll_of_due ((absorb_due_of_pending ht hpending).2 hkeeps)] at hfault
    exact scan_fault _ _ hfault
  · exact fun h => h.poll.fault

/-! ## Polls after a completed scan -/

/-- A scan that finds elements and devices takes them over. -/
theorem scan_of_found {visits : List Query} {devices : List BusDevice}
    (hwalk : Scan.walk s.topology c.root c.maxElements = .ok visits)
    (hdevices : (Scan.enumerate s.topology s.hardware visits).1 = .ok devices) :
    ∃ changes hardware, c.scan s = ({ c with
        changes
        members := visits.map Query.element
        devices
        scanPending := false
        state := .ready
        fault := none }, ⟨s.topology.claim c.id (visits.map Query.element), hardware⟩) := by
  obtain ⟨hready, hsame⟩ := scan_finds hwalk hdevices
  rcases c.scan_cases s with he | ⟨_, _, _, he⟩ | ⟨visits', devices', changes, hardware, hwalk', -, he⟩
  · rw [he] at hready
    cases hready
  · rw [he] at hready
    cases hready
  · cases hwalk.symm.trans hwalk'
    rw [he] at hsame
    cases hsame
    exact ⟨changes, hardware, he⟩

theorem absorb_id_of_live (hlive : c.disposed = false) : (c.absorb s).1.id = c.id := by
  rw [absorb_id_eq, revive_of_live hlive]

/-- Nobody else owns what a controller owns, so nobody loses it when the controller claims it again, if
need be under a new name. -/
theorem absorb_rivals (hregistered : s.topology.isRegistered c.id = !c.disposed) {es : List ElementId}
    (howner : ∀ e ∈ es, s.topology.owner? e = some c.id) :
    (c.absorb s).2.topology.rivals (c.absorb s).1.id es = [] := by
  refine List.eq_nil_iff_forall_not_mem.2 fun id hid => ?_
  obtain ⟨hne, hrival, e, he, hid⟩ := Topology.mem_rivals.1 hid
  cases (howner e he).symm.trans (((c.absorb_hears s).owner id hne e).1 hid)
  rw [(c.absorb_yields s).registered c.id hne, hregistered] at hrival
  cases hdisposed : c.disposed with
  | false => exact hne (absorb_id_of_live hdisposed).symm
  | true =>
    rw [hdisposed] at hrival
    cases hrival

/-- A poll that scans finds again what the controller has. -/
theorem poll_lasts_of_due (hregistered : s.topology.isRegistered c.id = !c.disposed)
    (howner : ∀ e, s.topology.owner? e = some c.id ↔ e ∈ c.members)
    (hsees : c.Sees s.topology s.hardware) (hdue : (c.absorb s).1.scanPending = true) :
    c.Lasts s.topology (c.poll s).1 (c.poll s).2.topology := by
  obtain ⟨visits, hwalk, hmembers, hdevices⟩ := hsees
  have hhears := c.absorb_hears s
  have hrivals := absorb_rivals hregistered fun e he => (howner e).2 he
  have hname (hlive : c.disposed = false) : (c.absorb s).1.id = c.id := absorb_id_of_live hlive
  rw [poll_of_due hdue]
  clear hdue
  generalize c.absorb s = p at *
  obtain ⟨c₁, s₁⟩ := p
  have hwalk₁ : Scan.walk s₁.topology c₁.root c₁.maxElements = .ok visits := by
    rw [hhears.root, hhears.maxElements, Scan.walk_looks hhears.looks, hwalk]
  have hdevices₁ : (Scan.enumerate s₁.topology s₁.hardware visits).1 = .ok c.devices := by
    rw [hhears.hardware, Scan.enumerate_looks hhears.looks, hdevices]
  obtain ⟨changes, hardware, he⟩ := scan_of_found hwalk₁ hdevices₁
  have hclaims := s₁.topology.claim_claims c₁.id c.members
  rw [he, hmembers]
  refine ⟨rfl, rfl, rfl, hname, fun e => ?_, fun e id hne hne₁ => ?_⟩
  · exact (Topology.owner?_claim _ _ _ e).trans (howner e).symm
  · rw [hclaims.owner, hrivals, ← hhears.owner id hne₁ e]
    split
    · next hmem =>
      refine iff_of_false hne₁.symm fun hid => hne ?_
      exact Option.some.inj (((hhears.owner id hne₁ e).1 hid).symm.trans ((howner e).2 hmem))
    · exact ⟨fun h => h.1, fun h => ⟨h, hne₁, List.not_mem_nil⟩⟩

/-- A poll that has nothing to tell and runs no scan changes nothing. -/
theorem poll_lasts_of_idle (hready : c.state = .ready) (hlive : c.disposed = false)
    (htold : c.id ∉ s.topology.invalidations) (hidle : ¬ c.Asked s.topology) :
    c.Lasts s.topology (c.poll s).1 (c.poll s).2.topology := by
  rw [poll_of_told hlive htold, if_neg hidle]
  exact ⟨hready, rfl, rfl, fun _ => rfl, fun _ => .rfl, fun _ _ _ _ => .rfl⟩

/-- What a controller has that owns and sees just that lasts over its next poll, unless a notice undoes
it. -/
theorem poll_lasts_iff (ht : s.topology.Numbered)
    (hregistered : s.topology.isRegistered c.id = !c.disposed) (hready : c.state = .ready)
    (howner : ∀ e, s.topology.owner? e = some c.id ↔ e ∈ c.members)
    (hsees : c.Sees s.topology s.hardware) :
    c.Lasts s.topology (c.poll s).1 (c.poll s).2.topology ↔ ¬ c.Forfeits s.topology := by
  constructor
  · intro hlasts hforfeits
    cases hforfeits.poll.state.symm.trans hlasts.state
  · intro hkeeps
    by_cases hdue : (c.absorb s).1.scanPending = true
    · exact poll_lasts_of_due hregistered howner hsees hdue
    · obtain ⟨hlive, hrequest, hlost⟩ := of_absorb_idle ht hdue
      have htold : c.id ∉ s.topology.invalidations := fun hlost => hkeeps ⟨hlive, hlost, hrequest⟩
      exact poll_lasts_of_idle hready hlive htold (not_or.2 ⟨fun h => htold (hlost h), hrequest⟩)

end Controller

/-! ## Runs -/

/-- The seat that an operation schedules a scan for. -/
def Op.scheduled? : Op → Option Seat
  | .controller i .scheduleScan => some (.host i)
  | .machine i .scheduleScan => some (.machine i)
  | _ => none

namespace World

variable {w : World} {op : Op} {ops : List Op} {seat : Seat} {c : Controller}

theorem site_step_scanned (hop : op.scanned? = some seat) (hc : w.controllerAt seat = some c) :
    (w.step op).2.site = (c.scan w.site).2 := by
  cases op with
  | controller i cop =>
    cases cop with
    | scan =>
      cases hop
      have hc : w.controllers[i]? = some c := hc
      show (w.stepController i .scan).2.site = _
      unfold stepController
      rw [hc]
      rfl
    | _ => cases hop
  | _ => cases hop

/-- After a completed scan a controller owns exactly its members, and has what a scan would find. -/
theorem step_scanned_sees (hop : op.scanned? = some seat)
    (hc : (w.step op).2.controllerAt seat = some c) (hready : c.state = .ready) :
    (∀ e, (w.step op).2.site.topology.owner? e = some c.id ↔ e ∈ c.members) ∧
      c.Sees (w.step op).2.site.topology (w.step op).2.site.hardware := by
  cases hseat : w.controllerAt seat with
  | none =>
    rcases step_joins hseat op with hnone | ⟨root, config, hnew⟩
    · cases hnone.symm.trans hc
    · cases hnew.symm.trans hc
      cases hready
  | some c₀ =>
    cases (controllerAt_step_scanned hop hseat).symm.trans hc
    rw [site_step_scanned hop hseat]
    obtain ⟨howner, hsees⟩ := Controller.scan_sees hready
    exact ⟨howner, hsees.extents
      (Topology.stocks_of_forall (Hardware.KeepsExtents.of_devices (c₀.scan_asks w.site).devices) _)⟩

/-- The next poll leaves a controller that a poll or a scan made ready as it is, exactly if no notice
waits that it lost its bus before.  After a poll none does; after a scan of the host one may, and then
the bus that was just found is lost, although nobody took anything of it. -/
theorem completed_scan_lasts_iff (ops : List Op) {op : Op} {seat : Seat} {c : Controller}
    (hop : op.polled? = some seat ∨ op.scanned? = some seat)
    (hc : (empty.run (ops ++ [op])).controllerAt seat = some c) (hready : c.state = .ready) :
    let s := (empty.run (ops ++ [op])).site
    (c.Lasts s.topology (c.poll s).1 (c.poll s).2.topology ↔ ¬ c.Forfeits s.topology) ∧
      (op.polled? = some seat → ¬ c.Forfeits s.topology) ∧
      (c.Forfeits s.topology → c.Loses (c.poll s).1 (c.poll s).2.topology) := by
  intro s
  have hrun : empty.run (ops ++ [op]) = ((empty.run ops).step op).2 := run_snoc ..
  have hpolled (h : op.polled? = some seat) :
      c.disposed = false ∧ c.Told s.topology ∧ c.scanPending = false := by
    obtain ⟨hlive, htold, hpending⟩ := step_polled h (hrun ▸ hc)
    rw [← hrun] at htold
    refine ⟨hlive, htold, hpending fun hscanning => ?_⟩
    cases hready.symm.trans hscanning
  have hkeeps (h : op.polled? = some seat) : ¬ c.Forfeits s.topology :=
    fun hforfeits => (hpolled h).2.1.notices hforfeits.2.1
  refine ⟨?_, hkeeps, Controller.Forfeits.poll⟩
  by_cases h : op.polled? = some seat
  · obtain ⟨hlive, htold, hidle⟩ := hpolled h
    refine iff_of_true (Controller.poll_lasts_of_idle hready hlive htold.notices ?_) (hkeeps h)
    exact not_or.2 ⟨ne_true_of_eq_false hidle, htold.requests⟩
  · have henrolled := run_enrolled (ops ++ [op])
    obtain ⟨howner, hsees⟩ := step_scanned_sees (hop.resolve_left h) (hrun ▸ hc) hready
    rw [← hrun] at howner hsees
    exact Controller.poll_lasts_iff henrolled.numbered (henrolled.controllers seat c hc).isRegistered hready
      howner hsees

/-- The first of two controllers loses its bus to the second, has a request of the topology after that,
and takes the bus back by a scan: its next poll scans once more, and leaves it the bus. -/
theorem reclaimed_bus_lasts :
    let ops : List Op := [.topology (.insert ⟨1⟩ [] []), .newController ⟨1⟩ {}, .controller 0 .poll,
      .newController ⟨1⟩ {}, .controller 1 .poll, .topology (.markDirty ⟨1⟩)]
    let w := empty.run (ops ++ [.controller 0 .scan])
    let c : Controller := {
      id := ⟨1⟩, root := ⟨1⟩, state := .ready, fault := none, scanPending := false
      disposed := false, members := [⟨1⟩], devices := [], changes := none, baseDraw := 20
      maxElements := 512 }
    w.controllerAt (.host 0) = some c ∧ c.id ∈ w.site.topology.invalidations ∧
      c.Lasts w.site.topology (c.poll w.site).1 (c.poll w.site).2.topology := by
  intro ops w c
  have hc : w.controllerAt (.host 0) = some c := by decide
  exact ⟨hc, by decide, (completed_scan_lasts_iff ops (.inr rfl) hc rfl).1.2 (by decide)⟩

/-- The same without the request: the scan takes the bus back, nothing happens after it, and the next
poll finds the bus lost. -/
theorem reclaimed_bus_is_lost :
    let ops : List Op := [.topology (.insert ⟨1⟩ [] []), .newController ⟨1⟩ {}, .controller 0 .poll,
      .newController ⟨1⟩ {}, .controller 1 .poll]
    let w := empty.run (ops ++ [.controller 0 .scan])
    ∃ c, w.controllerAt (.host 0) = some c ∧ c.state = .ready ∧ c.members = [⟨1⟩] ∧
      w.site.topology.owner? ⟨1⟩ = some c.id ∧ (c.poll w.site).1.state = .error ∧
      (c.poll w.site).1.members = [] ∧ (c.poll w.site).2.topology.owner? ⟨1⟩ = none := by
  intro ops w
  exact ⟨{
    id := ⟨1⟩, root := ⟨1⟩, state := .ready, fault := none, scanPending := false
    disposed := false, members := [⟨1⟩], devices := [], changes := none, baseDraw := 20
    maxElements := 512 }, by decide, rfl, rfl, by decide, by decide, by decide, by decide⟩

/-- What only polls and scans of the controller itself take away. -/
theorem run_scanPending (hops : ∀ o ∈ ops, o.polled? ≠ some seat ∧ o.scanned? ≠ some seat)
    (h : ∀ c, w.controllerAt seat = some c → c.scanPending = true) :
    ∀ c, (w.run ops).controllerAt seat = some c → c.scanPending = true := by
  induction ops generalizing w with
  | nil => exact h
  | cons op ops ih =>
    refine ih (fun o ho => hops o (List.mem_cons_of_mem _ ho)) fun d hd => ?_
    obtain ⟨hpoll, hscan⟩ := hops op List.mem_cons_self
    cases hseat : w.controllerAt seat with
    | none =>
      rcases step_joins hseat op with hnone | ⟨root, config, hnew⟩
      · cases hnone.symm.trans hd
      · cases hnew.symm.trans hd
        rfl
    | some c =>
      have hpending := h c hseat
      obtain ⟨c', hc', hfate⟩ := step_seat hseat op
      cases hc'.symm.trans hd
      rcases hfate with ⟨hop, -⟩ | ⟨hop, -⟩ | ⟨-, rfl⟩ | ⟨-, hcarried, -⟩
      · exact absurd hop hpoll
      · exact absurd hop hscan
      · unfold Controller.dispose
        split <;> exact hpending
      · exact hcarried.scanPending hpending

theorem step_scheduled (hop : op.scheduled? = some seat)
    (hc : (w.step op).2.controllerAt seat = some c) : c.scanPending = true := by
  have hactions : w.actions op = [.control seat .scheduleScan] := by
    cases op with
    | controller i cop =>
      cases cop with
      | scheduleScan =>
        cases hop
        rfl
      | _ => cases hop
    | machine i mop =>
      cases mop with
      | scheduleScan =>
        cases hop
        rfl
      | _ => cases hop
    | _ => cases hop
  cases hseat : w.controllerAt seat with
  | none =>
    rcases step_joins hseat op with hnone | ⟨root, config, hnew⟩
    · cases hnone.symm.trans hc
    · cases hnew.symm.trans hc
      rfl
  | some c₀ =>
    change (w.step op).2.network.controllers seat = some c at hc
    rw [network_step, hactions, List.foldl_cons, List.foldl_nil, Network.act_control hseat,
      Network.put_controllers, if_pos rfl] at hc
    cases hc
    rfl

/-- A scan that was scheduled for a controller runs at its next poll, whatever others and the topology
did in between, exactly if no notice waits that it lost its bus.  If one does, the poll forgets the
scan. -/
theorem scheduled_scan_runs_iff {pre post : List Op} {op : Op} {seat : Seat} {c : Controller}
    (hop : op.scheduled? = some seat)
    (hpost : ∀ o ∈ post, o.polled? ≠ some seat ∧ o.scanned? ≠ some seat)
    (hc : (empty.run (pre ++ op :: post)).controllerAt seat = some c) :
    let s := (empty.run (pre ++ op :: post)).site
    ((c.scanAt? s).isSome = true ↔ ¬ c.Forfeits s.topology) ∧
      ((c.poll s).1.fault = some .invalidated ↔ c.Forfeits s.topology) ∧
      (c.Forfeits s.topology → c.Loses (c.poll s).1 (c.poll s).2.topology) := by
  intro s
  have hpending : c.scanPending = true := by
    rw [run_append] at hc
    exact run_scanPending hpost (fun _ => step_scheduled hop) c hc
  have ht : s.topology.Numbered := (run_enrolled (pre ++ op :: post)).numbered
  refine ⟨?_, Controller.poll_fault_iff ht hpending, Controller.Forfeits.poll⟩
  rw [Controller.isSome_scanAt?, Controller.absorb_due_of_pending ht hpending]

/-- A controller with a scan scheduled loses its bus, and has a request of the topology after that. -/
theorem scheduled_scan_runs_on_request :
    let pre : List Op := [.topology (.insert ⟨1⟩ [] []), .newController ⟨1⟩ {}, .controller 0 .poll,
      .newController ⟨1⟩ {}]
    let post : List Op := [.controller 1 .poll, .topology (.markDirty ⟨1⟩)]
    let w := empty.run (pre ++ .controller 0 .scheduleScan :: post)
    let c : Controller := {
      id := ⟨1⟩, root := ⟨1⟩, state := .ready, fault := none, scanPending := true
      disposed := false, members := [⟨1⟩], devices := [], changes := none, baseDraw := 20
      maxElements := 512 }
    w.controllerAt (.host 0) = some c ∧ c.id ∈ w.site.topology.invalidations ∧
      (c.scanAt? w.site).isSome = true := by
  intro pre post w c
  have hc : w.controllerAt (.host 0) = some c := by decide
  exact ⟨hc, by decide, (scheduled_scan_runs_iff rfl (by decide) hc).1.2 (by decide)⟩

/-- The same without the request: the poll runs no scan, and the one that was scheduled is forgotten. -/
theorem scheduled_scan_is_forgotten :
    let pre : List Op := [.topology (.insert ⟨1⟩ [] []), .newController ⟨1⟩ {}, .controller 0 .poll,
      .newController ⟨1⟩ {}]
    let w := empty.run (pre ++ [.controller 0 .scheduleScan, .controller 1 .poll])
    ∃ c, w.controllerAt (.host 0) = some c ∧ c.scanPending = true ∧ c.scanAt? w.site = none ∧
      (c.poll w.site).1.fault = some .invalidated ∧ (c.poll w.site).1.scanPending = false ∧
      (c.scan w.site).1.state = .ready := by
  intro pre w
  exact ⟨{
    id := ⟨1⟩, root := ⟨1⟩, state := .ready, fault := none, scanPending := true
    disposed := false, members := [⟨1⟩], devices := [], changes := none, baseDraw := 20
    maxElements := 512 }, by decide, rfl, by decide, by decide, by decide, by decide⟩

end World

end DeviceBus
