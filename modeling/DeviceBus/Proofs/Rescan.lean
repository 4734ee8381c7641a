import DeviceBus.Proofs.Freshness
import DeviceBus.Proofs.Ownership
import Mathlib.Data.List.Infix

/-!
# Scanning again

As long as no edge leads to an unknown element and the devices keep their sizes and draws, a controller
that is ready after a poll has what a scan would find now: its members are those of a walk from its
root, and its devices are listed with the elements, addresses and draws that a listing gives
(`World.poll_fresh`).  A further scan leaves its bus and all claims as they are and records no changes.
-/

namespace DeviceBus

/-! ## Networks -/

/-- All controllers are fresh, and no two share a name. -/
structure Network.Fresh (n : Network) (hw : Hardware) : Prop where
  distinct : n.Distinct
  controllers : ∀ seat c, n.controllers seat = some c → c.Fresh n.topology hw

namespace Network

variable {n : Network} {hw : Hardware}

/-- A controller takes a seat under a name that is new or was its own before. -/
theorem Fresh.put (h : n.Fresh hw) {seat : Seat} {c : Controller} {t : Topology} (hc : c.Fresh t hw)
    (hyields : n.topology.Yields c.id t)
    (hname : n.topology.lastSerial < c.id.serial ∨ ∃ c₀, n.controllers seat = some c₀ ∧ c.id = c₀.id) :
    (n.put seat c t).Fresh hw := by
  have happart := h.distinct.apart (fun s d hd => (h.controllers s d hd).serial) hname
  refine ⟨h.distinct.put happart t, ?_⟩
  intro s d hd
  rw [put_controllers] at hd
  split at hd
  · cases hd
    exact hc
  · next hs => exact (h.controllers s d hd).yields hyields (happart s d hd hs)

theorem Fresh.act (h : n.Fresh hw) {a : Action} (hedges : ∀ op, a = .topology op → n.topology.EdgesKnown)
    (ha : ∀ seat es, a ≠ .restore seat es) : (n.act hw a).Fresh hw := by
  cases a with
  | topology op =>
    exact ⟨h.distinct, fun seat c hc => (h.controllers seat c hc).topology_step (hedges op rfl) op⟩
  | restore seat members => exact absurd rfl (ha seat members)
  | join seat root config =>
    cases hseat : n.controllers seat with
    | some c => simpa only [Network.act, hseat] using h
    | none =>
      rw [act_join hseat]
      exact h.put (Controller.new_fresh n.topology root config) (n.topology.register_yields root)
        (.inl (Nat.lt_succ_self _))
  | control seat op =>
    cases hc : n.controllers seat with
    | none => simpa only [Network.act, hc] using h
    | some c =>
      have hfresh := h.controllers seat c hc
      rw [act_control hc]
      cases op with
      | poll =>
        have hpolled := Controller.poll_polled (s := ⟨n.topology, hw⟩) hfresh
        exact h.put hpolled.toFresh (c.poll_yields ⟨n.topology, hw⟩)
          ((c.poll_named ⟨n.topology, hw⟩).symm.imp_right fun hid => ⟨c, hc, hid⟩)
      | scan =>
        have hid := c.scan_id ⟨n.topology, hw⟩
        have hyields := c.scan_yields ⟨n.topology, hw⟩
        rw [← hid] at hyields
        exact h.put (Controller.scan_fresh (s := ⟨n.topology, hw⟩) hfresh.registered hfresh.serial)
          hyields (.inr ⟨c, hc, hid⟩)
      | dispose =>
        have hid := c.dispose_id n.topology
        have hyields := Controller.dispose_yields hfresh.registered
        rw [← hid] at hyields
        exact h.put (Controller.dispose_fresh hfresh) hyields (.inr ⟨c, hc, hid⟩)
      | scheduleScan =>
        exact h.put (c := c.scheduleScan) ⟨hfresh.registered, hfresh.serial, hfresh.current⟩
          (.refl _ _) (.inr ⟨c, hc, rfl⟩)
      | takeChanges =>
        exact h.put (c := c.takeChanges.2) ⟨hfresh.registered, hfresh.serial, hfresh.current⟩
          (.refl _ _) (.inr ⟨c, hc, rfl⟩)

end Network

/-! ## Runs -/

namespace World

open Network (Action)

variable {w : World} {op : Op} {ops : List Op}

/-- The devices on the topology after an operation have the sizes and draws that they had before. -/
def KeepsExtents (w : World) (op : Op) : Prop :=
  (w.step op).2.site.topology.Stocks (Scan.SameExtent w.site.hardware (w.step op).2.site.hardware)

/-- Only a record that is taken over stands in for members. -/
theorem restore_notMem_actions (h : op.loadsRecord = false) {seat : Seat} {es : List ElementId} :
    .restore seat es ∉ w.actions op := by
  cases op with
  | machine i mop =>
    cases mop with
    | loadRecord r => cases h
    | _ => simp [actions, MachineOp.actions]
  | _ => simp [actions]

theorem step_fresh (h : w.network.Fresh w.site.hardware) (hop : op.loadsRecord = false)
    (hedges : w.site.topology.EdgesKnown) (hextents : w.KeepsExtents op) :
    (w.step op).2.network.Fresh (w.step op).2.site.hardware := by
  have hfresh : (w.step op).2.network.Fresh w.site.hardware := by
    by_cases htopology : ∃ top, op = .topology top
    · obtain ⟨top, rfl⟩ := htopology
      exact h.act (a := .topology top) (fun _ _ => hedges) (fun _ _ heq => nomatch heq)
    -- no other operation acts on the elements
    · refine w.step_induction (I := fun n => n.Fresh w.site.hardware)
        (fun n a ha hn => hn.act (fun top heq => ?_) (fun seat es heq => ?_)) h
      · subst heq
        exact absurd ⟨top, eq_of_topology_mem_actions ha⟩ htopology
      · subst heq
        exact restore_notMem_actions hop ha
  exact ⟨hfresh.distinct, fun seat c hc => (hfresh.controllers seat c hc).extents hextents⟩

/-- What is assumed of a run: no record stands in for members, no edge ever leads to an unknown
element, and the devices keep their sizes and draws. -/
structure Undisturbed (ops : List Op) : Prop where
  records : ∀ op ∈ ops, op.loadsRecord = false
  edges : ∀ pre, pre <+: ops → (empty.run pre).site.topology.EdgesKnown
  extents : ∀ pre op, pre ++ [op] <+: ops → (empty.run pre).KeepsExtents op

theorem Undisturbed.of_append {ops' : List Op} (h : Undisturbed (ops ++ ops')) : Undisturbed ops :=
  ⟨fun op hop => h.records op (List.mem_append_left _ hop),
    fun pre hpre => h.edges pre (hpre.trans (List.prefix_append ops ops')),
    fun pre op hpre => h.extents pre op (hpre.trans (List.prefix_append ops ops'))⟩

theorem run_fresh (h : Undisturbed ops) : (empty.run ops).network.Fresh (empty.run ops).site.hardware := by
  induction ops using List.reverseRecOn with
  | nil =>
    refine ⟨?_, ?_⟩
    · intro seat seat' c c' hc
      cases seat <;> cases hc
    · intro seat c hc
      cases seat <;> cases hc
  | append_singleton ops op ih =>
    rw [run_snoc]
    exact step_fresh (ih h.of_append) (h.records op (List.mem_append_right _ (List.mem_singleton_self op)))
      (h.edges ops (List.prefix_append ops [op])) (h.extents ops op (List.prefix_refl _))

end World

/-! ## Scanning again -/

/-- Who claims what it owns already changes no claim. -/
theorem Topology.claims_claim {t : Topology} {id : ControllerId} {es : List ElementId}
    (h : ∀ e, t.owner? e = some id ↔ e ∈ es) : (t.claim id es).claims = t.claims := by
  have hclaims := t.claim_claims id es
  have hrivals (id' : ControllerId) : id' ∉ t.rivals id es := by
    intro hmem
    obtain ⟨hne, -, e, he, howner⟩ := mem_rivals.1 hmem
    exact hne (Option.some.inj (howner.symm.trans ((h e).2 he)))
  refine Table.ext_get? fun e => Option.ext fun id' => ?_
  refine (hclaims.owner e id').trans ?_
  show _ ↔ t.owner? e = some id'
  split
  · next hmem => rw [(h e).2 hmem, Option.some_inj]
  · next hmem =>
    refine ⟨And.left, fun howner => ⟨howner, ?_, hrivals id'⟩⟩
    rintro rfl
    exact hmem ((h e).1 howner)

namespace Controller

variable {c : Controller} {s : Site}

/-- Nothing is recorded for a list of devices that is the same. -/
theorem adopt_same (h : (c.devices.map BusDevice.id).Nodup) (members : List ElementId) :
    c.adopt members c.devices = { c with members, scanPending := false, state := .ready } := by
  have hrecord : c.recordChanges c.devices = c := by
    unfold recordChanges
    dsimp only
    rw [if_pos (DeviceChanges.between_self h)]
  unfold adopt
  rw [hrecord]

/-- A scan that finds what the controller has leaves the controller as it is, and all claims. -/
theorem scan_of_sees (h : c.Sees s.topology s.hardware)
    (howner : ∀ e, s.topology.owner? e = some c.id ↔ e ∈ c.members) :
    (c.scan s).1 = { c with state := .ready, fault := none, scanPending := false } ∧
      (c.scan s).2.topology.claims = s.topology.claims := by
  obtain ⟨visits, hwalk, hmembers, hdevices⟩ := h
  have hnodup := (Scan.enumerate_sound (s.topology.stocks_of_forall fun _ => trivial) hdevices).1
  have hadopt := adopt_same (c := { c with state := .scanning, fault := none, scanPending := true }) hnodup
  unfold scan
  dsimp only
  rw [hwalk]
  dsimp only
  generalize Scan.enumerate s.topology s.hardware visits = found at hdevices
  obtain ⟨result, hardware⟩ := found
  dsimp only at hdevices ⊢
  rw [hdevices]
  refine ⟨?_, ?_⟩
  · exact (hadopt _).trans (by rw [hmembers])
  · show (s.topology.claim c.id (visits.map Query.element)).claims = _
    rw [hmembers, Topology.claims_claim howner]

/-- What is left to take note of before a scan that was scheduled. -/
theorem poll_scheduleScan (hlive : c.disposed = false) (htold : c.id ∉ s.topology.invalidations) :
    c.scheduleScan.poll s = c.scheduleScan.scan { s with
      topology := ((s.topology.takeInvalidation c.id).2.takeScanRequest c.id).2 } := by
  rw [poll_eq, revive_of_live (c := c.scheduleScan) hlive]
  unfold pollRegistered
  rcases c.scheduleScan.absorbInvalidation_cases s with ⟨hmem, -⟩ | ⟨-, he⟩
  · exact absurd hmem htold
  · rw [he]
    dsimp only
    generalize hs : ({ s with topology := (s.topology.takeInvalidation c.scheduleScan.id).2 } : Site) = s₁
    rcases c.scheduleScan.absorbScanRequest_cases s₁ with ⟨-, he⟩ | ⟨-, he⟩
    · rw [he, ← hs]
      rfl
    · rw [he, ← hs]
      rfl

/-- A scheduled scan leaves a polled controller that is ready as it is, and all claims. -/
theorem Polled.scan_again (h : c.Polled s.topology s.hardware) (hready : c.state = .ready) :
    (c.scheduleScan.poll s).1 = { c with fault := none, scanPending := false } ∧
      (c.scheduleScan.poll s).2.topology.claims = s.topology.claims := by
  obtain ⟨howner, hsees⟩ := h.current h.live hready h.told h.asked
  rw [poll_scheduleScan h.live h.told]
  have hlooks : s.topology.Looks ((s.topology.takeInvalidation c.id).2.takeScanRequest c.id).2 :=
    .of_elements rfl rfl rfl
  have hscan := scan_of_sees (c := c.scheduleScan) (s := { s with
    topology := ((s.topology.takeInvalidation c.id).2.takeScanRequest c.id).2 })
    (hsees.looks hlooks) howner
  refine ⟨hscan.1.trans ?_, hscan.2⟩
  show { c with state := .ready, fault := none, scanPending := false } = _
  rw [← hready]

end Controller

/-! ## The law -/

/-- What a ready controller has is what a scan finds, and one more scan changes nothing. -/
structure Controller.FreshnessLaw (c : Controller) (s : Site) : Prop where
  /-- A walk from the root finds the members, and a listing of their devices gives the devices of the
  bus, with their elements, addresses and draws. -/
  found : ∃ visits, Scan.walk s.topology c.root c.maxElements = .ok visits ∧
    visits.map Query.element = c.members ∧ (Scan.enumerate s.topology s.hardware visits).1 = .ok c.devices
  state : (c.scheduleScan.poll s).1.state = .ready
  members : (c.scheduleScan.poll s).1.members = c.members
  devices : (c.scheduleScan.poll s).1.devices = c.devices
  changes : (c.scheduleScan.poll s).1.changes = c.changes
  claims : (c.scheduleScan.poll s).2.topology.claims = s.topology.claims

/-- Whether an operation is one on the topology or on a controller of the host. -/
def Op.concernsBus : Op → Bool
  | .topology _ => true
  | .newController .. => true
  | .controller .. => true
  | _ => false

namespace World

variable {ops : List Op}

/-- Operations on the topology and on controllers change no device. -/
theorem keepsExtents_of_concernsBus (w : World) {op : Op} (h : op.concernsBus = true) :
    w.KeepsExtents op := by
  have hdevices : (w.step op).2.site.hardware.devices = w.site.hardware.devices := by
    cases op with
    | topology top => rfl
    | newController root config => rfl
    | controller i cop =>
      show (w.stepController i cop).2.site.hardware.devices = _
      unfold stepController
      split
      · rfl
      · next c _ =>
        cases cop with
        | poll => exact (c.poll_asks w.site).devices
        | scan => exact (c.scan_asks w.site).devices
        | _ => rfl
    | _ => cases h
  refine Topology.stocks_of_forall (fun d => ?_) _
  unfold Scan.SameExtent Hardware.device
  rw [hdevices]
  exact ⟨rfl, rfl⟩

/-- A controller that is ready after a poll has what a scan finds. -/
theorem poll_fresh (h : Undisturbed ops) {seat : Seat} {c : Controller}
    (hc : (empty.run ops).controllerAt seat = some c)
    (hready : (c.poll (empty.run ops).site).1.state = .ready) :
    (c.poll (empty.run ops).site).1.FreshnessLaw (c.poll (empty.run ops).site).2 := by
  have hpolled := Controller.poll_polled ((run_fresh h).controllers seat c hc)
  have hdevices := (c.poll_asks (empty.run ops).site).devices
  generalize (empty.run ops).site = s at *
  generalize c.poll s = p at *
  obtain ⟨c₁, s₁⟩ := p
  dsimp only at *
  have hextents : s₁.topology.Stocks (Scan.SameExtent s.hardware s₁.hardware) := by
    refine Topology.stocks_of_forall (fun d => ?_) _
    unfold Scan.SameExtent Hardware.device
    rw [hdevices]
    exact ⟨rfl, rfl⟩
  have hpolled : c₁.Polled s₁.topology s₁.hardware :=
    ⟨hpolled.toFresh.extents hextents, hpolled.live, hpolled.told, hpolled.asked⟩
  obtain ⟨hagain, hclaims⟩ := hpolled.scan_again hready
  have hfound := (hpolled.current hpolled.live hready hpolled.told hpolled.asked).2
  refine ⟨hfound, ?_, ?_, ?_, ?_, hclaims⟩ <;> rw [hagain]
  exact hready

/-- A memory joins the bus of a ready controller, which finds it at its next poll. -/
theorem poll_finds_memory :
    let ops : List Op := [.build (.ram (.new ⟨10⟩ 16 3)), .topology (.insert ⟨1⟩ [] []),
      .topology (.insert ⟨2⟩ [] []), .topology (.connect ⟨1⟩ (some .east) ⟨2⟩ (some .west)),
      .newController ⟨1⟩ {}, .controller 0 .poll, .topology (.addDevice ⟨2⟩ ⟨⟨0⟩, ⟨10⟩⟩)]
    let c : Controller := {
      id := ⟨1⟩, root := ⟨1⟩, state := .ready, fault := none, scanPending := false, disposed := false
      members := [⟨1⟩, ⟨2⟩], devices := [], changes := none, baseDraw := 20, maxElements := 512 }
    Undisturbed ops ∧ (empty.run ops).controllerAt (.host 0) = some c ∧
      (c.poll (empty.run ops).site).1.state = .ready ∧
      (c.poll (empty.run ops).site).1.members = [⟨1⟩, ⟨2⟩] ∧
      (c.poll (empty.run ops).site).1.devices = [⟨⟨⟨0⟩, ⟨10⟩⟩, ⟨2⟩, some 0, 3⟩] ∧
      (c.poll (empty.run ops).site).1.FreshnessLaw (c.poll (empty.run ops).site).2 := by
  intro ops c
  have hundisturbed : Undisturbed ops := by
    refine ⟨by decide, ?_, ?_⟩
    · have hall : ∀ pre ∈ ops.inits, (empty.run pre).site.topology.EdgesKnown := by decide
      intro pre hpre
      exact hall pre ((List.mem_inits pre ops).2 hpre)
    · rintro (_ | ⟨first, pre⟩) op hpre
      · cases (List.cons_prefix_cons.1 hpre).1
        exact Topology.stocks_empty _
      · have hmem := (List.cons_prefix_cons.1 hpre).2.subset
          (List.mem_append_right pre (List.mem_singleton_self op))
        have hbus : ∀ op ∈ ops.tail, op.concernsBus = true := by decide
        exact keepsExtents_of_concernsBus _ (hbus op hmem)
  have hc : (empty.run ops).controllerAt (.host 0) = some c := by decide
  have hready : (c.poll (empty.run ops).site).1.state = .ready := by decide
  exact ⟨hundisturbed, hc, hready, by decide, by decide, poll_fresh hundisturbed hc hready⟩

end World

end DeviceBus
