import DeviceBus.Proofs.Tenure
import DeviceBus.Proofs.Topology.Locality

/-!
# Fresh controllers

A ready controller that has nothing to be told owns exactly its members, and a walk from its root and
a listing of the devices find what it has (`Controller.Current`).  An operation on the topology keeps
this, as long as no edge leads to an unknown element, because whoever owns an element that looks
different is asked to scan (`Controller.Fresh.topology_step`).  What one controller does keeps it for
the others, which keep their buses or lose them with a notice (`Controller.Fresh.yields`), and a poll
brings it about (`Controller.poll_polled`).

The invariant is one of controllers in office only: one that scans after it was disposed may claim, but
its next poll registers it anew and scans in any case (`Controller.Fresh`).
-/

namespace DeviceBus

/-! ## What a controller has and what a scan finds -/

/-- Every edge of a loaded element leads to a known element. -/
def Topology.EdgesKnown (t : Topology) : Prop :=
  ∀ e el, t.get? e = some el → ∀ edge ∈ el.edges, t.knows edge.target = true

instance (t : Topology) : Decidable t.EdgesKnown :=
  decidable_of_iff (∀ p ∈ t.loaded.entries, ∀ edge ∈ p.2.edges, t.knows edge.target = true)
    ⟨fun h e el hel => h (e, el) (Table.get?_eq_some_iff.1 hel),
      fun h p hp => h p.1 p.2 (Table.get?_eq_some_iff.2 hp)⟩

theorem Topology.stocks_of_forall {P : DeviceRef → Prop} (h : ∀ d, P d) (t : Topology) : t.Stocks P :=
  ⟨fun _ _ _ d _ => h d, fun _ _ _ d _ => h d, fun _ _ _ o _ => h o.device⟩

/-- A listing finds the same where everything looks the same. -/
theorem Scan.enumerate_looks {t t' : Topology} (h : t.Looks t') (hw : Hardware) (visits : List Scan.Visit) :
    (enumerate t' hw visits).1 = (enumerate t hw visits).1 :=
  enumerate_congr (fun v _ => h.element v.element) h.provider (t.stocks_of_forall fun _ => ⟨rfl, rfl⟩)

namespace Controller

/-- A walk from the root finds the members, and the devices of those are the devices of the bus. -/
def Sees (c : Controller) (t : Topology) (hw : Hardware) : Prop :=
  ∃ visits, Scan.walk t c.root c.maxElements = .ok visits ∧ visits.map Query.element = c.members ∧
    (Scan.enumerate t hw visits).1 = .ok c.devices

/-- A ready controller that has nothing to be told owns exactly its members and has what a scan would
find. -/
def Current (c : Controller) (t : Topology) (hw : Hardware) : Prop :=
  c.state = .ready → c.id ∉ t.invalidations → c.id ∉ t.scanRequests →
    (∀ e, t.owner? e = some c.id ↔ e ∈ c.members) ∧ c.Sees t hw

/-- A controller is registered unless it was disposed, and what it has is current until then. -/
structure Fresh (c : Controller) (t : Topology) (hw : Hardware) : Prop where
  registered : t.isRegistered c.id = !c.disposed
  serial : c.id.serial ≤ t.lastSerial
  current : c.disposed = false → c.Current t hw

variable {c : Controller} {t t' : Topology} {hw hw' : Hardware}

theorem Sees.looks (h : c.Sees t hw) (hlooks : t.Looks t') : c.Sees t' hw := by
  obtain ⟨visits, hwalk, hmembers, hdevices⟩ := h
  refine ⟨visits, Scan.walk_congr hwalk ⟨fun v _ => hlooks.element v.element, ?_⟩, hmembers, ?_⟩
  · intro v _ e _ edge _ _
    exact hlooks.element edge.target
  · rw [Scan.enumerate_looks hlooks, hdevices]

theorem Sees.extents (h : c.Sees t hw) (hextents : t.Stocks (Scan.SameExtent hw hw')) :
    c.Sees t hw' := by
  obtain ⟨visits, hwalk, hmembers, hdevices⟩ := h
  refine ⟨visits, hwalk, hmembers, ?_⟩
  rw [Scan.enumerate_congr (fun v _ => .refl t v.element) rfl hextents, hdevices]

theorem Fresh.extents (h : c.Fresh t hw) (hextents : t.Stocks (Scan.SameExtent hw hw')) :
    c.Fresh t hw' := by
  refine ⟨h.registered, h.serial, fun hlive hready hnotice hrequest => ?_⟩
  obtain ⟨howner, hsees⟩ := h.current hlive hready hnotice hrequest
  exact ⟨howner, hsees.extents hextents⟩

end Controller

/-! ## Operations on the topology -/

namespace Topology

/-- Who was not asked to scan keeps what it owns. -/
theorem step_keeps (t : Topology) (op : TopologyOp) {id : ControllerId}
    (h : id ∉ (t.step op).2.scanRequests) : t.Keeps id (t.step op).2 := by
  by_cases hop : ∃ e, op = .remove e
  · obtain ⟨e, rfl⟩ := hop
    show t.Keeps id (t.remove e).2
    rcases t.remove_drops e with heq | hdrops
    · rw [heq]
      exact (Calm.refl t).keeps id
    · refine ⟨?_, hdrops.isRegistered_eq id, ?_, hdrops.requests id⟩
      · intro e'
        rw [hdrops.owner?_eq]
        split
        · next heq =>
          subst heq
          exact ⟨fun hnone => (nomatch hnone), fun howner => absurd (hdrops.owner id howner) h⟩
        · exact .rfl
      · rw [hdrops.invalidations]
  · exact (t.step_calm fun e he => hop ⟨e, he⟩).keeps id

/-- No operation on elements registers a controller. -/
theorem step_registrations (t : Topology) (op : TopologyOp) :
    (t.step op).2.lastSerial = t.lastSerial ∧
      ∀ id, (t.step op).2.isRegistered id = t.isRegistered id := by
  by_cases hop : ∃ e, op = .remove e
  · obtain ⟨e, rfl⟩ := hop
    show (t.remove e).2.lastSerial = _ ∧ ∀ id, (t.remove e).2.isRegistered id = _
    rcases t.remove_drops e with heq | hdrops
    · rw [heq]
      exact ⟨rfl, fun _ => rfl⟩
    · exact ⟨hdrops.lastSerial, hdrops.isRegistered_eq⟩
  · have hcalm := t.step_calm fun e he => hop ⟨e, he⟩
    exact ⟨hcalm.lastSerial, hcalm.isRegistered_eq⟩

end Topology

namespace Controller

variable {c : Controller} {t t' : Topology} {hw : Hardware}

/-- Who was not asked to scan still sees what it has: all that looks different is somebody else's. -/
theorem Sees.step (h : c.Sees t hw) (hedges : t.EdgesKnown) (howner : ∀ e ∈ c.members, t.owner? e = some c.id)
    {op : TopologyOp} (hrequest : c.id ∉ (t.step op).2.scanRequests) : c.Sees (t.step op).2 hw := by
  obtain ⟨visits, hwalk, hmembers, hdevices⟩ := h
  have hinforms := t.step_informs op
  have howner (v : Query) (hv : v ∈ visits) : t.owner? v.element = some c.id :=
    howner v.element (hmembers ▸ List.mem_map_of_mem hv)
  have hlike (v : Query) (hv : v ∈ visits) : t.LooksAlike v.element (t.step op).2 :=
    hinforms.element v.element c.id (howner v hv) hrequest
  have hprovider : (t.step op).2.provider = t.provider := by
    obtain ⟨⟨rest, hvisits⟩, hloaded⟩ := Scan.walk_finds hwalk
    have hroot : ⟨c.root, none⟩ ∈ visits := hvisits ▸ List.mem_cons_self
    exact hinforms.provider c.root c.id (howner _ hroot) (hloaded _ hroot) hrequest
  refine ⟨visits, Scan.walk_congr hwalk ⟨hlike, ?_⟩, hmembers, ?_⟩
  · intro v _ e he edge hedge hunknown
    rw [hedges v.element e he edge hedge] at hunknown
    cases hunknown
  · rw [Scan.enumerate_congr hlike hprovider (t.stocks_of_forall fun _ => ⟨rfl, rfl⟩), hdevices]

theorem Fresh.topology_step (h : c.Fresh t hw) (hedges : t.EdgesKnown) (op : TopologyOp) :
    c.Fresh (t.step op).2 hw := by
  obtain ⟨hserial, hregistered⟩ := t.step_registrations op
  refine ⟨(hregistered c.id).trans h.registered, hserial ▸ h.serial, ?_⟩
  intro hlive hready hnotice hrequest
  have hkeeps := t.step_keeps op hrequest
  obtain ⟨howner, hsees⟩ := h.current hlive hready (mt hkeeps.invalidations.2 hnotice)
    (mt hkeeps.requests hrequest)
  refine ⟨fun e => (hkeeps.owner e).trans (howner e), ?_⟩
  exact hsees.step hedges (fun e he => (howner e).2 he) hrequest

end Controller

/-! ## Operations of a controller -/

namespace Topology

variable {t t' t'' : Topology} {id : ControllerId}

/-- What a controller does to the others: each keeps its bus or loses all of it with a notice, and
nothing looks different to anybody. -/
structure Yields (id : ControllerId) (t t' : Topology) : Prop where
  registered : ∀ id', id' ≠ id → t'.isRegistered id' = t.isRegistered id'
  treats : ∀ id', id' ≠ id → t.isRegistered id' = true → t.Treats id' t'
  looks : t.Looks t'
  lastSerial : t.lastSerial ≤ t'.lastSerial

theorem Yields.of_keeps (hkeeps : ∀ id', id' ≠ id → t.Keeps id' t') (hlooks : t.Looks t')
    (hserial : t.lastSerial ≤ t'.lastSerial) : t.Yields id t' :=
  ⟨fun id' hne => (hkeeps id' hne).registered, fun id' hne _ => .inl (hkeeps id' hne), hlooks, hserial⟩

theorem Yields.refl (t : Topology) (id : ControllerId) : t.Yields id t :=
  .of_keeps (fun id' _ => (Calm.refl t).keeps id') (.of_elements rfl rfl rfl) (Nat.le_refl _)

theorem Yields.trans (h : t.Yields id t') (h' : t'.Yields id t'') : t.Yields id t'' := by
  refine ⟨?_, ?_, h.looks.trans h'.looks, Nat.le_trans h.lastSerial h'.lastSerial⟩
  · intro id' hne
    exact (h'.registered id' hne).trans (h.registered id' hne)
  · intro id' hne hregistered
    refine (h.treats id' hne hregistered).trans (h'.treats id' hne ?_)
    rw [h.registered id' hne, hregistered]

theorem takeInvalidation_yields (t : Topology) (id : ControllerId) :
    t.Yields id (t.takeInvalidation id).2 :=
  .of_keeps (fun _ => takeInvalidation_keeps) (.of_elements rfl rfl rfl) (Nat.le_refl _)

theorem takeScanRequest_yields (t : Topology) (id : ControllerId) :
    t.Yields id (t.takeScanRequest id).2 :=
  .of_keeps (fun _ => takeScanRequest_keeps) (.of_elements rfl rfl rfl) (Nat.le_refl _)

theorem releaseClaims_yields (t : Topology) (id : ControllerId) : t.Yields id (t.releaseClaims id) :=
  .of_keeps (fun _ => releaseClaims_keeps) (.of_elements rfl rfl rfl) (Nat.le_refl _)

theorem register_yields (t : Topology) (root : ElementId) :
    t.Yields (t.register root).1 (t.register root).2 :=
  .of_keeps (fun _ => register_keeps) (.of_elements rfl rfl rfl) (Nat.le_succ _)

theorem claim_yields (t : Topology) (id : ControllerId) (es : List ElementId) :
    t.Yields id (t.claim id es) := by
  have hclaims := t.claim_claims id es
  refine ⟨fun id' _ => hclaims.registered id', ?_, t.claim_looks id es, ?_⟩
  · intro id' hne hregistered
    exact claim_treats (fun _ _ => hregistered) hne es
  · exact Nat.le_of_eq hclaims.lastSerial.symm

theorem unregister_yields (h : t.isRegistered id = true) : t.Yields id (t.unregister id) :=
  .of_keeps (fun _ => unregister_keeps h) (t.unregister_looks id)
    (Nat.le_of_eq (unregister_leaves h).lastSerial.symm)

end Topology

namespace Controller

variable {c : Controller} {t t' : Topology} {hw : Hardware} {s : Site}

/-- What another controller does leaves a controller fresh. -/
theorem Fresh.yields (h : c.Fresh t hw) {id : ControllerId} (hyields : t.Yields id t')
    (hne : c.id ≠ id) : c.Fresh t' hw := by
  refine ⟨(hyields.registered c.id hne).trans h.registered,
    Nat.le_trans h.serial hyields.lastSerial, ?_⟩
  intro hlive hready hnotice hrequest
  have hregistered : t.isRegistered c.id = true := by rw [h.registered, hlive]; rfl
  rcases hyields.treats c.id hne hregistered with hkeeps | hrobs
  · obtain ⟨howner, hsees⟩ := h.current hlive hready (mt hkeeps.invalidations.2 hnotice)
      (mt hkeeps.requests hrequest)
    exact ⟨fun e => (hkeeps.owner e).trans (howner e), hsees.looks hyields.looks⟩
  · exact absurd hrobs.invalidations hnotice

/-- Whatever a controller was before, after a scan that completes it owns exactly its members, and has
what a scan would find. -/
theorem scan_sees (hready : (c.scan s).1.state = .ready) :
    (∀ e, (c.scan s).2.topology.owner? e = some (c.scan s).1.id ↔ e ∈ (c.scan s).1.members) ∧
      (c.scan s).1.Sees (c.scan s).2.topology s.hardware := by
  rcases c.scan_cases s with he | ⟨_, _, _, he⟩ | ⟨visits, devices, changes, hw, hwalk, henumerate, he⟩
  · rw [he] at hready
    cases hready
  · rw [he] at hready
    cases hready
  · rw [he]
    refine ⟨s.topology.owner?_claim c.id _, ?_⟩
    have hsees : Sees { c with members := visits.map Query.element, devices } s.topology s.hardware :=
      ⟨visits, hwalk, rfl, congrArg Prod.fst henumerate⟩
    exact hsees.looks (s.topology.claim_looks c.id _)

theorem scan_current (c : Controller) (s : Site) :
    (c.scan s).1.Current (c.scan s).2.topology s.hardware := fun hready _ _ => scan_sees hready

theorem scan_yields (c : Controller) (s : Site) :
    s.topology.Yields c.id (c.scan s).2.topology := by
  rcases c.scan_cases s with he | ⟨_, _, _, he⟩ | ⟨visits, _, _, _, -, -, he⟩
  · rw [he]
    exact .refl _ _
  · rw [he]
    exact s.topology.releaseClaims_yields c.id
  · rw [he]
    exact s.topology.claim_yields c.id _

theorem scan_isRegistered (c : Controller) (s : Site) (id : ControllerId) :
    (c.scan s).2.topology.isRegistered id = s.topology.isRegistered id := by
  rcases c.scan_cases s with he | ⟨_, _, _, he⟩ | ⟨visits, _, _, _, -, -, he⟩
  · rw [he]
  · rw [he]
    rfl
  · rw [he]
    exact (s.topology.claim_claims c.id _).registered id

theorem scan_fresh (hregistered : s.topology.isRegistered c.id = !c.disposed)
    (hserial : c.id.serial ≤ s.topology.lastSerial) :
    (c.scan s).1.Fresh (c.scan s).2.topology s.hardware := by
  refine ⟨?_, ?_, fun _ => c.scan_current s⟩
  · rw [scan_id, scan_disposed, scan_isRegistered, hregistered]
  · rw [scan_id]
    exact Nat.le_trans hserial (c.scan_yields s).lastSerial

/-! ## Polls -/

/-- A controller that is registered anew has a new name. -/
theorem revive_named (c : Controller) (s : Site) :
    (c.revive s).1.id = c.id ∨ s.topology.lastSerial < (c.revive s).1.id.serial := by
  unfold revive
  split
  · exact .inr (Nat.lt_succ_self _)
  · exact .inl rfl

theorem poll_named (c : Controller) (s : Site) :
    (c.poll s).1.id = c.id ∨ s.topology.lastSerial < (c.poll s).1.id.serial := by
  rw [poll_id_eq]
  exact c.revive_named s

theorem revive_yields (c : Controller) (s : Site) :
    s.topology.Yields (c.revive s).1.id (c.revive s).2.topology := by
  unfold revive
  split
  · exact s.topology.register_yields c.root
  · exact .refl _ _

theorem absorbInvalidation_yields (c : Controller) (s : Site) :
    s.topology.Yields c.id (c.absorbInvalidation s).2.topology := by
  have htaken := s.topology.takeInvalidation_yields c.id
  rcases c.absorbInvalidation_cases s with ⟨-, _, he⟩ | ⟨-, he⟩
  · rw [he]
    exact htaken.trans (Topology.releaseClaims_yields _ _)
  · rw [he]
    exact htaken

theorem absorbScanRequest_yields (c : Controller) (s : Site) :
    s.topology.Yields c.id (c.absorbScanRequest s).2.topology := by
  have htaken := s.topology.takeScanRequest_yields c.id
  rcases c.absorbScanRequest_cases s with ⟨-, he⟩ | ⟨-, he⟩ <;>
  · rw [he]
    exact htaken

theorem absorb_yields (c : Controller) (s : Site) :
    s.topology.Yields (c.absorb s).1.id (c.absorb s).2.topology := by
  rw [absorb_id_eq]
  have hrevive := c.revive_yields s
  unfold absorb
  generalize c.revive s = p at hrevive
  obtain ⟨c₁, s₁⟩ := p
  have hrequest := (c₁.absorbInvalidation s₁).1.absorbScanRequest_yields (c₁.absorbInvalidation s₁).2
  rw [absorbInvalidation_id] at hrequest
  exact (hrevive.trans (c₁.absorbInvalidation_yields s₁)).trans hrequest

theorem scanIfDue_yields (c : Controller) (s : Site) :
    s.topology.Yields c.id (c.scanIfDue s).2.topology := by
  unfold scanIfDue
  split
  · exact c.scan_yields s
  · exact .refl _ _

/-- A poll leaves each other controller its bus, or takes all of it with a notice. -/
theorem poll_yields (c : Controller) (s : Site) :
    s.topology.Yields (c.poll s).1.id (c.poll s).2.topology := by
  rw [poll_id_eq_absorb]
  exact (c.absorb_yields s).trans (scanIfDue_yields _ _)

/-- A controller in office on its way through a poll: what it has is current, unless a scan is due. -/
structure Poised (c : Controller) (t : Topology) (hw : Hardware) : Prop where
  live : c.disposed = false
  registered : t.isRegistered c.id = true
  serial : c.id.serial ≤ t.lastSerial
  current : c.scanPending = false → c.Current t hw

theorem revive_poised (h : c.Fresh s.topology s.hardware) :
    (c.revive s).1.Poised (c.revive s).2.topology s.hardware := by
  unfold revive
  split
  · refine ⟨rfl, ?_, Nat.le_refl _, fun hidle => nomatch hidle⟩
    show (s.topology.register c.root).2.isRegistered (s.topology.register c.root).1 = true
    rw [Topology.isRegistered_register]
    exact Bool.or_eq_true_iff.2 (.inl (decide_eq_true rfl))
  · next hlive =>
    have hlive := eq_false_of_ne_true hlive
    refine ⟨hlive, ?_, h.serial, fun _ => h.current hlive⟩
    rw [h.registered, hlive]
    rfl

theorem absorbInvalidation_poised (h : c.Poised s.topology hw) :
    (c.absorbInvalidation s).1.Poised (c.absorbInvalidation s).2.topology hw ∧
      c.id ∉ (c.absorbInvalidation s).2.topology.invalidations := by
  have hstruck : c.id ∉ (s.topology.takeInvalidation c.id).2.invalidations :=
    fun hmem => (Topology.mem_strike.1 hmem).2 rfl
  rcases c.absorbInvalidation_cases s with ⟨-, changes, he⟩ | ⟨hnone, he⟩
  · rw [he]
    refine ⟨⟨h.live, h.registered, h.serial, ?_⟩, hstruck⟩
    intro _ hready
    cases hready
  · rw [he]
    refine ⟨⟨h.live, h.registered, h.serial, ?_⟩, hstruck⟩
    intro hidle hready _ hrequest
    obtain ⟨howner, hsees⟩ := h.current hidle hready hnone hrequest
    exact ⟨howner, hsees.looks (s.topology.takeInvalidation_yields c.id).looks⟩

theorem absorbScanRequest_poised (h : c.Poised s.topology hw)
    (hnotice : c.id ∉ s.topology.invalidations) :
    (c.absorbScanRequest s).1.Poised (c.absorbScanRequest s).2.topology hw ∧
      c.id ∉ (c.absorbScanRequest s).2.topology.invalidations ∧
      c.id ∉ (c.absorbScanRequest s).2.topology.scanRequests := by
  have hstruck : c.id ∉ (s.topology.takeScanRequest c.id).2.scanRequests :=
    fun hmem => (Topology.mem_strike.1 hmem).2 rfl
  rcases c.absorbScanRequest_cases s with ⟨-, he⟩ | ⟨hnone, he⟩
  · rw [he]
    exact ⟨⟨h.live, h.registered, h.serial, fun hidle => nomatch hidle⟩, hnotice, hstruck⟩
  · rw [he]
    refine ⟨⟨h.live, h.registered, h.serial, ?_⟩, hnotice, hstruck⟩
    intro hidle hready _ _
    obtain ⟨howner, hsees⟩ := h.current hidle hready hnotice hnone
    exact ⟨howner, hsees.looks (s.topology.takeScanRequest_yields c.id).looks⟩

/-- A controller after a poll is in office, has nothing to be told, and is current. -/
structure Polled (c : Controller) (t : Topology) (hw : Hardware) : Prop extends c.Fresh t hw where
  live : c.disposed = false
  told : c.id ∉ t.invalidations
  asked : c.id ∉ t.scanRequests

theorem scan_scanRequests (c : Controller) (s : Site) (h : c.id ∉ s.topology.scanRequests) :
    c.id ∉ (c.scan s).2.topology.scanRequests := by
  rcases c.scan_cases s with he | ⟨_, _, _, he⟩ | ⟨visits, _, _, _, -, -, he⟩
  · rw [he]
    exact h
  · rw [he]
    exact h
  · rw [he]
    exact fun hmem => h (((s.topology.claim_claims c.id _).requests c.id).1 hmem).1

theorem scanIfDue_polled (h : c.Poised s.topology s.hardware) (hnotice : c.id ∉ s.topology.invalidations)
    (hrequest : c.id ∉ s.topology.scanRequests) :
    (c.scanIfDue s).1.Polled (c.scanIfDue s).2.topology s.hardware := by
  have hregistered : s.topology.isRegistered c.id = !c.disposed := by
    rw [h.registered, h.live]
    rfl
  unfold scanIfDue
  split
  · refine ⟨scan_fresh hregistered h.serial, (c.scan_disposed s).trans h.live, ?_, ?_⟩
    · rw [scan_id, scan_invalidations]
      exact hnotice
    · rw [scan_id]
      exact c.scan_scanRequests s hrequest
  · next hidle =>
    have hfresh : c.Fresh s.topology s.hardware :=
      ⟨hregistered, h.serial, fun _ => h.current (eq_false_of_ne_true hidle)⟩
    exact ⟨hfresh, h.live, hnotice, hrequest⟩

theorem absorb_poised (h : c.Fresh s.topology s.hardware) :
    (c.absorb s).1.Poised (c.absorb s).2.topology s.hardware ∧
      (c.absorb s).1.id ∉ (c.absorb s).2.topology.invalidations ∧
      (c.absorb s).1.id ∉ (c.absorb s).2.topology.scanRequests := by
  obtain ⟨hpoised, hnotice⟩ := absorbInvalidation_poised (revive_poised h)
  rw [← absorbInvalidation_id] at hnotice
  obtain ⟨hpoised, htold⟩ := absorbScanRequest_poised hpoised hnotice
  rw [← absorbScanRequest_id] at htold
  exact ⟨hpoised, htold⟩

theorem absorb_hardware (c : Controller) (s : Site) : (c.absorb s).2.hardware = s.hardware :=
  (absorbScanRequest_hardware _ _).trans ((absorbInvalidation_hardware _ _).trans (c.revive_hardware s))

theorem poll_polled (h : c.Fresh s.topology s.hardware) :
    (c.poll s).1.Polled (c.poll s).2.topology s.hardware := by
  obtain ⟨hpoised, hnotice, hrequest⟩ := absorb_poised h
  rw [← c.absorb_hardware s] at hpoised ⊢
  exact scanIfDue_polled hpoised hnotice hrequest

theorem dispose_yields (h : t.isRegistered c.id = !c.disposed) : t.Yields c.id (c.dispose t).2 := by
  unfold dispose
  split
  · exact .refl t c.id
  · next hlive =>
    rw [eq_false_of_ne_true hlive] at h
    exact Topology.unregister_yields h

theorem dispose_fresh (h : c.Fresh t hw) : (c.dispose t).1.Fresh (c.dispose t).2 hw := by
  unfold dispose
  split
  · exact h
  · next hlive =>
    have hregistered : t.isRegistered c.id = true := by
      rw [h.registered, eq_false_of_ne_true hlive]
      rfl
    have hserial := (Topology.unregister_yields hregistered).lastSerial
    refine ⟨?_, Nat.le_trans h.serial hserial, fun hdisposed => nomatch hdisposed⟩
    show (t.unregister c.id).isRegistered c.id = false
    rw [(Topology.unregister_leaves hregistered).registered, decide_eq_false (not_not_intro rfl),
      Bool.false_and]

theorem new_fresh (t : Topology) (root : ElementId) (config : Config) :
    (Controller.new t root config).1.Fresh (Controller.new t root config).2 hw := by
  refine ⟨?_, Nat.le_refl _, fun _ hready => nomatch hready⟩
  show (t.register root).2.isRegistered (t.register root).1 = true
  rw [Topology.isRegistered_register]
  exact Bool.or_eq_true_iff.2 (.inl (decide_eq_true rfl))

end Controller

end DeviceBus
