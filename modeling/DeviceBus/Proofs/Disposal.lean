import DeviceBus.Proofs.Machine.Moves
import DeviceBus.Proofs.Settling

/-!
# What a disposal sets free

A controller that goes gives up what it owns, and those that lost their bus to another are told to scan
again.  Such a scan claims all that it reaches, whether it was given up or not.  So where every other
controller was settled, a disposal followed by polls leaves all others what they own exactly if nobody
who scans then reaches an element of theirs (`World.disposal_spares_iff`).

    t.isLost id → t.owner? e ≠ some id             who lost its bus owns nothing    (World.run_evicted)
    c.reach s                                      what a scan of c would claim     (Controller.scan_topology)
-/

namespace DeviceBus

/-! ## Who lost its bus owns nothing -/

namespace Topology

/-- Who lost its bus owns nothing. -/
def Evicted (t : Topology) : Prop := ∀ id, t.isLost id = true → ∀ e, t.owner? e ≠ some id

variable {t t' : Topology} {id : ControllerId}

theorem Evicted.mono (h : t.Evicted) (hlost : ∀ id, t'.isLost id = true → t.isLost id = true)
    (howner : ∀ e id, t'.owner? e = some id → t.owner? e = some id) : t'.Evicted :=
  fun id hid e he => h id (hlost id hid) e (howner e id he)

theorem Evicted.of_same (h : t.Evicted) (hcontrollers : t'.controllers = t.controllers)
    (howner : ∀ e id, t'.owner? e = some id → t.owner? e = some id) : t'.Evicted := by
  refine h.mono (fun id hid => ?_) howner
  rwa [isLost, hcontrollers] at hid

theorem evicted_empty : empty.Evicted := fun _ hid _ _ => Bool.false_ne_true hid

theorem Evicted.releaseClaims (h : t.Evicted) (id : ControllerId) : (t.releaseClaims id).Evicted :=
  h.of_same rfl fun _ _ howner => (owner?_releaseClaims.1 howner).1

theorem Evicted.claim (h : t.Evicted) (id : ControllerId) (es : List ElementId) :
    (t.claim id es).Evicted := by
  have hclaims := t.claim_claims id es
  intro id' hid' e he
  rw [hclaims.lost, Bool.and_eq_true, decide_eq_true_iff] at hid'
  obtain ⟨hne, hlost⟩ := hid'
  rw [hclaims.owner] at he
  split at he
  · exact hne he.symm
  · obtain ⟨howner, -, hrival⟩ := he
    rw [decide_eq_false hrival, Bool.false_or] at hlost
    exact h id' hlost e howner

theorem Evicted.register (h : t.Evicted) (root : ElementId) : (t.register root).2.Evicted := by
  refine h.mono (fun id hid => ?_) fun _ _ howner => howner
  change ((t.controllers.insert _ _).get? id).any _ = true at hid
  rw [Table.get?_insert] at hid
  split at hid
  · cases hid
  · exact hid

theorem Evicted.unregister (h : t.Evicted) (id : ControllerId) : (t.unregister id).Evicted := by
  cases hregistered : t.isRegistered id with
  | false =>
    rwa [show t.unregister id = t from if_neg (ne_true_of_eq_false hregistered)]
  | true =>
    have hleaves := unregister_leaves hregistered
    refine h.mono (fun id' hid' => ?_) fun e id' howner => ((hleaves.owner e id').1 howner).1
    have hne : id' ≠ id := by
      rintro rfl
      have hgone := hleaves.registered id'
      rw [isRegistered_of_isLost hid', decide_eq_false (not_not_intro rfl)] at hgone
      cases hgone
    rwa [← hleaves.lost id' hne]

/-- An operation on elements registers nobody and gives nobody anything. -/
theorem Evicted.step (h : t.Evicted) (op : TopologyOp) : (t.step op).2.Evicted := by
  refine h.of_same ?_ fun e id => (t.step_rouses op id).owner e
  by_cases hop : ∃ e, op = .remove e
  · obtain ⟨e, rfl⟩ := hop
    rcases t.remove_drops e with heq | hdrops
    · exact congrArg Topology.controllers heq
    · exact hdrops.controllers
  · exact (t.step_calm fun e he => hop ⟨e, he⟩).controllers

end Topology

namespace Controller

variable {c : Controller} {s s' : Site}

theorem scan_evicted (h : s.topology.Evicted) (c : Controller) : (c.scan s).2.topology.Evicted := by
  rcases c.scan_cases s with he | ⟨_, _, _, he⟩ | ⟨visits, _, _, _, -, -, he⟩
  · rw [he]
    exact h
  · rw [he]
    exact h.releaseClaims c.id
  · rw [he]
    exact h.claim c.id _

theorem absorb_evicted (h : s.topology.Evicted) (c : Controller) : (c.absorb s).2.topology.Evicted := by
  have hrevive : (c.revive s).2.topology.Evicted := by
    unfold revive
    split
    · exact h.register c.root
    · exact h
  have hnotice : ((c.revive s).1.absorbInvalidation (c.revive s).2).2.topology.Evicted := by
    rcases (c.revive s).1.absorbInvalidation_cases (c.revive s).2 with ⟨-, _, he⟩ | ⟨-, he⟩
    · rw [he]
      have htaken : ((c.revive s).2.topology.takeInvalidation (c.revive s).1.id).2.Evicted :=
        hrevive.of_same rfl fun _ _ howner => howner
      exact htaken.releaseClaims _
    · rw [he]
      exact hrevive.of_same rfl fun _ _ howner => howner
  unfold absorb
  dsimp only
  rcases absorbScanRequest_cases ((c.revive s).1.absorbInvalidation (c.revive s).2).1
    ((c.revive s).1.absorbInvalidation (c.revive s).2).2 with ⟨-, he⟩ | ⟨-, he⟩ <;>
  · rw [he]
    exact hnotice.of_same rfl fun _ _ howner => howner

theorem poll_evicted (h : s.topology.Evicted) (c : Controller) : (c.poll s).2.topology.Evicted := by
  rw [poll_eq_absorb]
  unfold scanIfDue
  split
  · exact scan_evicted (absorb_evicted h c) _
  · exact absorb_evicted h c

end Controller

theorem Network.act_evicted {n : Network} (hw : Hardware) (a : Network.Action)
    (h : n.topology.Evicted) : (n.act hw a).topology.Evicted := by
  cases a with
  | topology op => exact h.step op
  | join seat root config =>
    cases hseat : n.controllers seat with
    | some c => simpa only [act, hseat] using h
    | none =>
      rw [act_join hseat]
      exact h.register root
  | restore seat members =>
    cases hseat : n.controllers seat with
    | none => simpa only [act, hseat] using h
    | some c =>
      rw [act_restore hseat]
      exact h
  | control seat op =>
    cases hseat : n.controllers seat with
    | none => simpa only [act, hseat] using h
    | some c =>
      rw [act_control hseat]
      cases op with
      | poll => exact Controller.poll_evicted (s := ⟨n.topology, hw⟩) h c
      | scan => exact Controller.scan_evicted (s := ⟨n.topology, hw⟩) h c
      | scheduleScan => exact h
      | takeChanges => exact h
      | dispose =>
        show (c.dispose n.topology).2.Evicted
        unfold Controller.dispose
        split
        · exact h
        · exact h.unregister c.id

/-- In every run who lost its bus owns nothing. -/
theorem World.run_evicted (ops : List Op) : (empty.run ops).site.topology.Evicted :=
  network_induction (w := empty) (I := fun n => n.topology.Evicted) (Q := fun _ => True)
    (fun _ hw a _ h => Network.act_evicted hw a h) Topology.evicted_empty ops
    fun _ _ _ _ _ => trivial

/-! ## What a scan would claim -/

namespace Controller

/-- The elements that a scan would claim now: those it visits, if it completes. -/
def reach (c : Controller) (s : Site) : List ElementId :=
  match Scan.walk s.topology c.root c.maxElements with
  | .error _ => []
  | .ok visits =>
    match (Scan.enumerate s.topology s.hardware visits).1 with
    | .error _ => []
    | .ok _ => visits.map Query.element

variable {c : Controller} {s s' : Site} {id : ControllerId} {e : ElementId}

/-- What is reached depends on the elements and on the sizes and draws of the devices. -/
theorem reach_congr {c' : Controller} (hroot : c'.root = c.root)
    (hmaxElements : c'.maxElements = c.maxElements) (hlooks : s.topology.Looks s'.topology)
    (hextents : s.hardware.KeepsExtents s'.hardware) : c'.reach s' = c.reach s := by
  have henumerate (visits : List Query) : (Scan.enumerate s'.topology s'.hardware visits).1 =
      (Scan.enumerate s.topology s.hardware visits).1 :=
    Scan.enumerate_congr (fun v _ => hlooks.element v.element) hlooks.provider
      (s.topology.stocks_of_forall hextents)
  unfold reach
  rw [hroot, hmaxElements, Scan.walk_looks hlooks]
  split
  · rfl
  · rw [henumerate]

/-- A scan leaves the claims alone, gives up those of its controller, or claims what it reaches. -/
theorem scan_topology (c : Controller) (s : Site) :
    c.reach s = [] ∧ ((c.scan s).2.topology = s.topology ∨
        (c.scan s).2.topology = s.topology.releaseClaims c.id) ∨
      (c.scan s).2.topology = s.topology.claim c.id (c.reach s) := by
  unfold scan reach
  dsimp only
  generalize Scan.walk s.topology c.root c.maxElements = walked
  cases walked with
  | error setback => cases setback with
    | deferred => exact .inl ⟨rfl, .inl rfl⟩
    | tooComplex => exact .inl ⟨rfl, .inr rfl⟩
  | ok visits =>
    dsimp only
    generalize Scan.enumerate s.topology s.hardware visits = found
    obtain ⟨fault | devices, hw⟩ := found
    · exact .inl ⟨rfl, .inr rfl⟩
    · exact .inr rfl

theorem scan_takes (h : e ∈ c.reach s) : (c.scan s).2.topology.owner? e = some c.id := by
  rcases c.scan_topology s with ⟨hnone, -⟩ | hclaimed
  · rw [hnone] at h
    cases h
  · rw [hclaimed]
    exact (s.topology.owner?_claim c.id _ e).2 h

/-- Whoever owns nothing that a scan reaches keeps what it owns, and hears nothing. -/
theorem scan_spares_others (hne : id ≠ c.id) (hfree : ∀ e ∈ c.reach s, s.topology.owner? e ≠ some id) :
    (∀ e, s.topology.owner? e = some id → (c.scan s).2.topology.owner? e = some id) ∧
      (id ∈ (c.scan s).2.topology.invalidations → id ∈ s.topology.invalidations) := by
  rcases c.scan_topology s with ⟨-, hsame | hgone⟩ | hclaimed
  · rw [hsame]
    exact ⟨fun _ h => h, fun h => h⟩
  · rw [hgone]
    exact ⟨fun e h => Topology.owner?_releaseClaims.2 ⟨h, hne⟩, fun h => h⟩
  · have hrival : id ∉ s.topology.rivals c.id (c.reach s) := by
      intro hmem
      obtain ⟨-, -, e, he, howner⟩ := Topology.mem_rivals.1 hmem
      exact hfree e he howner
    have hclaims := s.topology.claim_claims c.id (c.reach s)
    rw [hclaimed]
    refine ⟨fun e h => ?_, fun h => ((hclaims.invalidations id).1 h).resolve_right hrival⟩
    rw [hclaims.owner, if_neg fun he => hfree e he h]
    exact ⟨h, hne, hrival⟩

/-! ## Polls -/

/-- Before its scan a poll changes no element and no device, and nothing of what others own. -/
structure Hears (c : Controller) (s : Site) (c' : Controller) (s' : Site) : Prop where
  root : c'.root = c.root
  maxElements : c'.maxElements = c.maxElements
  looks : s.topology.Looks s'.topology
  hardware : s'.hardware = s.hardware
  owner : ∀ id, id ≠ c'.id → ∀ e, s'.topology.owner? e = some id ↔ s.topology.owner? e = some id
  notices : ∀ id ∈ s'.topology.invalidations, id ∈ s.topology.invalidations

theorem absorb_hears (c : Controller) (s : Site) : c.Hears s (c.absorb s).1 (c.absorb s).2 := by
  have hrevive : c.Hears s (c.revive s).1 (c.revive s).2 := by
    unfold revive
    split <;>
      exact ⟨rfl, rfl, .of_elements rfl rfl rfl, rfl, fun _ _ _ => .rfl, fun _ h => h⟩
  unfold absorb
  generalize c.revive s = p at hrevive
  obtain ⟨c₁, s₁⟩ := p
  have hnotice : c.Hears s (c₁.absorbInvalidation s₁).1 (c₁.absorbInvalidation s₁).2 := by
    have hstruck (id : ControllerId) (hid : id ∈ Topology.strike s₁.topology.invalidations c₁.id) :=
      hrevive.notices id (Topology.mem_strike.1 hid).1
    rcases c₁.absorbInvalidation_cases s₁ with ⟨-, _, he⟩ | ⟨-, he⟩
    · rw [he]
      refine ⟨hrevive.root, hrevive.maxElements, hrevive.looks.trans (.of_elements rfl rfl rfl),
        hrevive.hardware, fun id hne e => ?_, hstruck⟩
      rw [← hrevive.owner id hne]
      exact Topology.owner?_releaseClaims.trans (and_iff_left hne)
    · rw [he]
      exact ⟨hrevive.root, hrevive.maxElements, hrevive.looks.trans (.of_elements rfl rfl rfl),
        hrevive.hardware, hrevive.owner, hstruck⟩
  dsimp only
  generalize c₁.absorbInvalidation s₁ = p at hnotice
  obtain ⟨c₂, s₂⟩ := p
  rcases c₂.absorbScanRequest_cases s₂ with ⟨-, he⟩ | ⟨-, he⟩ <;>
  · rw [he]
    exact ⟨hnotice.root, hnotice.maxElements, hnotice.looks.trans (.of_elements rfl rfl rfl),
      hnotice.hardware, hnotice.owner, hnotice.notices⟩

theorem absorb_reach (c : Controller) (s : Site) : (c.absorb s).1.reach (c.absorb s).2 = c.reach s := by
  have hhears := c.absorb_hears s
  refine reach_congr hhears.root hhears.maxElements hhears.looks ?_
  rw [hhears.hardware]
  exact .refl _

/-- Whoever owns nothing that the controller reaches keeps what it owns, and hears nothing. -/
theorem poll_spares_others (hne : id ≠ (c.poll s).1.id)
    (hfree : ∀ e ∈ c.reach s, s.topology.owner? e ≠ some id) :
    (∀ e, s.topology.owner? e = some id → (c.poll s).2.topology.owner? e = some id) ∧
      (id ∈ (c.poll s).2.topology.invalidations → id ∈ s.topology.invalidations) := by
  have hhears := c.absorb_hears s
  rw [poll_id_eq_absorb] at hne
  rw [← c.absorb_reach s] at hfree
  rw [poll_eq_absorb]
  unfold scanIfDue
  split
  · obtain ⟨howner, hnotice⟩ := scan_spares_others hne fun e he =>
      mt (hhears.owner id hne e).1 (hfree e he)
    exact ⟨fun e h => howner e ((hhears.owner id hne e).2 h), fun h => hhears.notices id (hnotice h)⟩
  · exact ⟨fun e => (hhears.owner id hne e).2, hhears.notices id⟩

/-- A poll whose scan is due takes what the controller reaches. -/
theorem poll_takes (hdue : (c.absorb s).1.scanPending = true) (h : e ∈ c.reach s) :
    (c.poll s).2.topology.owner? e = some (c.poll s).1.id := by
  rw [← c.absorb_reach s] at h
  rw [poll_id_eq_absorb, poll_of_due hdue]
  exact scan_takes h

/-- A controller that is registered anew scans. -/
theorem absorb_due_of_disposed (ht : s.topology.Numbered) (h : c.disposed = true) :
    (c.absorb s).1.scanPending = true := by
  have hunused := ht ⟨s.topology.lastSerial + 1⟩ (Nat.lt_succ_self _)
  have hrevive : c.revive s = ({ c with
      id := ⟨s.topology.lastSerial + 1⟩
      disposed := false
      scanPending := true }, { s with topology := (s.topology.register c.root).2 }) := if_pos h
  unfold absorb
  rw [hrevive]
  dsimp only
  rcases absorbInvalidation_cases { c with
      id := ⟨s.topology.lastSerial + 1⟩
      disposed := false
      scanPending := true } { s with topology := (s.topology.register c.root).2 } with
    ⟨hmem, -⟩ | ⟨-, he⟩
  · exact absurd hmem hunused.notices
  · rw [he]
    rcases absorbScanRequest_cases { c with
        id := ⟨s.topology.lastSerial + 1⟩
        disposed := false
        scanPending := true }
      { s with topology := ((s.topology.register c.root).2.takeInvalidation _).2 } with
      ⟨-, he⟩ | ⟨-, he⟩ <;>
      rw [he]
    rfl

/-- A poll scans if it registers the controller anew, if the topology asks for a scan, or if one is
pending and there is no notice that the bus was lost. -/
theorem absorb_due_iff (ht : s.topology.Numbered) : (c.absorb s).1.scanPending = true ↔
    c.disposed = true ∨ c.id ∈ s.topology.scanRequests ∨
      c.scanPending = true ∧ c.id ∉ s.topology.invalidations := by
  cases hdisposed : c.disposed with
  | true => exact iff_of_true (absorb_due_of_disposed ht hdisposed) (.inl rfl)
  | false =>
    by_cases hlost : c.id ∈ s.topology.invalidations
    · obtain ⟨changes, he⟩ := absorb_of_lost hdisposed hlost
      rw [he]
      simp [hlost]
    · rw [absorb_of_told hdisposed hlost]
      by_cases hasked : c.Asked s.topology
      · rw [if_pos hasked]
        refine iff_of_true rfl ?_
        rcases hasked with hpending | hrequest
        · exact .inr (.inr ⟨hpending, hlost⟩)
        · exact .inr (.inl hrequest)
      · rw [if_neg hasked]
        refine iff_of_false (fun hpending => hasked (.inl hpending)) ?_
        rintro (h | hrequest | ⟨hpending, -⟩)
        · cases h
        · exact hasked (.inr hrequest)
        · exact hasked (.inl hpending)

theorem of_absorb_idle (ht : s.topology.Numbered) (hidle : (c.absorb s).1.scanPending ≠ true) :
    c.disposed = false ∧ c.id ∉ s.topology.scanRequests ∧
      (c.scanPending = true → c.id ∈ s.topology.invalidations) := by
  obtain ⟨hlive, hrest⟩ := not_or.1 (mt (absorb_due_iff ht).2 hidle)
  obtain ⟨hrequest, hpending⟩ := not_or.1 hrest
  exact ⟨eq_false_of_ne_true hlive, hrequest, fun h => by_contra fun htold => hpending ⟨h, htold⟩⟩

/-- The topology after a poll of a calm controller. -/
theorem Calm.poll_topology (h : c.Calm s.topology) : (c.poll s).2.topology =
    if c.id ∈ s.topology.invalidations then (s.told c.id).topology.releaseClaims c.id
    else (s.told c.id).topology := by
  split
  · next hlost =>
    obtain ⟨changes, he⟩ := h.absorb_of_lost hlost
    rw [poll_eq_absorb, he]
    rfl
  · next htold =>
    rw [poll_of_told h.live htold]
    split
    · next hasked =>
      have hwalk : Scan.walk (s.told c.id).topology c.scheduleScan.root c.scheduleScan.maxElements =
        .error .deferred :=
        (Scan.walk_looks (s.told_looks c.id) _).trans (h.deferred (hasked.resolve_right h.unasked))
      rw [scan_of_deferred hwalk]
    · rfl

/-- A calm controller claims nothing. -/
theorem Calm.poll_owner (h : c.Calm s.topology) (howner : (c.poll s).2.topology.owner? e = some id) :
    s.topology.owner? e = some id := by
  rw [h.poll_topology] at howner
  split at howner
  · exact (Topology.owner?_releaseClaims.1 howner).1
  · exact howner

/-- It gives up nothing of others, and nothing of its own without a notice that it lost its bus. -/
theorem Calm.poll_spares (h : c.Calm s.topology) (htold : c.id = id → id ∉ s.topology.invalidations)
    (howner : s.topology.owner? e = some id) : (c.poll s).2.topology.owner? e = some id := by
  rw [h.poll_topology]
  split
  · next hlost =>
    refine Topology.owner?_releaseClaims.2 ⟨howner, fun hid => ?_⟩
    exact htold hid.symm (hid ▸ hlost)
  · exact howner

end Controller

/-! ## A disposal -/

namespace Controller

/-- No scan is pending, and there is nothing to be told. -/
structure Quiescent (c : Controller) (t : Topology) : Prop extends c.Told t where
  scanPending : c.scanPending = false

instance (c : Controller) (t : Topology) : Decidable (c.Quiescent t) :=
  decidable_of_iff (c.id ∉ t.invalidations ∧ c.id ∉ t.scanRequests ∧ c.scanPending = false)
    ⟨fun h => ⟨⟨h.1, h.2.1⟩, h.2.2⟩, fun h => ⟨h.notices, h.requests, h.scanPending⟩⟩

/-- What a disposal means for the others: they keep what they own, hear of nothing, and are asked to
scan if they lost their bus. -/
structure Departs (d : Controller) (t t' : Topology) : Prop where
  looks : t.Looks t'
  lastSerial : t'.lastSerial = t.lastSerial
  owner : ∀ e id, id ≠ d.id → (t'.owner? e = some id ↔ t.owner? e = some id)
  notices : ∀ id ∈ t'.invalidations, id ∈ t.invalidations
  requests : ∀ id, id ≠ d.id →
    (id ∈ t'.scanRequests ↔ id ∈ t.scanRequests ∨ d.disposed = false ∧ t.isLost id = true)

theorem dispose_departs {d : Controller} {t : Topology} (h : d.Enrolled t) :
    d.Departs t (d.dispose t).2 := by
  have hregistered := h.isRegistered
  unfold dispose
  cases hdisposed : d.disposed with
  | true =>
    refine ⟨.of_elements rfl rfl rfl, rfl, fun _ _ _ => .rfl, fun _ h => h, fun id _ => ?_⟩
    simp [hdisposed]
  | false =>
    rw [hdisposed] at hregistered
    have hleaves := Topology.unregister_leaves hregistered
    refine ⟨t.unregister_looks d.id, hleaves.lastSerial, fun e id hne => ?_, fun id hid => ?_,
      fun id hne => ?_⟩
    · exact (hleaves.owner e id).trans (and_iff_left hne)
    · exact ((hleaves.invalidations id).1 hid).1
    · exact (Topology.mem_scanRequests_unregister hregistered hne).trans (by simp [hdisposed])

end Controller

/-! ## Polls after it -/

namespace Network

variable {n : Network} {hw hw' : Hardware} {seat : Seat} {c : Controller} {id : ControllerId}

/-- A name under which nobody is going to claim anything. -/
structure Retired (n : Network) (id : ControllerId) : Prop where
  serial : id.serial ≤ n.topology.lastSerial
  calm : ∀ s c, n.controllers s = some c → c.id = id → c.disposed = false → c.Calm n.topology

theorem keep_id (seat : Seat) (c : Controller) : (seat.keep c).id = c.id := by
  cases seat <;> rfl

theorem keep_calm {t : Topology} (h : c.Calm t) (seat : Seat) : (seat.keep c).Calm t := by
  cases seat with
  | host i => exact h
  | machine i => exact ⟨h.live, h.unasked, h.deferred⟩

theorem polled_topology (n : Network) (hw : Hardware) (seat : Seat) (c : Controller) :
    (n.polled hw seat c).topology = (c.poll ⟨n.topology, hw⟩).2.topology := rfl

/-- Only a live controller goes on under an old name. -/
theorem Retired.calm_of_poll_id (h : n.Retired id) (hc : n.controllers seat = some c)
    (hid : id = (c.poll ⟨n.topology, hw⟩).1.id) : c.id = id ∧ c.Calm n.topology := by
  rw [Controller.poll_id_eq, Controller.revive] at hid
  cases hdisposed : c.disposed with
  | false =>
    rw [if_neg (ne_true_of_eq_false hdisposed)] at hid
    exact ⟨hid.symm, h.calm seat c hc hid.symm hdisposed⟩
  | true =>
    rw [if_pos hdisposed] at hid
    have hserial := h.serial
    rw [hid] at hserial
    exact absurd hserial (Nat.not_succ_le_self _)

theorem Retired.polled (h : n.Retired id) (hw : Hardware) (hc : n.controllers seat = some c) :
    (n.polled hw seat c).Retired id ∧
      ∀ e, (n.polled hw seat c).topology.owner? e = some id → n.topology.owner? e = some id := by
  have hserial : n.topology.lastSerial ≤ (c.poll ⟨n.topology, hw⟩).2.topology.lastSerial := by
    have hne : (⟨(c.poll ⟨n.topology, hw⟩).1.id.serial + 1⟩ : ControllerId) ≠
        (c.poll ⟨n.topology, hw⟩).1.id := fun heq => Nat.succ_ne_self _ (congrArg ControllerId.serial heq)
    exact (c.poll_ignores ⟨n.topology, hw⟩ hne).lastSerial
  refine ⟨⟨Nat.le_trans h.serial hserial, fun s d hd hid hlive => ?_⟩, fun e howner => ?_⟩
  · rw [Network.polled, put_controllers] at hd
    split at hd
    · cases hd
      exact keep_calm (c.poll_calm ⟨n.topology, hw⟩) seat
    · exact (h.calm s d hd hid hlive).quiet (c.poll_quiet ⟨n.topology, hw⟩)
  · by_cases hid : id = (c.poll ⟨n.topology, hw⟩).1.id
    · exact (h.calm_of_poll_id hc hid).2.poll_owner (s := ⟨n.topology, hw⟩) howner
    · exact (c.poll_ignores ⟨n.topology, hw⟩ hid).owner e howner

/-- An owner that nobody tells that it lost its bus, and that nobody who is going to scan in one of the
seats takes anything from. -/
structure Safe (n : Network) (hw : Hardware) (seats : Seat → Prop) (id : ControllerId) : Prop
    extends n.Retired id where
  told : ∀ s c, n.controllers s = some c → c.id = id → c.disposed = false → id ∉ n.topology.invalidations
  others : ∀ s c, seats s → n.controllers s = some c →
    c.Calm n.topology ∨ ∀ e ∈ c.reach ⟨n.topology, hw⟩, n.topology.owner? e ≠ some id

theorem Safe.extents {seats : Seat → Prop} (h : n.Safe hw seats id) (hextents : hw.KeepsExtents hw') :
    n.Safe hw' seats id := by
  refine ⟨h.toRetired, h.told, fun s c hs hc => ?_⟩
  have hreach : c.reach ⟨n.topology, hw'⟩ = c.reach ⟨n.topology, hw⟩ :=
    Controller.reach_congr rfl rfl (.of_elements rfl rfl rfl) hextents
  rw [hreach]
  exact h.others s c hs hc

/-- Nobody takes anything from a safe owner, and it stays safe. -/
theorem Safe.polled {seats : Seat → Prop} (h : n.Safe hw seats id) (hseat : seats seat)
    (hc : n.controllers seat = some c) : (n.polled hw seat c).Safe hw seats id ∧
      ∀ e, n.topology.owner? e = some id → (n.polled hw seat c).topology.owner? e = some id := by
  obtain ⟨hretired, hgains⟩ := h.toRetired.polled hw hc
  have hquiet := c.poll_quiet ⟨n.topology, hw⟩
  have hkept : (id ∉ n.topology.invalidations → id ∉ (n.polled hw seat c).topology.invalidations) ∧
      ∀ e, n.topology.owner? e = some id → (n.polled hw seat c).topology.owner? e = some id := by
    have hcalm (hcalm : c.Calm n.topology) := And.intro
      (mt ((Controller.Calm.poll (s := ⟨n.topology, hw⟩) hcalm).2 id))
      fun e => hcalm.poll_spares (s := ⟨n.topology, hw⟩) (e := e) fun hid => h.told seat c hc hid hcalm.live
    rcases h.others seat c hseat hc with hcalm' | hfree
    · exact hcalm hcalm'
    · by_cases hid : id = (c.poll ⟨n.topology, hw⟩).1.id
      · exact hcalm (h.calm_of_poll_id hc hid).2
      · obtain ⟨howner, hnotice⟩ := Controller.poll_spares_others (s := ⟨n.topology, hw⟩) hid hfree
        exact ⟨mt hnotice, howner⟩
  refine ⟨⟨hretired, fun s d hd hid hlive => ?_, fun s d hs hd => ?_⟩, hkept.2⟩
  · rw [Network.polled, put_controllers] at hd
    split at hd
    · cases hd
      rw [keep_id] at hid
      obtain ⟨hsame, hcalm⟩ := h.calm_of_poll_id hc hid.symm
      exact hkept.1 (h.told seat c hc hsame hcalm.live)
    · exact hkept.1 (h.told s d hd hid hlive)
  · rw [Network.polled, put_controllers] at hd
    split at hd
    · cases hd
      exact .inl (keep_calm (c.poll_calm ⟨n.topology, hw⟩) seat)
    · refine (h.others s d hs hd).imp (·.quiet hquiet) fun hfree e he howner => ?_
      have hreach : d.reach ⟨(n.polled hw seat c).topology, hw⟩ = d.reach ⟨n.topology, hw⟩ :=
        Controller.reach_congr rfl rfl hquiet.looks (.refl hw)
      rw [hreach] at he
      exact hfree e he (hgains e howner)

/-- A controller that is going to scan. -/
def Due (n : Network) (c : Controller) : Prop :=
  c.disposed = true ∨ c.disposed = false ∧ c.id ∈ n.topology.scanRequests ∧
    c.id ∉ n.topology.invalidations ∧ ∀ e, n.topology.owner? e ≠ some c.id

/-- A controller that is going to scan waits for its poll. -/
theorem Due.polled (h : n.Enrolled) (hdue : n.Due c) {seat' : Seat} {d : Controller}
    (hc : n.controllers seat = some c) (hd : n.controllers seat' = some d) (hne : seat ≠ seat') :
    (n.polled hw seat' d).Due c := by
  rcases hdue with hdisposed | ⟨hlive, hasked, htold, hnone⟩
  · exact .inl hdisposed
  · have hserial (s' : Seat) (c' : Controller) (hc' : n.controllers s' = some c') :=
      (h.controllers s' c' hc').serial
    have hignores := d.poll_ignores ⟨n.topology, hw⟩
      (h.distinct.apart hserial (poll_name hd) seat c hc hne)
    exact .inr ⟨hlive, (hignores.requests hnone).2 (.inl hasked), mt (hignores.notices hnone).1 htold,
      fun e howner => hnone e (hignores.owner e howner)⟩

/-- Its poll takes what it reaches from everybody. -/
theorem Due.poll_takes (h : n.Enrolled) (hdue : n.Due c) (seat : Seat)
    (hid : id.serial ≤ n.topology.lastSerial) {e : ElementId} (he : e ∈ c.reach ⟨n.topology, hw⟩)
    (howner : n.topology.owner? e = some id) :
    (n.polled hw seat c).topology.owner? e ≠ some id := by
  intro hkept
  rw [polled_topology] at hkept
  rcases hdue with hdisposed | ⟨hlive, hasked, -, hnone⟩
  · rw [Controller.poll_takes (s := ⟨n.topology, hw⟩)
      (Controller.absorb_due_of_disposed (s := ⟨n.topology, hw⟩) h.numbered hdisposed) he,
      Controller.poll_id_eq, Controller.revive, if_pos hdisposed] at hkept
    rw [← Option.some.inj hkept] at hid
    exact absurd hid (Nat.not_succ_le_self _)
  · rw [Controller.poll_takes (s := ⟨n.topology, hw⟩)
      ((Controller.absorb_due_iff (s := ⟨n.topology, hw⟩) h.numbered).2 (.inr (.inl hasked))) he,
      Controller.poll_id_eq, Controller.revive_of_live hlive] at hkept
    exact hnone e (howner.trans hkept.symm)

end Network

/-! ## Runs -/

/-- The seat whose controller an operation disposes of. -/
def Op.disposed? : Op → Option Seat
  | .controller i .dispose => some (.host i)
  | .machine i .suspend => some (.machine i)
  | .machine i .finalize => some (.machine i)
  | _ => none

namespace World

variable {w : World} {op : Op} {ops : List Op} {seat d : Seat} {c D : Controller} {id : ControllerId}
  {e : ElementId}

/-- What an operation that disposes of a controller does to the network. -/
theorem network_step_disposed (h : op.disposed? = some d) (hD : w.controllerAt d = some D) :
    (w.step op).2.network =
      w.network.put d (D.dispose w.site.topology).1 (D.dispose w.site.topology).2 := by
  have hactions : w.actions op = [.control d .dispose] := by
    cases op with
    | controller i cop =>
      cases cop with
      | dispose =>
        cases h
        rfl
      | _ => cases h
    | machine i mop => cases mop <;> cases h <;> rfl
    | _ => cases h
  rw [network_step, hactions]
  exact Network.act_control hD w.site.hardware .dispose

theorem stepMachine_extents (w : World) (i : Nat) {mop : MachineOp} (h : ∀ r, mop ≠ .loadRecord r) :
    w.site.hardware.KeepsExtents (w.stepMachine i mop).2.site.hardware := by
  unfold stepMachine
  split
  · exact .refl _
  · next station _ =>
    cases hreplaces : mop.replacesStates with
    | false => exact (station.step_moves w.site hreplaces).extents
    | true =>
      cases mop with
      | loadRecord r => exact absurd rfl (h r)
      | finalize =>
        obtain ⟨m', hmoves, -⟩ : ∃ m', Machine.Moves [] false (station.machine, w.site.hardware)
            (m', (station.machine.finalize w.site).2.hardware) ∧ _ := station.machine.finalize_moves w.site
        exact hmoves.extents
      | _ => cases hreplaces

/-- Disposals and polls change no size and no draw of a device. -/
theorem step_extents (h : op.disposed? = some seat ∨ op.polled? = some seat) :
    w.site.hardware.KeepsExtents (w.step op).2.site.hardware := by
  cases op with
  | controller i cop =>
    show w.site.hardware.KeepsExtents (w.stepController i cop).2.site.hardware
    unfold stepController
    split
    · exact .refl _
    · next c _ =>
      cases cop with
      | poll => exact .of_devices (c.poll_asks w.site).devices
      | scan => exact .of_devices (c.scan_asks w.site).devices
      | _ => exact .refl _
  | machine i mop =>
    refine w.stepMachine_extents i ?_
    rintro r rfl
    rcases h with h | h <;> cases h
  | _ => rcases h with h | h <;> cases h

/-- A poll of a seat polls the controller there, or the seat is empty. -/
theorem step_polled_cases (h : op.polled? = some seat) (w : World) :
    (w.step op).2.network = w.network ∨ ∃ c, w.network.controllers seat = some c ∧
      (w.step op).2.network = w.network.polled w.site.hardware seat c := by
  cases hc : w.controllerAt seat with
  | none => exact .inl (network_step_polled_of_none h hc)
  | some c => exact .inr ⟨c, hc, network_step_polled h hc⟩

theorem step_polled_looks (h : op.polled? = some seat) (w : World) :
    w.site.topology.Looks (w.step op).2.site.topology := by
  show w.network.topology.Looks (w.step op).2.network.topology
  rcases step_polled_cases h w with hsame | ⟨c, -, hstep⟩
  · rw [hsame]
    exact .of_elements rfl rfl rfl
  · rw [hstep]
    exact (c.poll_quiet w.site).looks

/-- Nobody claims under a retired name. -/
theorem run_retired (h : w.network.Retired id) (hops : ∀ op ∈ ops, op.polled?.isSome = true)
    (howner : (w.run ops).site.topology.owner? e = some id) : w.site.topology.owner? e = some id := by
  induction ops generalizing w with
  | nil => exact howner
  | cons op ops ih =>
    obtain ⟨s, hs⟩ := Option.isSome_iff_exists.1 (hops op List.mem_cons_self)
    have hretired : (w.step op).2.network.Retired id ∧
        ((w.step op).2.network.topology.owner? e = some id → w.site.topology.owner? e = some id) := by
      rcases step_polled_cases hs w with hsame | ⟨c, hc, hstep⟩
      · rw [hsame]
        exact ⟨h, fun howner => howner⟩
      · rw [hstep]
        obtain ⟨hretired, hgains⟩ := h.polled w.site.hardware hc
        exact ⟨hretired, hgains e⟩
    exact hretired.2 (ih hretired.1 (fun o ho => hops o (List.mem_cons_of_mem _ ho)) howner)

/-- A safe owner keeps what it owns. -/
theorem run_safe (seats : Seat → Prop) (h : w.network.Safe w.site.hardware seats id)
    (hops : ∀ op ∈ ops, ∃ s, op.polled? = some s ∧ seats s)
    (howner : w.site.topology.owner? e = some id) :
    (w.run ops).site.topology.owner? e = some id := by
  induction ops generalizing w with
  | nil => exact howner
  | cons op ops ih =>
    obtain ⟨s, hs, hseat⟩ := hops op List.mem_cons_self
    have hextents := step_extents (w := w) (.inr hs)
    have hsafe : (w.step op).2.network.Safe (w.step op).2.site.hardware seats id ∧
        (w.step op).2.network.topology.owner? e = some id := by
      rcases step_polled_cases hs w with hsame | ⟨c, hc, hstep⟩
      · rw [hsame]
        exact ⟨h.extents hextents, howner⟩
      · rw [hstep]
        obtain ⟨hsafe, hkeeps⟩ := h.polled hseat hc
        exact ⟨hsafe.extents hextents, hkeeps e howner⟩
    exact ih hsafe.1 (fun o ho => hops o (List.mem_cons_of_mem _ ho)) hsafe.2

/-- What a controller that is going to scan reaches is taken from its owner once it was polled. -/
theorem run_takes (h : w.network.Enrolled) (hops : ∀ op ∈ ops, op.polled?.isSome = true)
    (hpolled : ∃ op ∈ ops, op.polled? = some seat) (hc : w.network.controllers seat = some c)
    (hdue : w.network.Due c) (he : e ∈ c.reach w.site) (hretired : w.network.Retired id)
    (howner : w.site.topology.owner? e = some id) :
    (w.run ops).site.topology.owner? e ≠ some id := by
  induction ops generalizing w with
  | nil =>
    obtain ⟨op, hop, -⟩ := hpolled
    cases hop
  | cons op ops ih =>
    obtain ⟨s, hs⟩ := Option.isSome_iff_exists.1 (hops op List.mem_cons_self)
    have hlater (o : Op) (ho : o ∈ ops) := hops o (List.mem_cons_of_mem _ ho)
    by_cases hseat : s = seat
    · -- the poll of its own seat; nobody gives back what it takes
      subst hseat
      have hstep := network_step_polled hs hc
      have htakes := hdue.poll_takes h s hretired.serial he howner
      intro hkept
      refine htakes ?_
      rw [show w.network.polled w.site.hardware s c = (w.step op).2.network from hstep.symm]
      refine run_retired ?_ hlater hkept
      rw [hstep]
      exact (hretired.polled w.site.hardware hc).1
    · have hrest : ∃ o ∈ ops, o.polled? = some seat := by
        obtain ⟨o, ho, hoseat⟩ := hpolled
        rcases List.mem_cons.1 ho with rfl | ho
        · exact absurd (Option.some.inj (hs.symm.trans hoseat)) hseat
        · exact ⟨o, ho, hoseat⟩
      have hreach : c.reach (w.step op).2.site = c.reach w.site :=
        Controller.reach_congr rfl rfl (step_polled_looks hs w) (step_extents (.inr hs))
      rw [← hreach] at he
      have henrolled : (w.step op).2.network.Enrolled := h.run [op]
      rcases step_polled_cases hs w with hsame | ⟨d, hd, hstep⟩
      · refine ih henrolled hlater hrest ?_ ?_ he ?_ ?_
        · rw [hsame]
          exact hc
        · rw [hsame]
          exact hdue
        · rw [hsame]
          exact hretired
        · show (w.step op).2.network.topology.owner? e = some id
          rw [hsame]
          exact howner
      · have hretired' : (w.step op).2.network.Retired id := by
          rw [hstep]
          exact (hretired.polled w.site.hardware hd).1
        intro hkept
        refine ih henrolled hlater hrest ?_ ?_ he hretired' (run_retired hretired' hlater hkept) hkept
        · rw [hstep, Network.polled, Network.put_controllers, if_neg (Ne.symm hseat)]
          exact hc
        · rw [hstep]
          exact hdue.polled h hc hd (Ne.symm hseat)

/-- A controller that scans at its next poll once another one is disposed of: it was disposed of before,
or it lost its bus and is told to. -/
def Wakes (w : World) (D c : Controller) : Prop :=
  c.disposed = true ∨ D.disposed = false ∧ w.site.topology.isLost c.id = true

/-- Where all controllers in office are settled, an operation disposes of one. -/
structure Disposes (w : World) (disposal : Op) (d : Seat) (D : Controller) : Prop where
  enrolled : w.network.Enrolled
  evicted : w.site.topology.Evicted
  found : w.controllerAt d = some D
  disposal : disposal.disposed? = some d
  settled : ∀ seat c, w.controllerAt seat = some c → c.disposed = false → c.Quiescent w.site.topology

namespace Disposes

variable {disposal : Op} {d : Seat} {D : Controller} (h : w.Disposes disposal d D)

include h

theorem departs : D.Departs w.site.topology (w.step disposal).2.site.topology := by
  rw [show (w.step disposal).2.site.topology = (D.dispose w.site.topology).2 from
    congrArg Network.topology (network_step_disposed h.disposal h.found)]
  exact Controller.dispose_departs (h.enrolled.controllers d D h.found)

theorem controllers (hs : seat ≠ d) :
    (w.step disposal).2.network.controllers seat = w.controllerAt seat := by
  rw [network_step_disposed h.disposal h.found, Network.put_controllers, if_neg hs]
  rfl

theorem reach (c : Controller) : c.reach (w.step disposal).2.site = c.reach w.site :=
  Controller.reach_congr rfl rfl h.departs.looks (step_extents (.inl h.disposal))

theorem ne_of_seat (hs : seat ≠ d) (hc : w.controllerAt seat = some c) : c.id ≠ D.id :=
  fun heq => hs (h.enrolled.distinct seat d c D hc h.found heq)

/-- Who goes by another name sits in another seat. -/
theorem seat_of_ne (hc : (w.step disposal).2.network.controllers seat = some c) (hne : c.id ≠ D.id) :
    seat ≠ d ∧ w.controllerAt seat = some c := by
  have hs : seat ≠ d := by
    rintro rfl
    rw [network_step_disposed h.disposal h.found, Network.put_controllers, if_pos rfl] at hc
    cases hc
    exact hne (D.dispose_id _)
  exact ⟨hs, h.controllers hs ▸ hc⟩

/-- A controller that goes on without being woken is calm. -/
theorem calm (hs : seat ≠ d) (hc : w.controllerAt seat = some c) (hlive : c.disposed = false)
    (hwakes : ¬ w.Wakes D c) : c.Calm (w.step disposal).2.site.topology := by
  have hquiescent := h.settled seat c hc hlive
  refine ⟨hlive, ?_, fun hpending => ?_⟩
  · rw [h.departs.requests c.id (h.ne_of_seat hs hc)]
    exact not_or.2 ⟨hquiescent.requests, fun hlost => hwakes (.inr hlost)⟩
  · rw [hquiescent.scanPending] at hpending
    cases hpending

/-- One that is woken is going to scan. -/
theorem due (hs : seat ≠ d) (hc : w.controllerAt seat = some c) (hwakes : w.Wakes D c) :
    (w.step disposal).2.network.Due c := by
  cases hlive : c.disposed with
  | true => exact .inl hlive
  | false =>
    obtain ⟨hD, hlost⟩ := hwakes.resolve_left (ne_true_of_eq_false hlive)
    have hquiescent := h.settled seat c hc hlive
    have hne := h.ne_of_seat hs hc
    refine .inr ⟨hlive, (h.departs.requests c.id hne).2 (.inr ⟨hD, hlost⟩),
      mt (h.departs.notices c.id) hquiescent.notices, fun e howner => ?_⟩
    exact h.evicted c.id hlost e ((h.departs.owner e c.id hne).1 howner)

/-- An owner lost no bus, so it is not woken, and nobody else takes its name. -/
theorem retired (hne : id ≠ D.id) (howner : w.site.topology.owner? e = some id) :
    (w.step disposal).2.network.Retired id := by
  refine ⟨?_, fun s c hc hid hlive => ?_⟩
  · show id.serial ≤ (w.step disposal).2.site.topology.lastSerial
    rw [h.departs.lastSerial]
    exact Nat.not_lt.1 fun hlt => (h.enrolled.numbered id hlt).owner e howner
  · obtain ⟨hs, hc⟩ := h.seat_of_ne hc (hid ▸ hne)
    refine h.calm hs hc hlive ?_
    rintro (hdisposed | ⟨-, hlost⟩)
    · rw [hdisposed] at hlive
      cases hlive
    · rw [hid] at hlost
      exact h.evicted id hlost e howner

/-- An owner is safe from those that are polled, if none of them is woken and reaches what it owns. -/
theorem safe (hne : id ≠ D.id) (howner : w.site.topology.owner? e = some id) {seats : Seat → Prop}
    (hseats : ∀ s, seats s → s ≠ d)
    (hfree : ∀ s c, seats s → w.controllerAt s = some c → w.Wakes D c →
      ∀ e ∈ c.reach w.site, w.site.topology.owner? e ≠ some id) :
    (w.step disposal).2.network.Safe (w.step disposal).2.site.hardware seats id := by
  refine ⟨h.retired hne howner, fun s c hc hid hlive => ?_, fun s c hseat hc => ?_⟩
  · obtain ⟨-, hc⟩ := h.seat_of_ne hc (hid ▸ hne)
    rw [← hid]
    exact mt (h.departs.notices c.id) (h.settled s c hc hlive).notices
  · rw [h.controllers (hseats s hseat)] at hc
    by_cases hwakes : w.Wakes D c
    · refine .inr fun e he howner => ?_
      rw [show c.reach ⟨(w.step disposal).2.network.topology, (w.step disposal).2.site.hardware⟩ =
        c.reach w.site from h.reach c] at he
      exact hfree s c hseat hc hwakes e he ((h.departs.owner e id hne).1 howner)
    · exact .inl (h.calm (hseats s hseat) hc (eq_false_of_ne_true fun hd => hwakes (.inl hd)) hwakes)

end Disposes

/-- Where all controllers in office are settled, one is disposed of, and then others are polled, nobody
but the one disposed of loses an element exactly if no controller that is polled and scans then reaches
one that somebody else owns. -/
theorem disposal_spares_iff {pre polls : List Op} {disposal : Op} {d : Seat} {D : Controller}
    (hD : (empty.run pre).controllerAt d = some D) (hdisposal : disposal.disposed? = some d)
    (hsettled : ∀ seat c, (empty.run pre).controllerAt seat = some c → c.disposed = false →
      c.Quiescent (empty.run pre).site.topology)
    (hpolls : ∀ op ∈ polls, ∃ seat, op.polled? = some seat ∧ seat ≠ d) :
    let w := empty.run pre
    (∀ e id, id ≠ D.id → w.site.topology.owner? e = some id →
        (w.run (disposal :: polls)).site.topology.owner? e = some id) ↔
      ∀ op ∈ polls, ∀ seat c, op.polled? = some seat → w.controllerAt seat = some c → w.Wakes D c →
        ∀ e ∈ c.reach w.site, ∀ id, w.site.topology.owner? e = some id → id = D.id := by
  intro w
  have h : w.Disposes disposal d D := ⟨run_enrolled pre, run_evicted pre, hD, hdisposal, hsettled⟩
  show (∀ e id, id ≠ D.id → w.site.topology.owner? e = some id →
    ((w.step disposal).2.run polls).site.topology.owner? e = some id) ↔ _
  constructor
  · intro hkept op hop seat c hseat hc hwakes e he id howner
    by_contra hne
    obtain ⟨seat', hseat', hs⟩ := hpolls op hop
    cases hseat.symm.trans hseat'
    rw [← h.reach c] at he
    refine run_takes (h.enrolled.run [disposal]) (fun o ho => ?_) ⟨op, hop, hseat⟩ ((h.controllers hs).trans hc)
      (h.due hs hc hwakes) he (h.retired hne howner) ((h.departs.owner e id hne).2 howner)
      (hkept e id hne howner)
    obtain ⟨s, hs, -⟩ := hpolls o ho
    rw [hs]
    rfl
  · intro hfree e id hne howner
    refine run_safe (fun s => ∃ op ∈ polls, op.polled? = some s) (h.safe hne howner ?_ ?_)
      (fun op hop => ?_) ((h.departs.owner e id hne).2 howner)
    · rintro s ⟨op, hop, hseat⟩
      obtain ⟨seat', hseat', hs⟩ := hpolls op hop
      cases hseat.symm.trans hseat'
      exact hs
    · rintro s c ⟨op, hop, hseat⟩ hc hwakes e he howner
      exact hne (hfree op hop s c hseat hc hwakes e he id howner)
    · obtain ⟨s, hs, -⟩ := hpolls op hop
      exact ⟨s, hs, op, hop, hs⟩

/-- The controllers of a world without machines. -/
theorem forall_controllerAt {P : Controller → Prop} (hmachines : w.stations = [])
    (h : ∀ c ∈ w.controllers, P c) : ∀ seat c, w.controllerAt seat = some c → P c := by
  intro seat c hc
  cases seat with
  | host i => exact h c (List.mem_of_getElem? hc)
  | machine i =>
    rw [controllerAt, hmachines] at hc
    cases hc

/-- The second of two controllers took the bus of the first, which takes it back once the second is
disposed of, and a third one keeps its own. -/
theorem disposal_spares_third :
    let pre : List Op := [.topology (.insert ⟨1⟩ [] []), .topology (.insert ⟨2⟩ [] []),
      .topology (.insert ⟨3⟩ [] []), .topology (.connect ⟨1⟩ none ⟨2⟩ none), .newController ⟨1⟩ {},
      .controller 0 .poll, .newController ⟨2⟩ {}, .controller 1 .poll, .controller 0 .poll,
      .newController ⟨3⟩ {}, .controller 2 .poll]
    let polls : List Op := [.controller 0 .poll, .controller 2 .poll, .controller 0 .poll]
    (∃ D, (empty.run pre).controllerAt (.host 1) = some D ∧ D.id = ⟨2⟩) ∧
      (∀ seat c, (empty.run pre).controllerAt seat = some c → c.disposed = false →
        c.Quiescent (empty.run pre).site.topology) ∧
      (∀ op ∈ polls, ∃ seat, op.polled? = some seat ∧ seat ≠ .host 1) ∧
      (∀ e id, id ≠ ⟨2⟩ → (empty.run pre).site.topology.owner? e = some id →
        ((empty.run pre).run (.controller 1 .dispose :: polls)).site.topology.owner? e = some id) ∧
      [⟨1⟩, ⟨2⟩, ⟨3⟩].map (empty.run pre).site.topology.owner? = [some ⟨2⟩, some ⟨2⟩, some ⟨3⟩] ∧
      [⟨1⟩, ⟨2⟩, ⟨3⟩].map ((empty.run pre).run (.controller 1 .dispose :: polls)).site.topology.owner? =
        [some ⟨1⟩, some ⟨1⟩, some ⟨3⟩] := by
  intro pre polls
  obtain ⟨D, hD, hid⟩ : ∃ D, (empty.run pre).controllerAt (.host 1) = some D ∧ D.id = ⟨2⟩ :=
    Option.map_eq_some_iff.1
      (show ((empty.run pre).controllerAt (.host 1)).map (·.id) = some ⟨2⟩ by decide +kernel)
  have hsettled : ∀ seat c, (empty.run pre).controllerAt seat = some c → c.disposed = false →
      c.Quiescent (empty.run pre).site.topology :=
    forall_controllerAt (show (empty.run pre).stations = [] by decide +kernel) (by decide +kernel)
  have hpolls : ∀ op ∈ polls, ∃ seat, op.polled? = some seat ∧ seat ≠ .host 1 := by
    simp [polls, Op.polled?]
  -- who lost its bus reaches what the second owns, and no more
  have hreach : ∀ seat c, (empty.run pre).controllerAt seat = some c →
      c.disposed = true ∨ (empty.run pre).site.topology.isLost c.id = true →
        ∀ e ∈ c.reach (empty.run pre).site, (empty.run pre).site.topology.owner? e = some ⟨2⟩ :=
    forall_controllerAt (show (empty.run pre).stations = [] by decide +kernel) (by decide +kernel)
  have hspared := (disposal_spares_iff hD (show Op.disposed? (.controller 1 .dispose) = _ from rfl)
    hsettled hpolls).2 fun op _ seat c _ hc hwakes e he id howner => by
      rw [hreach seat c hc (hwakes.imp_right And.right) e he] at howner
      rw [hid]
      exact (Option.some.inj howner).symm
  rw [hid] at hspared
  exact ⟨⟨D, hD, hid⟩, hsettled, hpolls, hspared, by decide +kernel, by decide +kernel⟩

/-- The second of two controllers over one element took it from the first.  A third one, on an element of
its own, is disposed of, and the first takes the element from the second, which was ready. -/
theorem disposal_elsewhere_takes_bus :
    let w := empty.run [.topology (.insert ⟨1⟩ [] []), .topology (.insert ⟨2⟩ [] []),
      .newController ⟨1⟩ {}, .controller 0 .poll, .newController ⟨1⟩ {}, .controller 1 .poll,
      .controller 0 .poll, .newController ⟨2⟩ {}, .controller 2 .poll]
    let w' := w.run [.controller 2 .dispose, .controller 0 .poll]
    (∀ seat c, w.controllerAt seat = some c → c.disposed = false ∧ c.Quiescent w.site.topology) ∧
      w.controllers.map (·.state) = [.error, .ready, .ready] ∧
      [⟨1⟩, ⟨2⟩].map w.site.topology.owner? = [some ⟨2⟩, some ⟨3⟩] ∧
      [⟨1⟩, ⟨2⟩].map w'.site.topology.owner? = [some ⟨1⟩, none] ∧
      (w'.run [.controller 1 .poll]).controllers.map (·.state) = [.ready, .error, .scanning] := by
  intro w w'
  exact ⟨forall_controllerAt rfl (by decide +kernel), by decide +kernel, by decide +kernel, by decide +kernel,
    by decide +kernel⟩

end World

end DeviceBus
