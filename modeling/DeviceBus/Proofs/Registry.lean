import DeviceBus.Proofs.Coherence
import DeviceBus.Proofs.Ownership
import DeviceBus.Proofs.Topology.Neighbours
import DeviceBus.Proofs.Traversal
import Mathlib.Data.List.Induction

/-!
# The registry

Whatever a host does, the tables of the topology stay in order (`Topology.Regular`): an element is in one of
them only, under its own name, with one edge at most to each neighbour and none to itself, and notices of
lost buses are for registered controllers.  A host may also put back an element that an operation handed out,
with the edges that it had (`Depot`).

Requests to scan are not always for registered controllers.  A disposed controller whose scan completes owns
what it found, and is asked to scan when one of these elements is touched.  Nobody takes that request, so it
stays (`Topology.Stray`):

    (∀ id ∈ scanRequests, registered id) ↔ nothing of an owner that is not registered was touched
                                                                                        (registry_law)

As long as no such scan completes, every owner is registered (`Depot.Orderly.sound`).

Names are given in order, so no controller gets a name that one had before (`Network.Grows`).
-/

namespace DeviceBus

open Network (Action)

/-! ## Notices and requests -/

namespace Topology

variable {t t' t'' : Topology} {id id' : ControllerId} {s : Site}

/-- The name is asked to scan, and no controller is registered under it. -/
def Stray (t : Topology) (id : ControllerId) : Prop := id ∈ t.scanRequests ∧ t.isRegistered id = false

/-- Notices of lost buses are for registered controllers. -/
def Notifies (t : Topology) : Prop := ∀ id ∈ t.invalidations, t.isRegistered id = true

/-- Notices go to registered controllers if they did, and the same requests go astray. -/
structure Delivers (t t' : Topology) : Prop where
  notices : t.Notifies → t'.Notifies
  strays : ∀ id, t'.Stray id ↔ t.Stray id

theorem Delivers.refl (t : Topology) : t.Delivers t := ⟨fun h => h, fun _ => .rfl⟩

theorem Delivers.trans (h : t.Delivers t') (h' : t'.Delivers t'') : t.Delivers t'' :=
  ⟨h'.notices ∘ h.notices, fun id => (h'.strays id).trans (h.strays id)⟩

/-- The same are registered, notices are taken at most, and so are requests of registered controllers. -/
theorem Delivers.of_taken (hregistered : ∀ id, t'.isRegistered id = t.isRegistered id)
    (hnotices : ∀ id ∈ t'.invalidations, id ∈ t.invalidations)
    (hrequests : ∀ id, t.isRegistered id = false → (id ∈ t'.scanRequests ↔ id ∈ t.scanRequests)) :
    t.Delivers t' := by
  refine ⟨fun h id hid => ?_, fun id => ?_⟩
  · rw [hregistered]
    exact h id (hnotices id hid)
  · unfold Stray
    rw [hregistered]
    exact and_congr_left (hrequests id)

theorem releaseClaims_delivers (t : Topology) (id : ControllerId) : t.Delivers (t.releaseClaims id) :=
  .of_taken (fun _ => rfl) (fun _ h => h) fun _ _ => .rfl

theorem takeInvalidation_delivers (t : Topology) (id : ControllerId) : t.Delivers (t.takeInvalidation id).2 :=
  .of_taken (fun _ => rfl) (fun _ h => (mem_strike.1 h).1) fun _ _ => .rfl

theorem takeScanRequest_delivers (h : t.isRegistered id = true) : t.Delivers (t.takeScanRequest id).2 := by
  refine .of_taken (fun _ => rfl) (fun _ h => h) fun id' hid' => mem_strike.trans (and_iff_left ?_)
  rintro rfl
  rw [h] at hid'
  cases hid'

/-- A new name was not asked to scan. -/
theorem register_delivers (h : t.Numbered) (root : ElementId) : t.Delivers (t.register root).2 := by
  have hunused := h ⟨t.lastSerial + 1⟩ (Nat.lt_succ_self _)
  refine ⟨fun hnotices id hid => ?_, fun id => ?_⟩
  · rw [isRegistered_register, hnotices id hid, Bool.or_true]
  · show id ∈ t.scanRequests ∧ _ ↔ id ∈ t.scanRequests ∧ _
    refine and_congr_right fun hid => ?_
    have hne : id ≠ ⟨t.lastSerial + 1⟩ := by
      rintro rfl
      exact hunused.requests hid
    rw [isRegistered_register, decide_eq_false hne, Bool.false_or]

/-- The rivals of a claim are registered, and get notices instead of requests. -/
theorem claim_delivers (t : Topology) (id : ControllerId) (es : List ElementId) :
    t.Delivers (t.claim id es) := by
  have hclaims := t.claim_claims id es
  have hrival {id' : ControllerId} (h : id' ∈ t.rivals id es) : t.isRegistered id' = true := (mem_rivals.1 h).2.1
  refine ⟨fun hnotices id' hid' => ?_, fun id' => ?_⟩
  · rw [hclaims.registered]
    rcases (hclaims.invalidations id').1 hid' with hold | hnew
    · exact hnotices id' hold
    · exact hrival hnew
  · unfold Stray
    rw [hclaims.registered, hclaims.requests]
    refine and_congr_left fun hid' => and_iff_left fun hmem => ?_
    rw [hrival hmem] at hid'
    cases hid'

/-- A controller that goes is asked nothing anymore. -/
theorem not_mem_scanRequests_unregister (h : t.isRegistered id = true) :
    id ∉ (t.unregister id).scanRequests := by
  unfold unregister
  rw [if_pos (show t.controllers.contains id = true from h)]
  show id ∉ List.foldl enlist (strike t.scanRequests id) _
  rw [mem_foldl_enlist, not_or]
  refine ⟨fun hmem => (mem_strike.1 hmem).2 rfl, fun hmem => ?_⟩
  -- nor is it among those asked to scan in its place, for it is erased before they are asked
  obtain ⟨⟨id', r⟩, hentry, rfl⟩ := List.mem_map.1 hmem
  have hget := Table.get?_eq_some_iff.2 hentry
  rw [Table.get?_filter, Option.filter_eq_some_iff] at hget
  have hget : (t.controllers.erase id').get? id' = some r := hget.1
  rw [Table.get?_erase_self] at hget
  cases hget

theorem unregister_delivers (h : t.isRegistered id = true) : t.Delivers (t.unregister id) := by
  have hleaves := unregister_leaves h
  refine ⟨fun hnotices id' hid' => ?_, fun id' => ?_⟩
  · obtain ⟨hold, hne⟩ := (hleaves.invalidations id').1 hid'
    rw [hleaves.registered, decide_eq_true hne, hnotices id' hold]
    rfl
  · unfold Stray
    by_cases hne : id' = id
    · subst hne
      refine iff_of_false (fun hstray => not_mem_scanRequests_unregister h hstray.1) fun hstray => ?_
      rw [h] at hstray
      cases hstray.2
    · rw [mem_scanRequests_unregister h hne, hleaves.registered, decide_eq_true hne, Bool.true_and]
      refine and_congr_left fun hid' => or_iff_left fun hlost => ?_
      rw [isRegistered_of_isLost hlost] at hid'
      cases hid'

/-! ### Operations on elements -/

/-- Asking those that some elements concern sends a request astray exactly if the owner of one of them is not
registered. -/
theorem stray_iff_of_concerns {es : List ElementId}
    (hregistered : ∀ id, t'.isRegistered id = t.isRegistered id)
    (hrequests : ∀ id, id ∈ t'.scanRequests ↔ id ∈ t.scanRequests ∨ ∃ x ∈ es, t.Concerns x id)
    (id : ControllerId) :
    t'.Stray id ↔ t.Stray id ∨ ∃ x ∈ es, t.owner? x = some id ∧ t.isRegistered id = false := by
  unfold Stray
  rw [hregistered, hrequests, or_and_right]
  refine or_congr_right ?_
  constructor
  · rintro ⟨⟨x, hx, howner | hroot⟩, hid⟩
    · exact ⟨x, hx, howner, hid⟩
    · rw [isRegistered_eq_isSome, hroot] at hid
      cases hid
  · rintro ⟨x, hx, howner, hid⟩
    exact ⟨⟨x, hx, .inl howner⟩, hid⟩

theorem exists_stray_iff_of_concerns {es : List ElementId}
    (hregistered : ∀ id, t'.isRegistered id = t.isRegistered id)
    (hrequests : ∀ id, id ∈ t'.scanRequests ↔ id ∈ t.scanRequests ∨ ∃ x ∈ es, t.Concerns x id) :
    (∃ id, t'.Stray id) ↔
      (∃ id, t.Stray id) ∨ ∃ x ∈ es, ∃ id, t.owner? x = some id ∧ t.isRegistered id = false := by
  simp only [stray_iff_of_concerns hregistered hrequests, exists_or]
  refine or_congr_right ⟨?_, ?_⟩
  · rintro ⟨id, x, hx, howner⟩
    exact ⟨x, hx, id, howner⟩
  · rintro ⟨x, hx, id, howner⟩
    exact ⟨id, x, hx, howner⟩

theorem step_invalidations (t : Topology) (op : TopologyOp) :
    (t.step op).2.invalidations = t.invalidations := by
  by_cases hop : ∃ e, op = .remove e
  · obtain ⟨e, rfl⟩ := hop
    show (t.remove e).2.invalidations = _
    rcases t.remove_drops e with heq | hdrops
    · rw [heq]
    · exact hdrops.invalidations
  · exact (t.step_calm fun e he => hop ⟨e, he⟩).invalidations

theorem Notifies.step (h : t.Notifies) (op : TopologyOp) : (t.step op).2.Notifies := by
  intro id hid
  rw [step_invalidations] at hid
  rw [(t.step_registrations op).2]
  exact h id hid

theorem Sound.step (h : t.Sound) (op : TopologyOp) : (t.step op).2.Sound := by
  by_cases hop : ∃ x, op = .remove x
  · obtain ⟨x, rfl⟩ := hop
    show (t.remove x).2.Sound
    rcases t.remove_drops x with heq | hdrops
    · rw [heq]
      exact h
    · exact h.drops hdrops
  · exact h.calm (t.step_calm fun x hx => hop ⟨x, hx⟩)

end Topology

/-! ## Controllers -/

namespace Controller

variable {c : Controller} {t : Topology} {s : Site}

theorem scan_delivers (c : Controller) (s : Site) : s.topology.Delivers (c.scan s).2.topology := by
  rcases c.scan_cases s with he | ⟨_, _, _, he⟩ | ⟨visits, _, _, _, -, -, he⟩
  · rw [he]
    exact .refl _
  · rw [he]
    exact s.topology.releaseClaims_delivers c.id
  · rw [he]
    exact s.topology.claim_delivers c.id _

theorem scanIfDue_delivers (c : Controller) (s : Site) : s.topology.Delivers (c.scanIfDue s).2.topology := by
  unfold scanIfDue
  split
  · exact c.scan_delivers s
  · exact .refl _

theorem absorbInvalidation_delivers (c : Controller) (s : Site) :
    s.topology.Delivers (c.absorbInvalidation s).2.topology := by
  have htaken := s.topology.takeInvalidation_delivers c.id
  rcases c.absorbInvalidation_cases s with ⟨-, _, he⟩ | ⟨-, he⟩
  · rw [he]
    exact htaken.trans (Topology.releaseClaims_delivers _ _)
  · rw [he]
    exact htaken

theorem absorbScanRequest_delivers (h : s.topology.isRegistered c.id = true) :
    s.topology.Delivers (c.absorbScanRequest s).2.topology := by
  rcases c.absorbScanRequest_cases s with ⟨-, he⟩ | ⟨-, he⟩ <;>
  · rw [he]
    exact Topology.takeScanRequest_delivers h

theorem revive_delivers (ht : s.topology.Numbered) (c : Controller) :
    s.topology.Delivers (c.revive s).2.topology := by
  unfold revive
  split
  · exact Topology.register_delivers ht c.root
  · exact .refl _

/-- A controller is registered before it looks for requests. -/
theorem poll_delivers (ht : s.topology.Numbered) (h : c.Enrolled s.topology) :
    s.topology.Delivers (c.poll s).2.topology := by
  have hrevived := revive_enrolled ht h
  have hlive := c.revive_disposed s
  rw [poll_eq]
  refine (revive_delivers ht c).trans ?_
  generalize c.revive s = p at hrevived hlive
  obtain ⟨c₁, s₁⟩ := p
  have hregistered : (c₁.absorbInvalidation s₁).2.topology.isRegistered
      (c₁.absorbInvalidation s₁).1.id = true := by
    rw [(absorbInvalidation_enrolled hrevived).isRegistered, absorbInvalidation_disposed, hlive]
    rfl
  exact ((c₁.absorbInvalidation_delivers s₁).trans (absorbScanRequest_delivers hregistered)).trans
    (scanIfDue_delivers _ _)

theorem dispose_delivers (h : c.Enrolled t) : t.Delivers (c.dispose t).2 := by
  have hregistered := h.isRegistered
  unfold dispose
  split
  · exact .refl t
  · next hlive =>
    rw [eq_false_of_ne_true hlive] at hregistered
    exact Topology.unregister_delivers hregistered

/-! ### Owners -/

/-- A scan that completes claims what it visited, for a controller in office. -/
theorem scan_sound (hs : s.topology.Sound) (h : c.Enrolled s.topology)
    (hlive : c.disposed = true → (c.scan s).1.state ≠ .ready) : (c.scan s).2.topology.Sound := by
  rcases c.scan_cases s with he | ⟨_, _, _, he⟩ | ⟨visits, _, _, _, hwalk, -, he⟩
  · rw [he]
    exact hs
  · rw [he]
    exact hs.releaseClaims c.id
  · rw [he] at hlive ⊢
    have hregistered := h.isRegistered
    rw [eq_false_of_ne_true fun hdisposed => hlive hdisposed rfl] at hregistered
    exact hs.claim hregistered (Scan.walk_knows hwalk)

theorem absorb_sound (hs : s.topology.Sound) (c : Controller) : (c.absorb s).2.topology.Sound := by
  have hrevived : (c.revive s).2.topology.Sound := by
    unfold revive
    split
    · exact hs.register c.root
    · exact hs
  have hnoticed {c : Controller} {s : Site} (hs : s.topology.Sound) :
      (c.absorbInvalidation s).2.topology.Sound := by
    rcases c.absorbInvalidation_cases s with ⟨-, _, he⟩ | ⟨-, he⟩
    · rw [he]
      exact (hs.takeInvalidation c.id).releaseClaims c.id
    · rw [he]
      exact hs.takeInvalidation c.id
  have hasked {c : Controller} {s : Site} (hs : s.topology.Sound) :
      (c.absorbScanRequest s).2.topology.Sound := by
    rcases c.absorbScanRequest_cases s with ⟨-, he⟩ | ⟨-, he⟩ <;>
    · rw [he]
      exact hs.takeScanRequest c.id
  exact hasked (hnoticed hrevived)

/-- A poll brings the controller back into office before it scans. -/
theorem poll_sound (hs : s.topology.Sound) (ht : s.topology.Numbered) (h : c.Enrolled s.topology) :
    (c.poll s).2.topology.Sound := by
  have habsorbed := absorb_sound hs c
  have henrolled : (c.absorb s).1.Enrolled (c.absorb s).2.topology :=
    absorbScanRequest_enrolled (absorbInvalidation_enrolled (revive_enrolled ht h))
  have hlive : (c.absorb s).1.disposed = false := by
    unfold absorb
    dsimp only
    rw [absorbScanRequest_disposed, absorbInvalidation_disposed, revive_disposed]
  rw [poll_eq_absorb]
  unfold scanIfDue
  split
  · exact scan_sound habsorbed henrolled fun hdisposed => absurd (hlive.symm.trans hdisposed) Bool.false_ne_true
  · exact habsorbed

theorem dispose_sound (ht : t.Sound) (h : c.Enrolled t) : (c.dispose t).2.Sound := by
  have hregistered := h.isRegistered
  unfold dispose
  split
  · exact ht
  · next hlive =>
    rw [eq_false_of_ne_true hlive] at hregistered
    exact ht.unregister hregistered

/-! ### Names -/

theorem step_lastSerial (c : Controller) (s : Site) (op : ControllerOp) :
    s.topology.lastSerial ≤ (c.step s op).2.2.topology.lastSerial := by
  cases op with
  | poll => exact (c.poll_yields s).lastSerial
  | scan => exact (c.scan_yields s).lastSerial
  | dispose =>
    show _ ≤ (c.dispose s.topology).2.lastSerial
    unfold dispose Topology.unregister
    split
    · exact Nat.le_refl _
    · dsimp only
      split <;> exact Nat.le_refl _
  | scheduleScan => exact Nat.le_refl _
  | takeChanges => exact Nat.le_refl _

/-- A controller keeps its name until it comes back into office, and then gets a new one. -/
theorem step_name (c : Controller) (s : Site) (op : ControllerOp) :
    s.topology.lastSerial < (c.step s op).2.1.id.serial ∨
      (c.step s op).2.1.id = c.id ∧ (c.disposed = true → (c.step s op).2.1.disposed = true) := by
  cases op with
  | poll =>
    show _ < (c.poll s).1.id.serial ∨ (c.poll s).1.id = c.id ∧ _
    rw [poll_id_eq]
    cases hdisposed : c.disposed with
    | true =>
      rw [revive, if_pos hdisposed]
      exact .inl (Nat.lt_succ_self _)
    | false =>
      rw [revive_of_live hdisposed]
      exact .inr ⟨rfl, fun h => absurd h Bool.false_ne_true⟩
  | scan => exact .inr ⟨c.scan_id s, fun h => (c.scan_disposed s).trans h⟩
  | scheduleScan => exact .inr ⟨rfl, fun h => h⟩
  | dispose => exact .inr ⟨c.dispose_id s.topology, fun _ => c.dispose_disposed s.topology⟩
  | takeChanges => exact .inr ⟨rfl, fun h => h⟩

end Controller

/-! ## Networks -/

namespace Network

variable {n n' n'' : Network}

theorem act_delivers (h : n.Enrolled) (hw : Hardware) {a : Action} (ha : ∀ op, a ≠ .topology op) :
    n.topology.Delivers (n.act hw a).topology := by
  cases a with
  | topology op => exact absurd rfl (ha op)
  | join seat root config =>
    cases hseat : n.controllers seat with
    | some c =>
      simp only [act, hseat]
      exact .refl _
    | none =>
      rw [act_join hseat]
      exact Topology.register_delivers h.numbered root
  | restore seat members =>
    cases hc : n.controllers seat with
    | none =>
      simp only [act, hc]
      exact .refl _
    | some c =>
      rw [act_restore hc]
      exact .refl _
  | control seat op =>
    cases hc : n.controllers seat with
    | none =>
      simp only [act, hc]
      exact .refl _
    | some c =>
      have henrolled := h.controllers seat c hc
      rw [act_control hc]
      cases op with
      | poll => exact Controller.poll_delivers (s := ⟨n.topology, hw⟩) h.numbered henrolled
      | scan => exact c.scan_delivers ⟨n.topology, hw⟩
      | dispose => exact Controller.dispose_delivers henrolled
      | scheduleScan => exact .refl _
      | takeChanges => exact .refl _

/-- Owners stay registered, unless a scan of a disposed controller completes. -/
theorem act_sound (h : n.Enrolled) (hs : n.topology.Sound) {hw : Hardware} {a : Action}
    (ha : ∀ seat c, a = .control seat .scan → n.controllers seat = some c → c.disposed = true →
      (c.scan ⟨n.topology, hw⟩).1.state ≠ .ready) : (n.act hw a).topology.Sound := by
  cases a with
  | topology op => exact hs.step op
  | join seat root config =>
    cases hseat : n.controllers seat with
    | some c => simpa only [act, hseat] using hs
    | none =>
      rw [act_join hseat]
      exact hs.register root
  | restore seat members =>
    cases hc : n.controllers seat with
    | none => simpa only [act, hc] using hs
    | some c =>
      rw [act_restore hc]
      exact hs
  | control seat op =>
    cases hc : n.controllers seat with
    | none => simpa only [act, hc] using hs
    | some c =>
      have henrolled := h.controllers seat c hc
      rw [act_control hc]
      cases op with
      | poll => exact Controller.poll_sound (s := ⟨n.topology, hw⟩) hs h.numbered henrolled
      | scan => exact Controller.scan_sound (s := ⟨n.topology, hw⟩) hs henrolled (ha seat c rfl hc)
      | dispose => exact Controller.dispose_sound hs henrolled
      | scheduleScan => exact hs
      | takeChanges => exact hs

/-- Names are given in order: a controller has the name it had, or one that comes after all that were given.
One that comes back into office has a new name. -/
structure Grows (n n' : Network) : Prop where
  lastSerial : n.topology.lastSerial ≤ n'.topology.lastSerial
  names : ∀ seat c, n'.controllers seat = some c → n.topology.lastSerial < c.id.serial ∨
    ∃ c₀, n.controllers seat = some c₀ ∧ c.id = c₀.id ∧ (c₀.disposed = true → c.disposed = true)

theorem Grows.refl (n : Network) : n.Grows n :=
  ⟨Nat.le_refl _, fun _ c hc => .inr ⟨c, hc, rfl, fun h => h⟩⟩

theorem Grows.trans (h : n.Grows n') (h' : n'.Grows n'') : n.Grows n'' := by
  refine ⟨Nat.le_trans h.lastSerial h'.lastSerial, fun seat c hc => ?_⟩
  rcases h'.names seat c hc with hnew | ⟨c₁, hc₁, hid₁, hdisposed₁⟩
  · exact .inl (Nat.lt_of_le_of_lt h.lastSerial hnew)
  · rcases h.names seat c₁ hc₁ with hnew | ⟨c₀, hc₀, hid₀, hdisposed₀⟩
    · exact .inl (hid₁ ▸ hnew)
    · exact .inr ⟨c₀, hc₀, hid₁.trans hid₀, hdisposed₁ ∘ hdisposed₀⟩

theorem act_lastSerial (n : Network) (hw : Hardware) (a : Action) :
    n.topology.lastSerial ≤ (n.act hw a).topology.lastSerial := by
  cases a with
  | topology op => exact Nat.le_of_eq (n.topology.step_registrations op).1.symm
  | join seat root config =>
    unfold act
    dsimp only
    split
    · exact Nat.le_refl _
    · exact Nat.le_succ _
  | restore seat members =>
    unfold act
    dsimp only
    split <;> exact Nat.le_refl _
  | control seat op =>
    unfold act
    dsimp only
    split
    · exact Nat.le_refl _
    · next c _ => exact c.step_lastSerial ⟨n.topology, hw⟩ op

theorem act_grows (n : Network) (hw : Hardware) (a : Action) : n.Grows (n.act hw a) := by
  refine ⟨n.act_lastSerial hw a, fun seat c hc => ?_⟩
  cases hseat : n.controllers seat with
  | none =>
    rcases act_vacant hw a hseat with hnone | ⟨root, config, hnew⟩
    · rw [hnone] at hc
      cases hc
    · rw [hnew] at hc
      cases hc
      exact .inl (Nat.lt_succ_self _)
  | some c₀ =>
    obtain ⟨c', hc', hcases⟩ := act_seated hw a hseat
    rw [hc', Option.some.injEq] at hc
    subst hc
    rcases hcases with rfl | ⟨op, -, rfl⟩ | ⟨members, -, rfl⟩
    · exact .inr ⟨c', rfl, rfl, fun h => h⟩
    · exact (c₀.step_name ⟨n.topology, hw⟩ op).imp_right fun hsame => ⟨c₀, rfl, hsame⟩
    · exact .inr ⟨c₀, rfl, rfl, fun h => h⟩

end Network

/-! ## Worlds -/

namespace World

variable {w : World} {op : Op}

theorem step_delivers (h : w.network.Enrolled) (hop : ∀ top, op ≠ .topology top) :
    w.site.topology.Delivers (w.step op).2.site.topology := by
  have hboth : (w.step op).2.network.Enrolled ∧ w.site.topology.Delivers (w.step op).2.network.topology :=
    w.step_induction (I := fun n => n.Enrolled ∧ w.site.topology.Delivers n.topology)
      (fun n a ha hn => ⟨hn.1.act _ a, hn.2.trans (Network.act_delivers hn.1 _ fun top heq =>
        hop top (eq_of_topology_mem_actions (heq ▸ ha)))⟩) ⟨h, .refl _⟩
  exact hboth.2

/-- Only the host has a controller scan out of turn. -/
theorem exists_of_scan_mem_actions {seat : Seat} (h : .control seat .scan ∈ w.actions op) :
    ∃ i, op = .controller i .scan := by
  cases op with
  | machine i mop => cases mop <;> simp [actions, MachineOp.actions] at h
  | controller i cop =>
    cases List.mem_singleton.1 h
    exact ⟨i, rfl⟩
  | _ => simp [actions] at h

theorem step_sound (h : w.network.Enrolled) (hs : w.site.topology.Sound)
    (hscan : ∀ i, op = .controller i .scan → ¬ w.ScansDisposed i) : (w.step op).2.site.topology.Sound := by
  show (w.step op).2.network.topology.Sound
  by_cases hop : ∃ i, op = .controller i .scan
  · obtain ⟨i, rfl⟩ := hop
    rw [network_step]
    show (w.network.act w.site.hardware (.control (.host i) .scan)).topology.Sound
    refine Network.act_sound h hs fun seat c heq hc hdisposed hready => ?_
    cases heq
    exact hscan i rfl ⟨c, hc, hdisposed, hready⟩
  · have hboth : (w.step op).2.network.Enrolled ∧ (w.step op).2.network.topology.Sound := by
      refine w.step_induction (I := fun n => n.Enrolled ∧ n.topology.Sound) (fun n a ha hn => ?_) ⟨h, hs⟩
      refine ⟨hn.1.act _ a, Network.act_sound hn.1 hn.2 fun seat c heq _ _ _ => ?_⟩
      exact hop (exists_of_scan_mem_actions (heq ▸ ha))
    exact hboth.2

theorem step_grows (w : World) (op : Op) : w.network.Grows (w.step op).2.network :=
  w.step_induction (I := fun n => w.network.Grows n) (fun n a _ hn => hn.trans (n.act_grows _ a)) (.refl _)

theorem step_notifies (h : w.network.Enrolled) (hnotifies : w.site.topology.Notifies) (op : Op) :
    (w.step op).2.site.topology.Notifies := by
  by_cases hop : ∃ top, op = .topology top
  · obtain ⟨top, rfl⟩ := hop
    exact hnotifies.step top
  · exact (step_delivers h fun top heq => hop ⟨top, heq⟩).notices hnotifies

theorem step_properEdges (h : w.site.topology.ProperEdges) (hapart : w.site.topology.Apart)
    (hproper : ∀ e, op = .topology (.putBack e) → Edge.Proper e.id e.edges) :
    (w.step op).2.site.topology.ProperEdges := by
  by_cases hop : ∃ top, op = .topology top
  · obtain ⟨top, rfl⟩ := hop
    exact h.step hapart fun e heq => hproper e (congrArg _ heq)
  · exact h.thins (w.step_sameEdges fun top heq => hop ⟨top, heq⟩).thins

end World

/-- The element that an operation hands out. -/
def Answer.element? : Answer → Option Element
  | .element e => e
  | _ => none

theorem Station.step_element? (station : Station) (s : Site) (op : MachineOp) :
    (station.step s op).1.element? = none := by
  cases op with
  | readMemory address count =>
    show (Station.readMemory station.machine address count s.hardware).1.element? = none
    unfold Station.readMemory
    split <;> rfl
  | writeMemory address data =>
    show (Station.writeMemory station.machine address data s.hardware).1.element? = none
    unfold Station.writeMemory
    split <;> rfl
  | _ => rfl

/-- Only operations on elements hand elements out, and what they hand out was known. -/
theorem World.known?_of_answer {w : World} {op : Op} {e : Element} (h : (w.step op).1.element? = some e) :
    ∃ x, w.site.topology.known? x = some e := by
  cases op with
  | topology top =>
    cases top with
    | insert x blocked devices => exact ⟨x, Topology.known?_of_loaded h⟩
    | putBack element => exact ⟨element.id, Topology.known?_of_loaded h⟩
    | remove x =>
      refine ⟨x, ?_⟩
      have hremoved : (w.site.topology.remove x).1 = w.site.topology.known? x := by
        unfold Topology.remove
        split
        · next hnone => exact hnone.symm
        · next hsome => exact hsome.symm
      rw [← hremoved]
      exact h
    | _ => cases h
  | machine i mop =>
    have hnone : (w.stepMachine i mop).1.element? = none := by
      unfold stepMachine
      split
      · rfl
      · exact Station.step_element? _ _ _
    exact nomatch hnone.symm.trans h
  | controller i cop =>
    have hnone : (w.stepController i cop).1.element? = none := by
      unfold stepController
      split
      · rfl
      · cases cop <;> rfl
    exact nomatch hnone.symm.trans h
  | device handle dop =>
    have hnone : (w.stepDevice handle dop).1.element? = none := by
      unfold stepDevice
      cases dop with
      | writeStorage offset data =>
        dsimp only
        split <;> rfl
      | _ => rfl
    exact nomatch hnone.symm.trans h
  | _ => cases h

/-! ## Depots -/

/-- A world, and the elements that were handed out of it. -/
structure Depot where
  world : World
  shelf : List Element

namespace Depot

/-- An operation of the host, which may keep what it is given. -/
inductive Op where
  | world (op : DeviceBus.Op)
  /-- An element of the shelf is put back, with more blocked sides and devices. -/
  | putBack (index : Nat) (blocked : List Side) (devices : List DeviceRef)

/-- The world without elements, and nothing on the shelf. -/
def empty : Depot := ⟨World.empty, []⟩

/-- The topology. -/
abbrev topology (d : Depot) : Topology := d.world.site.topology

/-- An element with more blocked sides and devices. -/
def extend (e : Element) (blocked : List Side) (devices : List DeviceRef) : Element :=
  { e with blocked := e.blocked ++ blocked, devices := e.devices ++ devices }

/-- What an operation is in the world, if it is anything: elements are put back from the shelf only. -/
def opens? (d : Depot) : Op → Option DeviceBus.Op
  | .world (.topology (.putBack _)) => none
  | .world op => some op
  | .putBack i blocked devices =>
    d.shelf[i]?.map fun e => .topology (.putBack (extend e blocked devices))

/-- The depot after an operation. -/
def step (d : Depot) (op : Op) : Depot :=
  match d.opens? op with
  | none => d
  | some op =>
    let (answer, world) := d.world.step op
    ⟨world, d.shelf ++ answer.element?.toList⟩

/-- The depot after a list of operations. -/
def run (d : Depot) (ops : List Op) : Depot := ops.foldl step d

/-- The elements whose owners and roots an operation asks for. -/
def touched (d : Depot) (op : Op) : List ElementId :=
  match d.opens? op with
  | some (.topology op) => d.topology.touched op
  | _ => []

/-- An operation touches an element whose owner is not registered. -/
def Stirs (d : Depot) (op : Op) : Prop :=
  ∃ x ∈ d.touched op, ∃ id, d.topology.owner? x = some id ∧ d.topology.isRegistered id = false

/-- The tables are in order, and what is on the shelf can be put back. -/
structure Kept (d : Depot) : Prop where
  enrolled : d.world.network.Enrolled
  filed : d.topology.Filed
  edges : d.topology.ProperEdges
  notifies : d.topology.Notifies
  shelf : ∀ e ∈ d.shelf, Edge.Proper e.id e.edges

variable {d : Depot} {op : Op} {wop : DeviceBus.Op}

/-- What comes from the shelf has the name and the edges of an element there. -/
theorem exists_of_opens?_putBack {e : Element} (h : d.opens? op = some (.topology (.putBack e))) :
    ∃ e₀ ∈ d.shelf, e.id = e₀.id ∧ e.edges = e₀.edges := by
  cases op with
  | world wop =>
    unfold opens? at h
    split at h
    · cases h
    · next hother heq =>
      cases h
      cases heq
      exact absurd rfl (hother e)
    · next heq => cases heq
  | putBack i blocked devices =>
    obtain ⟨e₀, he₀, heq⟩ := Option.map_eq_some_iff.1 h
    cases heq
    exact ⟨e₀, List.mem_of_getElem? he₀, rfl, rfl⟩

theorem eq_of_opens?_scan {i : Nat} (h : d.opens? op = some (.controller i .scan)) :
    op = .world (.controller i .scan) := by
  cases op with
  | world wop =>
    unfold opens? at h
    split at h
    · cases h
    · next heq =>
      cases h
      exact heq
    · next heq => cases heq
  | putBack j blocked devices =>
    obtain ⟨_, -, heq⟩ := Option.map_eq_some_iff.1 h
    cases heq

/-- An operation that opens onto the world is that operation on the world. -/
theorem step_of_opens? (h : d.opens? op = some wop) :
    d.step op = ⟨(d.world.step wop).2, d.shelf ++ (d.world.step wop).1.element?.toList⟩ := by
  unfold step
  rw [h]

theorem step_of_opens?_eq_none (h : d.opens? op = none) : d.step op = d := by
  unfold step
  rw [h]

theorem kept_empty : empty.Kept := by
  refine ⟨World.run_enrolled [], Topology.filed_empty, ?_, ?_, ?_⟩
  · exact fun _ _ h => nomatch h
  · exact fun _ h => nomatch h
  · exact fun _ h => nomatch h

theorem Kept.proper (h : d.Kept) {x : ElementId} {e : Element} (he : d.topology.known? x = some e) :
    Edge.Proper e.id e.edges := by
  rw [h.filed.named x e he]
  exact h.edges x e he

theorem Kept.step (h : d.Kept) (op : Op) : (d.step op).Kept := by
  cases hopens : d.opens? op with
  | none =>
    rw [step_of_opens?_eq_none hopens]
    exact h
  | some wop =>
    rw [step_of_opens? hopens]
    refine ⟨h.enrolled.run [wop], ?_, World.step_properEdges h.edges h.filed.apart ?_,
      World.step_notifies h.enrolled h.notifies wop, fun e he => ?_⟩
    · exact d.world.step_induction (I := fun n => n.topology.Filed) (fun n a _ hn => Network.act_filed hn _ a)
        h.filed
    · rintro e rfl
      obtain ⟨e₀, he₀, hid, hedges⟩ := exists_of_opens?_putBack hopens
      rw [hid, hedges]
      exact h.shelf e₀ he₀
    · rcases List.mem_append.1 he with hold | hnew
      · exact h.shelf e hold
      · obtain ⟨x, hx⟩ := World.known?_of_answer (Option.mem_toList.1 hnew)
        exact h.proper hx

/-! ### Requests -/

/-- A request goes astray exactly if the operation touches an element whose owner is not registered. -/
theorem stray_step (h : d.Kept) (op : Op) : (∃ id, (d.step op).topology.Stray id) ↔
    (∃ id, d.topology.Stray id) ∨ d.Stirs op := by
  unfold Stirs touched
  cases hopens : d.opens? op with
  | none =>
    rw [step_of_opens?_eq_none hopens]
    exact (or_iff_left fun ⟨x, hx, _⟩ => nomatch hx).symm
  | some wop =>
    rw [step_of_opens? hopens]
    cases wop with
    | topology top =>
      exact Topology.exists_stray_iff_of_concerns (d.topology.step_registrations top).2
        (d.topology.mem_scanRequests_step top)
    -- all other operations ask registered controllers only
    | _ =>
      rw [or_iff_left fun ⟨x, hx, _⟩ => absurd hx List.not_mem_nil]
      exact exists_congr (World.step_delivers h.enrolled fun top heq => by cases heq).strays

/-! ### Runs -/

theorem run_snoc (d : Depot) (ops : List Op) (op : Op) : d.run (ops ++ [op]) = (d.run ops).step op := by
  simp [run]

theorem run_append (d : Depot) (ops ops' : List Op) : d.run (ops ++ ops') = (d.run ops).run ops' :=
  List.foldl_append

/-- In every run the tables stay in order. -/
theorem run_kept (ops : List Op) : (empty.run ops).Kept := by
  induction ops using List.reverseRecOn with
  | nil => exact kept_empty
  | append_singleton ops op ih =>
    rw [run_snoc]
    exact ih.step op

/-- No operation of the run touches an element whose owner is not registered. -/
def Unstirred (ops : List Op) : Prop := ∀ pre op, pre ++ [op] <+: ops → ¬ (empty.run pre).Stirs op

theorem unstirred_snoc {ops : List Op} {op : Op} :
    Unstirred (ops ++ [op]) ↔ Unstirred ops ∧ ¬ (empty.run ops).Stirs op := by
  constructor
  · intro h
    exact ⟨fun pre op' hpre => h pre op' (hpre.trans (List.prefix_append _ _)), h ops op (List.prefix_refl _)⟩
  · rintro ⟨hbefore, hlast⟩ pre op' hpre
    rcases List.prefix_concat_iff.1 hpre with heq | hpre
    · obtain ⟨rfl, hop⟩ := List.append_inj' heq rfl
      cases hop
      exact hlast
    · exact hbefore pre op' hpre

/-- A request that went astray stays, for nobody takes it. -/
theorem run_strays (ops : List Op) : (∃ id, (empty.run ops).topology.Stray id) ↔ ¬ Unstirred ops := by
  induction ops using List.reverseRecOn with
  | nil =>
    refine iff_of_false (fun ⟨_, hmem, _⟩ => nomatch hmem) (not_not_intro fun pre op hpre => ?_)
    exact absurd (List.prefix_nil.1 hpre) (by simp)
  | append_singleton ops op ih =>
    rw [run_snoc, stray_step (run_kept ops), ih, unstirred_snoc, not_and_or, not_not]

/-- No scan of a disposed controller completes in the run. -/
def Orderly (ops : List Op) : Prop :=
  ∀ pre i, pre ++ [.world (.controller i .scan)] <+: ops → ¬ (empty.run pre).world.ScansDisposed i

theorem Orderly.of_prefix {ops pre : List Op} (h : Orderly ops) (hpre : pre <+: ops) : Orderly pre :=
  fun pre' i hpre' => h pre' i (hpre'.trans hpre)

/-- As long as controllers scan in office, the owners of elements are registered. -/
theorem Orderly.sound {ops : List Op} (h : Orderly ops) : (empty.run ops).topology.Sound := by
  induction ops using List.reverseRecOn with
  | nil => exact Topology.sound_empty
  | append_singleton ops op ih =>
    have hbefore := ih (h.of_prefix (List.prefix_append _ _))
    rw [run_snoc]
    cases hopens : (empty.run ops).opens? op with
    | none =>
      rw [step_of_opens?_eq_none hopens]
      exact hbefore
    | some wop =>
      rw [step_of_opens? hopens]
      refine World.step_sound (run_kept ops).enrolled hbefore ?_
      rintro i rfl
      rw [eq_of_opens?_scan hopens] at h
      exact h ops i (List.prefix_refl _)

theorem Orderly.unstirred {ops : List Op} (h : Orderly ops) : Unstirred ops := by
  rintro pre op hpre ⟨x, -, id, howner, hid⟩
  have hsound := (h.of_prefix ((List.prefix_append _ _).trans hpre)).sound
  rw [hsound.registered x id howner] at hid
  cases hid

/-! ### Names -/

theorem step_grows (d : Depot) (op : Op) : d.world.network.Grows (d.step op).world.network := by
  cases hopens : d.opens? op with
  | none =>
    rw [step_of_opens?_eq_none hopens]
    exact .refl _
  | some wop =>
    rw [step_of_opens? hopens]
    exact d.world.step_grows wop

theorem run_grows (d : Depot) (ops : List Op) : d.world.network.Grows (d.run ops).world.network := by
  induction ops generalizing d with
  | nil => exact .refl _
  | cons op ops ih => exact (d.step_grows op).trans (ih _)

/-- The operation gives the controller in a seat a name that the seat did not have before. -/
def Names (d : Depot) (op : Op) (seat : Seat) (id : ControllerId) : Prop :=
  (∃ c, (d.step op).world.controllerAt seat = some c ∧ c.id = id) ∧
    ∀ c₀, d.world.controllerAt seat = some c₀ → c₀.id ≠ id

/-- The names that an operation gives after a run are new. -/
structure FreshNames (ops : List Op) (op : Op) : Prop where
  /-- No controller had the name at any point before. -/
  fresh : ∀ seat id, (empty.run ops).Names op seat id → ∀ pre, pre <+: ops →
    ∀ seat' c, (empty.run pre).world.controllerAt seat' = some c → c.id ≠ id
  /-- One controller only gets it. -/
  once : ∀ seat seat' id, (empty.run ops).Names op seat id → (empty.run ops).Names op seat' id → seat = seat'
  /-- A controller that comes back into office gets one. -/
  revived : ∀ seat c₀ c, (empty.run ops).world.controllerAt seat = some c₀ → c₀.disposed = true →
    ((empty.run ops).step op).world.controllerAt seat = some c → c.disposed = false →
      (empty.run ops).Names op seat c.id

theorem freshNames (ops : List Op) (op : Op) : FreshNames ops op := by
  have hgrows := (empty.run ops).step_grows op
  have hkept := run_kept ops
  refine ⟨?_, ?_, ?_⟩
  · rintro seat id ⟨⟨c, hc, rfl⟩, hdifferent⟩ pre ⟨post, rfl⟩ seat' c' hc' heq
    rcases hgrows.names seat c hc with hnew | ⟨c₀, hc₀, hsame, -⟩
    -- a new name comes after all that were given up to now, and so after those given up to then
    · have hold := ((run_kept pre).enrolled.controllers seat' c' hc').serial
      have hlater := ((empty.run pre).run_grows post).lastSerial
      rw [run_append] at hnew
      rw [heq] at hold
      exact absurd (Nat.lt_of_lt_of_le hnew hold) (Nat.not_lt.2 hlater)
    · exact hdifferent c₀ hc₀ hsame.symm
  · rintro seat seat' id ⟨⟨c, hc, rfl⟩, -⟩ ⟨⟨c', hc', hid⟩, -⟩
    exact (hkept.step op).enrolled.distinct seat seat' c c' hc hc' hid.symm
  · intro seat c₀ c hc₀ hdisposed hc hlive
    rcases hgrows.names seat c hc with hnew | ⟨c₁, hc₁, -, hstays⟩
    · refine ⟨⟨c, hc, rfl⟩, fun c₁ hc₁ heq => ?_⟩
      have hold := (hkept.enrolled.controllers seat c₁ hc₁).serial
      rw [heq] at hold
      exact absurd hnew (Nat.not_lt.2 hold)
    · rw [show (empty.run ops).world.network.controllers seat = some c₀ from hc₀, Option.some.injEq] at hc₁
      rw [hstays (hc₁ ▸ hdisposed)] at hlive
      cases hlive

end Depot

/-- The tables of a topology are in order. -/
structure Topology.Regular (t : Topology) : Prop where
  /-- No element is loaded and unloaded. -/
  apart : ∀ x, t.loaded.contains x = true → t.unloaded.contains x = false
  /-- Elements are under their own names. -/
  named : ∀ x e, t.loaded.get? x = some e ∨ t.unloaded.get? x = some e → e.id = x
  /-- They have one edge at most to each neighbour, and none to themselves. -/
  edges : ∀ x e, t.loaded.get? x = some e ∨ t.unloaded.get? x = some e → Edge.Proper x e.edges
  /-- Notices of lost buses are for registered controllers. -/
  notices : ∀ id ∈ t.invalidations, t.isRegistered id = true

namespace Depot

theorem Kept.regular {d : Depot} (h : d.Kept) : d.topology.Regular := by
  have hknown {x : ElementId} {e : Element}
      (he : d.topology.loaded.get? x = some e ∨ d.topology.unloaded.get? x = some e) :
      d.topology.known? x = some e :=
    he.elim Topology.known?_of_loaded (Topology.known?_of_unloaded h.filed.apart)
  exact ⟨h.filed.apart, fun x e he => h.filed.named x e (hknown he), fun x e he => h.edges x e (hknown he),
    h.notifies⟩

/-- In every run the tables stay in order and names are given once.  Requests to scan are for registered
controllers as well, exactly as long as nothing is touched whose owner is not registered.  There is no such
owner before a scan of a disposed controller completes. -/
theorem registry_law (ops : List Op) :
    (empty.run ops).topology.Regular ∧
      ((∀ id ∈ (empty.run ops).topology.scanRequests, (empty.run ops).topology.isRegistered id = true) ↔
        Unstirred ops) ∧
      (Orderly ops → Unstirred ops) ∧ ∀ op, FreshNames ops op := by
  refine ⟨(run_kept ops).regular, ?_, Orderly.unstirred, freshNames ops⟩
  rw [← not_not (a := Unstirred ops), ← run_strays]
  simp only [Topology.Stray, not_exists, not_and, Bool.not_eq_false]

/-- A controller that scanned after it was disposed is asked to scan, and is not registered. -/
theorem stray_request :
    let ops : List Op := [.world (.topology (.insert ⟨1⟩ [] [])), .world (.newController ⟨1⟩ {}),
      .world (.controller 0 .dispose), .world (.controller 0 .scan), .world (.topology (.markDirty ⟨1⟩))]
    ⟨1⟩ ∈ (empty.run ops).topology.scanRequests ∧
      (empty.run ops).topology.isRegistered ⟨1⟩ = false := by
  decide

end Depot

end DeviceBus
