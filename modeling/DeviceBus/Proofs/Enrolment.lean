import DeviceBus.Proofs.Network
import DeviceBus.Proofs.Freshness
import DeviceBus.Proofs.Topology.Alerts

/-!
# Enrolment

In every run, whatever scans, disposals and records it has, names are given in order, no two
controllers share one, and a controller that was not disposed is registered under its root
(`World.run_enrolled`).  One that failed owns nothing, so it has no rival and gets no notice, and
nothing but an alert asks it to scan (`Network.Enrolled.act_rouses`).  A poll leaves nothing to be told
to its controller (`Controller.poll_told`).
-/

namespace DeviceBus

namespace Controller

/-- A controller is registered under its root unless it was disposed, and owns nothing once it failed. -/
structure Enrolled (c : Controller) (t : Topology) : Prop where
  serial : c.id.serial ≤ t.lastSerial
  root : t.rootOf? c.id = if c.disposed then none else some c.root
  failed : c.state = .error → ∀ e, t.owner? e ≠ some c.id

variable {c : Controller} {t t' : Topology} {s : Site}

theorem Enrolled.isRegistered (h : c.Enrolled t) : t.isRegistered c.id = !c.disposed := by
  rw [Topology.isRegistered_eq_isSome, h.root]
  cases c.disposed <;> rfl

/-- What does not belong to a controller leaves it enrolled. -/
theorem Enrolled.rouses {alert : Prop} (h : c.Enrolled t) (hrouses : t.Rouses c.id alert t') :
    c.Enrolled t' :=
  ⟨Nat.le_trans h.serial hrouses.lastSerial, hrouses.root.trans h.root,
    fun hfailed e howner => h.failed hfailed e (hrouses.owner e howner)⟩

/-! ## Operations of a controller -/

theorem scan_ignores (c : Controller) (s : Site) {id : ControllerId} (hne : id ≠ c.id) :
    s.topology.Ignores id (c.scan s).2.topology := by
  rcases c.scan_cases s with he | ⟨_, _, _, he⟩ | ⟨visits, _, _, _, -, -, he⟩
  · rw [he]
    exact .refl _ _
  · rw [he]
    exact s.topology.releaseClaims_ignores c.id id
  · rw [he]
    exact s.topology.claim_ignores hne _

theorem absorbInvalidation_ignores (c : Controller) (s : Site) {id : ControllerId} (hne : id ≠ c.id) :
    s.topology.Ignores id (c.absorbInvalidation s).2.topology := by
  have htaken := s.topology.takeInvalidation_ignores hne
  rcases c.absorbInvalidation_cases s with ⟨-, _, he⟩ | ⟨-, he⟩
  · rw [he]
    exact htaken.trans (Topology.releaseClaims_ignores _ _ _)
  · rw [he]
    exact htaken

theorem absorbScanRequest_ignores (c : Controller) (s : Site) {id : ControllerId} (hne : id ≠ c.id) :
    s.topology.Ignores id (c.absorbScanRequest s).2.topology := by
  have htaken := s.topology.takeScanRequest_ignores hne
  rcases c.absorbScanRequest_cases s with ⟨-, he⟩ | ⟨-, he⟩ <;>
  · rw [he]
    exact htaken

theorem revive_ignores (c : Controller) (s : Site) {id : ControllerId} (hne : id ≠ (c.revive s).1.id) :
    s.topology.Ignores id (c.revive s).2.topology := by
  unfold revive at hne ⊢
  split at hne
  · next hdisposed =>
    rw [if_pos hdisposed]
    exact s.topology.register_ignores c.root hne
  · next hlive =>
    rw [if_neg hlive]
    exact .refl _ _

theorem scanIfDue_ignores (c : Controller) (s : Site) {id : ControllerId} (hne : id ≠ c.id) :
    s.topology.Ignores id (c.scanIfDue s).2.topology := by
  unfold scanIfDue
  split
  · exact c.scan_ignores s hne
  · exact .refl _ _

theorem poll_ignores (c : Controller) (s : Site) {id : ControllerId} (hne : id ≠ (c.poll s).1.id) :
    s.topology.Ignores id (c.poll s).2.topology := by
  rw [poll_id_eq] at hne
  have hrevive := c.revive_ignores s hne
  rw [poll_eq]
  generalize c.revive s = p at hne hrevive
  obtain ⟨c₁, s₁⟩ := p
  dsimp only at hne hrevive ⊢
  refine hrevive.trans ?_
  have hnotice := c₁.absorbInvalidation_ignores s₁ hne
  rw [← c₁.absorbInvalidation_id s₁] at hne
  have hrequest := (c₁.absorbInvalidation s₁).1.absorbScanRequest_ignores (c₁.absorbInvalidation s₁).2 hne
  rw [← absorbScanRequest_id _ (c₁.absorbInvalidation s₁).2] at hne
  exact (hnotice.trans hrequest).trans (scanIfDue_ignores _ _ hne)

/-- Those that lost their bus are alerted when a controller goes, unless it went before. -/
theorem dispose_rouses (h : c.Enrolled t) {id : ControllerId} (hne : id ≠ c.id) :
    t.Rouses id (c.disposed = false ∧ t.isLost id = true) (c.dispose t).2 := by
  have hregistered := h.isRegistered
  unfold dispose
  cases hdisposed : c.disposed with
  | true =>
    have hnever : (true = false ∧ t.isLost id = true) = False := by simp
    rw [hnever]
    exact Topology.Ignores.refl t id
  | false =>
    rw [hdisposed] at hregistered
    simpa using Topology.unregister_rouses hregistered hne

/-! ## The controller itself -/

theorem scan_enrolled (h : c.Enrolled s.topology) :
    (c.scan s).1.Enrolled (c.scan s).2.topology := by
  rcases c.scan_cases s with he | ⟨_, _, _, he⟩ | ⟨visits, _, _, _, -, -, he⟩
  · rw [he]
    exact ⟨h.serial, h.root, fun hfailed => nomatch hfailed⟩
  · rw [he]
    exact ⟨h.serial, h.root, fun _ e howner => (Topology.owner?_releaseClaims.1 howner).2 rfl⟩
  · rw [he]
    refine ⟨?_, (s.topology.rootOf?_claim c.id _ c.id).trans h.root, fun hfailed => nomatch hfailed⟩
    exact Nat.le_trans h.serial (Nat.le_of_eq (s.topology.claim_claims c.id _).lastSerial.symm)

theorem revive_enrolled (ht : s.topology.Numbered) (h : c.Enrolled s.topology) :
    (c.revive s).1.Enrolled (c.revive s).2.topology := by
  unfold revive
  split
  · refine ⟨Nat.le_refl _, ?_, fun _ e => ?_⟩
    · exact (s.topology.rootOf?_register c.root _).trans (if_pos rfl)
    · exact (ht ⟨s.topology.lastSerial + 1⟩ (Nat.lt_succ_self _)).owner e
  · exact h

theorem absorbInvalidation_enrolled (h : c.Enrolled s.topology) :
    (c.absorbInvalidation s).1.Enrolled (c.absorbInvalidation s).2.topology := by
  rcases c.absorbInvalidation_cases s with ⟨-, _, he⟩ | ⟨-, he⟩
  · rw [he]
    exact ⟨h.serial, h.root, fun _ e howner => (Topology.owner?_releaseClaims.1 howner).2 rfl⟩
  · rw [he]
    exact ⟨h.serial, h.root, h.failed⟩

theorem absorbScanRequest_enrolled (h : c.Enrolled s.topology) :
    (c.absorbScanRequest s).1.Enrolled (c.absorbScanRequest s).2.topology := by
  rcases c.absorbScanRequest_cases s with ⟨-, he⟩ | ⟨-, he⟩ <;>
  · rw [he]
    exact ⟨h.serial, h.root, h.failed⟩

theorem poll_enrolled (ht : s.topology.Numbered) (h : c.Enrolled s.topology) :
    (c.poll s).1.Enrolled (c.poll s).2.topology := by
  have hrequest := absorbScanRequest_enrolled (absorbInvalidation_enrolled (revive_enrolled ht h))
  rw [poll_eq]
  unfold pollRegistered scanIfDue
  dsimp only
  split
  · exact scan_enrolled hrequest
  · exact hrequest

theorem dispose_enrolled (h : c.Enrolled t) : (c.dispose t).1.Enrolled (c.dispose t).2 := by
  have hregistered := h.isRegistered
  unfold dispose
  split
  · exact h
  · next hlive =>
    rw [eq_false_of_ne_true hlive] at hregistered
    refine ⟨?_, ?_, fun hfailed => nomatch hfailed⟩
    · exact Nat.le_trans h.serial (Nat.le_of_eq (Topology.unregister_leaves hregistered).lastSerial.symm)
    · exact (Topology.rootOf?_unregister hregistered c.id).trans (if_pos rfl)

theorem new_enrolled (ht : t.Numbered) (root : ElementId) (config : Config) :
    (Controller.new t root config).1.Enrolled (Controller.new t root config).2 :=
  ⟨Nat.le_refl _, (t.rootOf?_register root _).trans (if_pos rfl),
    fun _ => (ht ⟨t.lastSerial + 1⟩ (Nat.lt_succ_self _)).owner⟩

/-- A controller that has nothing to be told. -/
structure Told (c : Controller) (t : Topology) : Prop where
  notices : c.id ∉ t.invalidations
  requests : c.id ∉ t.scanRequests

theorem scan_told (h : c.Told s.topology) : (c.scan s).1.Told (c.scan s).2.topology := by
  refine ⟨?_, ?_⟩
  · rw [scan_id, scan_invalidations]
    exact h.notices
  · rw [scan_id]
    exact c.scan_scanRequests s h.requests

theorem pollRegistered_told (c : Controller) (s : Site) :
    (c.pollRegistered s).1.Told (c.pollRegistered s).2.topology := by
  have hnotices : (c.absorbInvalidation s).1.id ∉ (c.absorbInvalidation s).2.topology.invalidations := by
    have hstruck : c.id ∉ (s.topology.takeInvalidation c.id).2.invalidations :=
      fun hmem => (Topology.mem_strike.1 hmem).2 rfl
    rcases c.absorbInvalidation_cases s with ⟨-, _, he⟩ | ⟨-, he⟩ <;>
    · rw [he]
      exact hstruck
  unfold pollRegistered
  dsimp only
  generalize c.absorbInvalidation s = p at hnotices
  obtain ⟨c₁, s₁⟩ := p
  have htold : (c₁.absorbScanRequest s₁).1.Told (c₁.absorbScanRequest s₁).2.topology := by
    have hstruck : c₁.id ∉ (s₁.topology.takeScanRequest c₁.id).2.scanRequests :=
      fun hmem => (Topology.mem_strike.1 hmem).2 rfl
    rcases c₁.absorbScanRequest_cases s₁ with ⟨-, he⟩ | ⟨-, he⟩ <;>
    · rw [he]
      exact ⟨hnotices, hstruck⟩
  unfold scanIfDue
  split
  · exact scan_told htold
  · exact htold

theorem poll_told (c : Controller) (s : Site) : (c.poll s).1.Told (c.poll s).2.topology := by
  rw [poll_eq]
  exact pollRegistered_told _ _

/-- A poll leaves a scan pending only if it was deferred. -/
theorem poll_scanPending (c : Controller) (s : Site) (h : (c.poll s).1.state ≠ .scanning) :
    (c.poll s).1.scanPending = false := by
  rw [poll_eq] at h ⊢
  unfold pollRegistered scanIfDue at h ⊢
  dsimp only at h ⊢
  split at h
  · next hdue =>
    rw [if_pos hdue]
    rcases scan_cases _ _ with he | ⟨_, _, _, he⟩ | ⟨_, _, _, _, -, -, he⟩
    · rw [he] at h
      exact absurd rfl h
    · rw [he]
    · rw [he]
  · next hdue =>
    rw [if_neg hdue]
    exact eq_false_of_ne_true hdue

end Controller

/-! ## Networks -/

/-- Names are given in order and to one controller each, and every controller is enrolled. -/
structure Network.Enrolled (n : Network) : Prop where
  numbered : n.topology.Numbered
  distinct : n.Distinct
  controllers : ∀ seat c, n.controllers seat = some c → c.Enrolled n.topology

namespace Network

variable {n : Network} {hw : Hardware}

/-- A controller takes a seat under a name that is new or was its own before. -/
theorem Enrolled.put (h : n.Enrolled) {seat : Seat} {c : Controller} {t : Topology}
    (hc : c.Enrolled t)
    (hothers : ∀ id, id ≠ c.id →
      ∃ alert, n.topology.Rouses id alert t ∧ (alert → n.topology.rootOf? id ≠ none))
    (hname : n.topology.lastSerial < c.id.serial ∨ ∃ c₀, n.controllers seat = some c₀ ∧ c.id = c₀.id) :
    (n.put seat c t).Enrolled := by
  have happart := h.distinct.apart (fun s d hd => (h.controllers s d hd).serial) hname
  have hlastSerial : n.topology.lastSerial ≤ t.lastSerial := by
    have hne : (⟨c.id.serial + 1⟩ : ControllerId) ≠ c.id :=
      fun heq => Nat.succ_ne_self _ (congrArg ControllerId.serial heq)
    obtain ⟨alert, hrouses, -⟩ := hothers _ hne
    exact hrouses.lastSerial
  refine ⟨h.numbered.rouses hc.serial hlastSerial hothers, h.distinct.put happart t, ?_⟩
  intro s d hd
  rw [put_controllers] at hd
  split at hd
  · cases hd
    exact hc
  · next hs =>
    obtain ⟨alert, hrouses, -⟩ := hothers d.id (happart s d hd hs)
    exact (h.controllers s d hd).rouses hrouses

/-- A poll is under the name of its controller, or under a new one. -/
theorem poll_name {seat : Seat} {c : Controller} (hc : n.controllers seat = some c) :
    n.topology.lastSerial < (c.poll ⟨n.topology, hw⟩).1.id.serial ∨
      ∃ c₀, n.controllers seat = some c₀ ∧ (c.poll ⟨n.topology, hw⟩).1.id = c₀.id :=
  (c.poll_named ⟨n.topology, hw⟩).symm.imp_right fun hid => ⟨c, hc, hid⟩

theorem Enrolled.act (h : n.Enrolled) (hw : Hardware) (a : Action) : (n.act hw a).Enrolled := by
  have hquiet (id : ControllerId) {t : Topology} (ht : n.topology.Ignores id t) :
      ∃ alert, n.topology.Rouses id alert t ∧ (alert → n.topology.rootOf? id ≠ none) :=
    ⟨False, ht, False.elim⟩
  cases a with
  | topology op =>
    refine ⟨?_, h.distinct, fun seat c hc => (h.controllers seat c hc).rouses (n.topology.step_rouses op c.id)⟩
    intro id hid
    have hrouses := n.topology.step_rouses op id
    have hunused := h.numbered id (Nat.lt_of_le_of_lt hrouses.lastSerial hid)
    refine ⟨fun e howner => hunused.owner e (hrouses.owner e howner), hrouses.root.trans hunused.root, ?_, ?_⟩
    · exact mt (hrouses.notices hunused.owner).1 hunused.notices
    · refine mt (hrouses.requests hunused.owner).1 (not_or.2 ⟨hunused.requests, ?_⟩)
      rintro ⟨e, -, hroot⟩
      rw [hunused.root] at hroot
      cases hroot
  | join seat root config =>
    cases hseat : n.controllers seat with
    | some c => simpa only [Network.act, hseat] using h
    | none =>
      rw [act_join hseat]
      refine h.put (Controller.new_enrolled h.numbered root config) ?_
        (.inl (Nat.lt_succ_self _))
      exact fun id hne => hquiet id (n.topology.register_ignores root hne)
  | restore seat members =>
    cases hc : n.controllers seat with
    | none => simpa only [Network.act, hc] using h
    | some c =>
      rw [act_restore hc]
      have henrolled := h.controllers seat c hc
      exact h.put (c := c.restoreMembers members)
        ⟨henrolled.serial, henrolled.root, henrolled.failed⟩
        (fun id _ => hquiet id (.refl _ _)) (.inr ⟨c, hc, rfl⟩)
  | control seat op =>
    cases hc : n.controllers seat with
    | none => simpa only [Network.act, hc] using h
    | some c =>
      have henrolled := h.controllers seat c hc
      rw [act_control hc]
      cases op with
      | poll =>
        have hpoll := Controller.poll_enrolled (s := ⟨n.topology, hw⟩) h.numbered henrolled
        have hothers (id : ControllerId) (hne : id ≠ (c.poll ⟨n.topology, hw⟩).1.id) :=
          c.poll_ignores ⟨n.topology, hw⟩ hne
        exact h.put hpoll (fun id hne => hquiet id (hothers id hne)) (poll_name hc)
      | scan =>
        have hid := c.scan_id ⟨n.topology, hw⟩
        exact h.put (Controller.scan_enrolled (s := ⟨n.topology, hw⟩) henrolled)
          (fun id hne => hquiet id (c.scan_ignores ⟨n.topology, hw⟩ (hid ▸ hne))) (.inr ⟨c, hc, hid⟩)
      | dispose =>
        have hid := c.dispose_id n.topology
        refine h.put (Controller.dispose_enrolled henrolled) ?_ (.inr ⟨c, hc, hid⟩)
        intro id hne
        refine ⟨_, Controller.dispose_rouses henrolled (hid ▸ hne), fun halert hnone => ?_⟩
        have hregistered := Topology.isRegistered_of_isLost halert.2
        rw [Topology.rootOf?_eq_none_iff.1 hnone] at hregistered
        cases hregistered
      | scheduleScan =>
        exact h.put (c := c.scheduleScan)
          ⟨henrolled.serial, henrolled.root, henrolled.failed⟩
          (fun id _ => hquiet id (.refl _ _)) (.inr ⟨c, hc, rfl⟩)
      | takeChanges =>
        exact h.put (c := c.takeChanges.2)
          ⟨henrolled.serial, henrolled.root, henrolled.failed⟩
          (fun id _ => hquiet id (.refl _ _)) (.inr ⟨c, hc, rfl⟩)

end Network

/-! ## Polls of a run -/

/-- The seat that an operation polls. -/
def Op.polled? : Op → Option Seat
  | .controller i .poll => some (.host i)
  | .machine i .tick => some (.machine i)
  | _ => none

/-- A controller after a poll in its seat: a machine takes the changes of its controller. -/
def Seat.keep : Seat → Controller → Controller
  | .host _, c => c
  | .machine _, c => c.takeChanges.2

theorem Network.Enrolled.run {w : World} (h : w.network.Enrolled) (ops : List Op) :
    (w.run ops).network.Enrolled :=
  World.network_induction (Q := fun _ => True) (fun _ hw a _ h => h.act hw a) h ops
    fun _ _ _ _ _ => trivial

namespace World

/-- In every run names are given in order and to one controller each, and every controller is
enrolled. -/
theorem run_enrolled (ops : List Op) : (empty.run ops).network.Enrolled := by
  refine Network.Enrolled.run (w := empty) ⟨?_, ?_, ?_⟩ ops
  · exact Topology.numbered_empty
  · intro seat seat' c c' hc
    cases seat <;> cases hc
  · intro seat c hc
    cases seat <;> cases hc

variable {w : World} {op : Op} {seat : Seat}

theorem polled_actions (h : op.polled? = some seat) (w : World) :
    w.actions op = [.control seat .poll] ∨
      w.actions op = [.control seat .poll, .control seat .takeChanges] := by
  cases op with
  | controller i cop =>
    cases cop with
    | poll =>
      cases h
      exact .inl rfl
    | _ => cases h
  | machine i mop =>
    cases mop with
    | tick =>
      cases h
      exact .inr rfl
    | _ => cases h
  | _ => cases h

/-- The network after a poll. -/
theorem network_step_polled (h : op.polled? = some seat) {c : Controller}
    (hc : w.controllerAt seat = some c) : (w.step op).2.network =
      w.network.put seat (seat.keep (c.poll w.site).1) (c.poll w.site).2.topology := by
  have hc : w.network.controllers seat = some c := hc
  rw [network_step]
  cases op with
  | controller i cop =>
    cases cop with
    | poll =>
      cases h
      exact Network.act_control hc w.site.hardware .poll
    | _ => cases h
  | machine i mop =>
    cases mop with
    | tick =>
      cases h
      show (w.network.act w.site.hardware (.control (.machine i) .poll)).act w.site.hardware
        (.control (.machine i) .takeChanges) = _
      rw [Network.act_control hc, Network.act_control (if_pos rfl), Network.put_put]
      rfl
    | _ => cases h
  | _ => cases h

/-- A poll of an empty seat does nothing to the network. -/
theorem network_step_polled_of_none (h : op.polled? = some seat) (hc : w.controllerAt seat = none) :
    (w.step op).2.network = w.network := by
  have hcontrol (cop : ControllerOp) :
      w.network.act w.site.hardware (.control seat cop) = w.network := by
    simp only [Network.act, show w.network.controllers seat = none from hc]
  rw [network_step]
  rcases polled_actions h w with hactions | hactions
  · rw [hactions]
    exact hcontrol .poll
  · rw [hactions]
    show (w.network.act w.site.hardware (.control seat .poll)).act w.site.hardware
      (.control seat .takeChanges) = w.network
    rw [hcontrol, hcontrol]

end World

end DeviceBus
