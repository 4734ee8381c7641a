import DeviceBus.Proofs.Enrolment
import Mathlib.Data.List.Induction

/-!
# Alerts

A controller that failed, or lost its bus, gave up all claims.  Changes are told to owners and roots, so
what still reaches it is a change at its own root, a request of the host, and, if it lost its bus to
another controller, that some controller goes (`Network.Alerts`).  Its next poll scans exactly if one of
these happened since the last poll:

    lost bus, since the last poll  :  the next poll scans ↔ it was alerted        (lost_bus_scans_iff)
    failed scan of a poll, repaired:  the next poll is ready ↔ it was alerted     (failed_bus_recovers_iff)

Elements that come free in any other way, and repairs anywhere else on the bus, do not reach it.
-/

namespace DeviceBus

/-! ## Scans of a poll -/

/-- The site after a controller took what it has to be told. -/
def Site.told (s : Site) (id : ControllerId) : Site :=
  { s with topology := ((s.topology.takeInvalidation id).2.takeScanRequest id).2 }

theorem Site.told_looks (s : Site) (id : ControllerId) : s.topology.Looks (s.told id).topology :=
  .of_elements rfl rfl rfl

/-- What a listing of devices may find wrong: not that there are too many elements, nor that the bus was
lost. -/
def BusFault.OfListing : BusFault → Prop
  | .tooComplex _ => False
  | .invalidated => False
  | _ => True

namespace Scan

variable {fault : BusFault}

theorem Listing.add_fault {l : Listing} {hw : Hardware} {e : ElementId} {offer : Offer}
    (h : l.add hw e offer = .error fault) : fault.OfListing := by
  unfold Listing.add at h
  dsimp only at h
  split at h
  · cases h
    trivial
  · split at h
    · cases h
    · split at h
      · cases h
        trivial
      · cases h

theorem Listing.addAll_fault {hw : Hardware} {e : ElementId} {offers : List Offer} {l : Listing}
    (h : Listing.addAll hw e offers l = .error fault) : fault.OfListing := by
  induction offers generalizing l with
  | nil => cases h
  | cons offer rest ih =>
    unfold Listing.addAll at h
    split at h
    · next hadd =>
      cases h
      exact Listing.add_fault hadd
    · exact ih h

theorem listDevices_fault {t : Topology} {visits : List Visit} {l : Listing} {hw : Hardware}
    (h : (listDevices t visits l hw).1 = .error fault) : fault.OfListing := by
  induction visits generalizing l hw with
  | nil => cases h
  | cons visit rest ih =>
    unfold listDevices at h
    dsimp only at h
    split at h
    · cases h
      trivial
    · split at h
      · next hadd =>
        cases h
        exact Listing.addAll_fault hadd
      · exact ih h

theorem enumerate_fault {t : Topology} {hw : Hardware} {visits : List Visit}
    (h : (enumerate t hw visits).1 = .error fault) : fault.OfListing := by
  unfold enumerate at h
  dsimp only at h
  cases hl : (listDevices t visits ⟨[], 0⟩ hw).1 with
  | error fault' =>
    rw [hl] at h
    cases h
    exact listDevices_fault hl
  | ok l =>
    rw [hl] at h
    cases h

end Scan

namespace Controller

/-- The controller and the site at the scan that a poll runs, if it runs one. -/
def scanAt? (c : Controller) (s : Site) : Option (Controller × Site) :=
  if (c.absorb s).1.scanPending then some (c.absorb s) else none

/-- Whether a scan is pending or requested. -/
def Asked (c : Controller) (t : Topology) : Prop := c.scanPending = true ∨ c.id ∈ t.scanRequests

instance (c : Controller) (t : Topology) : Decidable (c.Asked t) := inferInstanceAs (Decidable (_ ∨ _))

/-- A controller in office that is without a bus, and was told why. -/
structure Stranded (c : Controller) (t : Topology) : Prop where
  live : c.disposed = false
  failed : c.state = .error
  told : c.id ∉ t.invalidations

variable {c : Controller} {t t' : Topology} {s : Site}

/-- What there is to be told to a controller that did not lose its bus since it was told so. -/
theorem absorb_of_told (hlive : c.disposed = false) (htold : c.id ∉ s.topology.invalidations) :
    c.absorb s = (if c.Asked s.topology then c.scheduleScan else c, s.told c.id) := by
  unfold absorb
  rw [revive_of_live hlive]
  dsimp only
  rcases c.absorbInvalidation_cases s with ⟨hmem, -⟩ | ⟨-, he⟩
  · exact absurd hmem htold
  · rw [he]
    dsimp only
    rcases c.absorbScanRequest_cases { s with topology := (s.topology.takeInvalidation c.id).2 } with
      ⟨hmem, he⟩ | ⟨hnone, he⟩
    · rw [he, if_pos (.inr hmem)]
      rfl
    · rw [he]
      by_cases hpending : c.scanPending = true
      · have hsame : c.scheduleScan = c := by rw [scheduleScan, ← hpending]
        rw [if_pos (.inl hpending), hsame]
        rfl
      · rw [if_neg (show ¬ c.Asked s.topology from not_or.2 ⟨hpending, hnone⟩)]
        rfl

/-- A controller that is told that it lost its bus is left without it, and goes on to scan only if the
topology asked it to: a scan that was pending is forgotten. -/
theorem absorb_of_lost (hlive : c.disposed = false) (hlost : c.id ∈ s.topology.invalidations) :
    ∃ changes, c.absorb s = ({ c with
        changes
        members := []
        devices := []
        scanPending := decide (c.id ∈ s.topology.scanRequests)
        state := .error
        fault := some .invalidated },
      { s with topology := (s.told c.id).topology.releaseClaims c.id }) := by
  rcases c.absorbInvalidation_cases s with ⟨-, changes, he⟩ | ⟨hnone, -⟩
  · refine ⟨changes, ?_⟩
    unfold absorb
    rw [revive_of_live hlive]
    dsimp only
    rw [he]
    dsimp only
    rcases absorbScanRequest_cases { c with
        changes
        members := []
        devices := []
        scanPending := false
        state := .error
        fault := some .invalidated }
      { s with topology := (s.topology.takeInvalidation c.id).2.releaseClaims c.id } with
      ⟨hmem, he⟩ | ⟨hnone, he⟩
    · rw [he, decide_eq_true (show c.id ∈ s.topology.scanRequests from hmem)]
      rfl
    · rw [he, decide_eq_false (show c.id ∉ s.topology.scanRequests from hnone)]
      rfl
  · exact absurd hlost hnone

theorem scanAt?_of_told (hlive : c.disposed = false) (htold : c.id ∉ s.topology.invalidations) :
    c.scanAt? s = if c.Asked s.topology then some (c.scheduleScan, s.told c.id) else none := by
  unfold scanAt?
  rw [absorb_of_told hlive htold]
  by_cases hasked : c.Asked s.topology
  · simp only [if_pos hasked]
    rfl
  · simp only [if_neg hasked]
    exact if_neg (not_or.1 hasked).1

theorem poll_of_told (hlive : c.disposed = false) (htold : c.id ∉ s.topology.invalidations) :
    c.poll s =
      if c.Asked s.topology then c.scheduleScan.scan (s.told c.id) else (c, s.told c.id) := by
  rw [poll_eq_absorb, absorb_of_told hlive htold]
  unfold scanIfDue
  by_cases hasked : c.Asked s.topology
  · simp only [if_pos hasked]
    rfl
  · simp only [if_neg hasked]
    exact if_neg (not_or.1 hasked).1

/-- A controller was as far out of its bus before as it is now, and only the alert asked it to scan. -/
structure Awaits (c₀ c : Controller) (t t' : Topology) (alert : Prop) : Prop where
  live : c₀.disposed = false
  failed : c₀.state = .error
  fault : c₀.fault = c.fault
  stranded : c₀.Stranded t → c.Stranded t' ∧ (c.Asked t' ↔ c₀.Asked t ∨ alert)

theorem Awaits.trans {c₀ c₁ c : Controller} {t₀ t₁ t : Topology} {alert alert' : Prop}
    (h : c₀.Awaits c₁ t₀ t₁ alert) (h' : c₁.Awaits c t₁ t alert') :
    c₀.Awaits c t₀ t (alert ∨ alert') := by
  refine ⟨h.live, h.failed, h.fault.trans h'.fault, fun hstranded => ?_⟩
  obtain ⟨hstranded, hasked⟩ := h.stranded hstranded
  obtain ⟨hstranded', hasked'⟩ := h'.stranded hstranded
  refine ⟨hstranded', ?_⟩
  rw [hasked', hasked, or_assoc]

/-- What changes neither the topology nor why the controller is out of its bus. -/
theorem Awaits.of_same {c₀ : Controller} {alert : Prop} (hid : c.id = c₀.id)
    (hstate : c.disposed = c₀.disposed ∧ c.state = c₀.state ∧ c.fault = c₀.fault)
    (hpending : c.scanPending = true ↔ c₀.scanPending = true ∨ alert)
    (hlive : c.disposed = false) (hfailed : c.state = .error) : c₀.Awaits c t t alert := by
  obtain ⟨hdisposed, hstate, hfault⟩ := hstate
  refine ⟨hdisposed ▸ hlive, hstate ▸ hfailed, hfault.symm, fun hstranded => ⟨⟨hlive, hfailed, ?_⟩, ?_⟩⟩
  · rw [hid]
    exact hstranded.told
  · unfold Asked
    rw [hid, hpending]
    exact or_right_comm

/-- What does not belong to a controller without a bus. -/
theorem Enrolled.awaits {alert : Prop} (h : c.Enrolled t) (hlive : c.disposed = false)
    (hfailed : c.state = .error) (hrouses : t.Rouses c.id alert t') : c.Awaits c t t' alert := by
  have hnone := h.failed hfailed
  refine ⟨hlive, hfailed, rfl, fun hstranded => ⟨⟨hlive, hfailed, ?_⟩, ?_⟩⟩
  · exact mt (hrouses.notices hnone).1 hstranded.told
  · unfold Asked
    rw [hrouses.requests hnone, or_assoc]

/-- What a scan finds wrong is never that the bus was lost. -/
theorem scan_fault (c : Controller) (s : Site) : (c.scan s).1.fault ≠ some .invalidated := by
  have hfail (c : Controller) {fault : BusFault} (h : fault ≠ .invalidated) :
      (c.fail fault).fault ≠ some .invalidated := fun heq => h (Option.some.inj heq)
  unfold scan
  dsimp only
  split
  · exact fun h => nomatch h
  · exact hfail _ (fun h => nomatch h)
  · next visits _ =>
    generalize henumerate : Scan.enumerate s.topology s.hardware visits = found
    obtain ⟨fault | devices, hardware⟩ := found
    · refine hfail _ ?_
      rintro rfl
      exact Scan.enumerate_fault (congrArg Prod.fst henumerate)
    · obtain ⟨changes, h⟩ := recordChanges_eq
        { c with state := .scanning, fault := none, scanPending := true } devices
      dsimp only [adopt]
      rw [h]
      exact fun h => nomatch h

/-- A scan that finds elements and devices has them. -/
theorem scan_finds {visits : List Query} {devices : List BusDevice}
    (hwalk : Scan.walk s.topology c.root c.maxElements = .ok visits)
    (hdevices : (Scan.enumerate s.topology s.hardware visits).1 = .ok devices) :
    (c.scan s).1.state = .ready ∧ (c.scan s).1.devices = devices := by
  unfold scan
  dsimp only
  rw [hwalk]
  dsimp only
  generalize Scan.enumerate s.topology s.hardware visits = found at hdevices
  obtain ⟨result, hardware⟩ := found
  dsimp only at hdevices ⊢
  rw [hdevices]
  exact ⟨rfl, rfl⟩

/-- A scan succeeds after the controller was told exactly if it succeeds before. -/
theorem scan_told_state (c : Controller) (s : Site) (h : (c.scan s).1.state = .ready) :
    (c.scheduleScan.scan (s.told c.id)).1.state = .ready := by
  rcases c.scan_cases s with he | ⟨_, _, _, he⟩ | ⟨visits, devices, _, _, hwalk, henumerate, -⟩
  · rw [he] at h
    cases h
  · rw [he] at h
    cases h
  · have hlooks := s.told_looks c.id
    have hwalk' : Scan.walk (s.told c.id).topology c.root c.maxElements = .ok visits :=
      Scan.walk_congr hwalk ⟨fun v _ => hlooks.element v.element, fun _ _ _ _ edge _ _ =>
        hlooks.element edge.target⟩
    have hdevices : (Scan.enumerate (s.told c.id).topology s.hardware visits).1 = .ok devices := by
      rw [Scan.enumerate_looks hlooks, henumerate]
    exact (scan_finds (c := c.scheduleScan) hwalk' hdevices).1

end Controller

/-! ## Networks -/

namespace Network

/-- What asks a controller without a bus to scan: a change at its root, a request of the host, and,
after it lost its bus, the end of another controller. -/
def Alerts (n : Network) (seat : Seat) : Action → Prop
  | .topology op => ∃ c, n.controllers seat = some c ∧ c.root ∈ n.topology.touched op
  | .control seat' .scheduleScan => seat' = seat
  | .control seat' .dispose => seat' ≠ seat ∧
      (∃ c', n.controllers seat' = some c' ∧ c'.disposed = false) ∧
      ∃ c, n.controllers seat = some c ∧ n.topology.isLost c.id = true
  | _ => False

variable {n : Network} {hw : Hardware} {seat : Seat} {c : Controller}

/-- The seat that an action is about. -/
def Action.seat? : Action → Option Seat
  | .topology _ => none
  | .join seat .. => some seat
  | .control seat _ => some seat
  | .restore seat _ => some seat

theorem act_controllers (n : Network) (hw : Hardware) {a : Action} (ha : a.seat? ≠ some seat) :
    (n.act hw a).controllers seat = n.controllers seat := by
  cases a with
  | topology op => rfl
  | join s root config =>
    cases hseat : n.controllers s with
    | some d => simp only [act, hseat]
    | none =>
      rw [act_join hseat]
      exact if_neg fun hs => ha (congrArg some hs.symm)
  | restore s members =>
    cases hseat : n.controllers s with
    | none => simp only [act, hseat]
    | some d =>
      rw [act_restore hseat]
      exact if_neg fun hs => ha (congrArg some hs.symm)
  | control s op =>
    cases hseat : n.controllers s with
    | none => simp only [act, hseat]
    | some d =>
      rw [act_control hseat]
      exact if_neg fun hs => ha (congrArg some hs.symm)

/-- Nothing happens to a controller but the operations on it, and that a record stands in for its members. -/
theorem act_seated (hw : Hardware) (a : Action) (hc : n.controllers seat = some c) :
    ∃ c', (n.act hw a).controllers seat = some c' ∧
      (c' = c ∨ (∃ op, a = .control seat op ∧ c' = (c.step ⟨n.topology, hw⟩ op).2.1) ∨
        ∃ members, a = .restore seat members ∧ c' = c.restoreMembers members) := by
  by_cases ha : a.seat? = some seat
  · cases a with
    | topology op => cases ha
    | join s root config =>
      cases ha
      have hact : n.act hw (.join seat root config) = n := by simp only [act, hc]
      rw [hact]
      exact ⟨c, hc, .inl rfl⟩
    | control s op =>
      cases ha
      rw [act_control hc]
      exact ⟨_, if_pos rfl, .inr (.inl ⟨op, rfl, rfl⟩)⟩
    | restore s members =>
      cases ha
      rw [act_restore hc]
      exact ⟨_, if_pos rfl, .inr (.inr ⟨members, rfl, rfl⟩)⟩
  · rw [act_controllers n hw ha]
    exact ⟨c, hc, .inl rfl⟩

/-- What an action elsewhere means for a controller in office. -/
theorem Enrolled.act_rouses (h : n.Enrolled) (hc : n.controllers seat = some c)
    (hlive : c.disposed = false) {a : Action} (ha : a.seat? ≠ some seat) :
    n.topology.Rouses c.id (n.Alerts seat a) (n.act hw a).topology := by
  have henrolled := h.controllers seat c hc
  have hidle (hact : n.act hw a = n) (hnever : ¬ n.Alerts seat a) :
      n.topology.Rouses c.id (n.Alerts seat a) (n.act hw a).topology := by
    rw [hact, eq_false hnever]
    exact Topology.Ignores.refl _ _
  cases a with
  | topology op =>
    have hroot := henrolled.root
    rw [hlive] at hroot
    have halert : n.Alerts seat (.topology op) =
        ∃ e ∈ n.topology.touched op, n.topology.rootOf? c.id = some e := by
      unfold Alerts
      simp [hroot, hc]
    rw [halert]
    exact n.topology.step_rouses op c.id
  | join s root config =>
    cases hseat : n.controllers s with
    | some d => exact hidle (by simp only [Network.act, hseat]) id
    | none =>
      rw [act_join hseat]
      refine n.topology.register_ignores root fun heq => ?_
      have hserial := henrolled.serial
      rw [heq] at hserial
      exact absurd hserial (Nat.not_succ_le_self _)
  | restore s members =>
    cases hseat : n.controllers s with
    | none => exact hidle (by simp only [Network.act, hseat]) id
    | some d =>
      rw [act_restore hseat]
      exact Topology.Ignores.refl _ _
  | control s op =>
    have hne : seat ≠ s := fun hs => ha (congrArg some hs.symm)
    cases hseat : n.controllers s with
    | none =>
      refine hidle (by simp only [Network.act, hseat]) ?_
      cases op with
      | scheduleScan => exact hne.symm
      | dispose =>
        rintro ⟨-, ⟨c', hc', -⟩, -⟩
        rw [hseat] at hc'
        cases hc'
      | _ => exact id
    | some d =>
      have hserial (s' : Seat) (c' : Controller) (hc' : n.controllers s' = some c') :=
        (h.controllers s' c' hc').serial
      have hid : c.id ≠ d.id := fun heq => hne (h.distinct seat s c d hc hseat heq)
      rw [act_control hseat]
      cases op with
      | poll =>
        exact d.poll_ignores ⟨n.topology, hw⟩
          (h.distinct.apart hserial (poll_name hseat) seat c hc hne)
      | scan => exact d.scan_ignores ⟨n.topology, hw⟩ hid
      | takeChanges => exact Topology.Ignores.refl _ _
      | scheduleScan =>
        have hnever : n.Alerts seat (.control s .scheduleScan) = False := eq_false hne.symm
        rw [hnever]
        exact Topology.Ignores.refl _ _
      | dispose =>
        have halert : n.Alerts seat (.control s .dispose) =
            (d.disposed = false ∧ n.topology.isLost c.id = true) := by
          unfold Alerts
          simp [hne.symm, hseat, hc]
        rw [halert]
        exact Controller.dispose_rouses (h.controllers s d hseat) hid

/-- Only alerts reach a controller without a bus, besides its own polls and scans. -/
theorem Enrolled.act_awaits (h : n.Enrolled) {a : Action} (hc : (n.act hw a).controllers seat = some c)
    (hlive : c.disposed = false) (hfailed : c.state = .error) (hpoll : a ≠ .control seat .poll)
    (hscan : a ≠ .control seat .scan) :
    ∃ c₀, n.controllers seat = some c₀ ∧
      c₀.Awaits c n.topology (n.act hw a).topology (n.Alerts seat a) := by
  by_cases ha : a.seat? = some seat
  · cases a with
    | topology op => cases ha
    | join s root config =>
      cases ha
      cases hseat : n.controllers seat with
      | none =>
        -- a new controller has not failed
        rw [act_join hseat, put_controllers, if_pos rfl] at hc
        cases hc
        cases hfailed
      | some d =>
        have hact : n.act hw (.join seat root config) = n := by simp only [Network.act, hseat]
        rw [hact, hseat] at hc
        cases hc
        rw [hact]
        exact ⟨c, rfl, .of_same rfl ⟨rfl, rfl, rfl⟩ (or_iff_left id).symm hlive hfailed⟩
    | restore s members =>
      cases ha
      cases hseat : n.controllers seat with
      | none =>
        rw [show n.act hw (.restore seat members) = n by simp only [Network.act, hseat], hseat] at hc
        cases hc
      | some d =>
        rw [act_restore hseat, put_controllers, if_pos rfl] at hc
        cases hc
        rw [act_restore hseat]
        exact ⟨d, rfl, .of_same rfl ⟨rfl, rfl, rfl⟩ (or_iff_left id).symm hlive hfailed⟩
    | control s op =>
      cases ha
      cases hseat : n.controllers seat with
      | none =>
        rw [show n.act hw (.control seat op) = n by simp only [Network.act, hseat], hseat] at hc
        cases hc
      | some d =>
        rw [act_control hseat, put_controllers, if_pos rfl] at hc
        cases hc
        rw [act_control hseat]
        refine ⟨d, rfl, ?_⟩
        cases op with
        | poll => exact absurd rfl hpoll
        | scan => exact absurd rfl hscan
        | takeChanges => exact .of_same rfl ⟨rfl, rfl, rfl⟩ (or_iff_left id).symm hlive hfailed
        | scheduleScan =>
          exact .of_same rfl ⟨rfl, rfl, rfl⟩ (iff_of_true rfl (.inr rfl)) hlive hfailed
        | dispose =>
          have hlive : (d.dispose n.topology).1.disposed = false := hlive
          rw [d.dispose_disposed] at hlive
          cases hlive
  · rw [act_controllers n hw ha] at hc
    exact ⟨c, hc, (h.controllers seat c hc).awaits hlive hfailed (h.act_rouses hc hlive ha)⟩

end Network

/-! ## Runs -/

/-- The seat that an operation has scan without a poll. -/
def Op.scanned? : Op → Option Seat
  | .controller i .scan => some (.host i)
  | _ => none

/-- An event, and nothing but what is allowed after it. -/
def Since (event : List Op → Op → Prop) (allowed : Op → Prop) (ops : List Op) : Prop :=
  ∃ before op after, ops = before ++ op :: after ∧ event before op ∧ ∀ o ∈ after, allowed o

theorem since_nil {event : List Op → Op → Prop} {allowed : Op → Prop} : ¬ Since event allowed [] := by
  rintro ⟨before, op, after, heq, -⟩
  cases before <;> cases heq

theorem since_snoc {event : List Op → Op → Prop} {allowed : Op → Prop} {ops : List Op} {op : Op} :
    Since event allowed (ops ++ [op]) ↔ event ops op ∨ allowed op ∧ Since event allowed ops := by
  constructor
  · rintro ⟨before, o, after, heq, hevent, hafter⟩
    induction after using List.reverseRecOn with
    | nil =>
      obtain ⟨rfl, hop⟩ := List.append_inj' heq rfl
      cases hop
      exact .inl hevent
    | append_singleton after o' _ =>
      rw [← List.cons_append, ← List.append_assoc] at heq
      obtain ⟨rfl, hop⟩ := List.append_inj' heq rfl
      cases hop
      exact .inr ⟨hafter op (List.mem_append_right _ (List.mem_singleton_self op)), before, o, after, rfl,
        hevent, fun o' ho' => hafter o' (List.mem_append_left _ ho')⟩
  · rintro (hevent | ⟨hop, before, o, after, rfl, hevent, hafter⟩)
    · exact ⟨ops, op, [], rfl, hevent, fun _ ho => (nomatch ho)⟩
    · refine ⟨before, o, after ++ [op], by simp, hevent, ?_⟩
      intro o' ho'
      rcases List.mem_append.1 ho' with ho' | ho'
      · exact hafter o' ho'
      · exact List.mem_singleton.1 ho' ▸ hop

namespace World

open Network (Action)

variable {w : World} {op : Op} {ops : List Op} {seat : Seat} {c : Controller}

/-- Whether an operation asks a controller without a bus to scan. -/
def Alerts (w : World) (op : Op) (seat : Seat) : Prop := ∃ a ∈ w.actions op, w.network.Alerts seat a

/-- The controller was alerted since its last poll. -/
def AlertedSince (seat : Seat) : List Op → Prop :=
  Since (fun before op => (empty.run before).Alerts op seat) fun op => op.polled? ≠ some seat

/-- The controller was polled, and the host did not have it scan otherwise since. -/
def PolledSince (seat : Seat) : List Op → Prop :=
  Since (fun _ op => op.polled? = some seat) fun op => op.scanned? ≠ some seat

/-- An operation does nothing to the network, or one thing, or polls. -/
theorem actions_cases (w : World) (op : Op) :
    w.actions op = [] ∨ (∃ a, w.actions op = [a]) ∨
      ∃ s, op.polled? = some s ∧ w.actions op = [.control s .poll, .control s .takeChanges] := by
  cases op with
  | machine i mop =>
    cases mop with
    | tick => exact .inr (.inr ⟨.machine i, rfl, rfl⟩)
    | suspend => exact .inr (.inl ⟨_, rfl⟩)
    | finalize => exact .inr (.inl ⟨_, rfl⟩)
    | scheduleScan => exact .inr (.inl ⟨_, rfl⟩)
    | loadRecord r => exact .inr (.inl ⟨_, rfl⟩)
    | _ => exact .inl rfl
  | build d => exact .inl rfl
  | device h dop => exact .inl rfl
  | _ => exact .inr (.inl ⟨_, rfl⟩)

theorem polled?_of_mem_actions (h : .control seat .poll ∈ w.actions op) : op.polled? = some seat := by
  cases op with
  | machine i mop => cases mop <;> simp_all [actions, MachineOp.actions, Op.polled?]
  | controller i cop =>
    cases List.mem_singleton.1 h
    rfl
  | _ => simp [actions] at h

theorem scanned?_of_mem_actions (h : .control seat .scan ∈ w.actions op) : op.scanned? = some seat := by
  cases op with
  | machine i mop => cases mop <;> simp [actions, MachineOp.actions] at h
  | controller i cop =>
    cases List.mem_singleton.1 h
    rfl
  | _ => simp [actions] at h

/-- Only alerts reach a controller without a bus, besides its own polls and scans. -/
theorem step_awaits (h : w.network.Enrolled) (hc : (w.step op).2.controllerAt seat = some c)
    (hlive : c.disposed = false) (hfailed : c.state = .error) (hpoll : op.polled? ≠ some seat)
    (hscan : op.scanned? ≠ some seat) :
    ∃ c₀, w.controllerAt seat = some c₀ ∧
      c₀.Awaits c w.site.topology (w.step op).2.site.topology (w.Alerts op seat) := by
  change (w.step op).2.network.controllers seat = some c at hc
  show ∃ c₀, w.network.controllers seat = some c₀ ∧
    c₀.Awaits c w.network.topology (w.step op).2.network.topology (w.Alerts op seat)
  rw [network_step] at hc ⊢
  have hpoll (a : Action) (ha : a ∈ w.actions op) : a ≠ .control seat .poll := by
    rintro rfl
    exact hpoll (polled?_of_mem_actions ha)
  have hscan (a : Action) (ha : a ∈ w.actions op) : a ≠ .control seat .scan := by
    rintro rfl
    exact hscan (scanned?_of_mem_actions ha)
  unfold Alerts
  rcases w.actions_cases op with hactions | ⟨a, hactions⟩ | ⟨s, -, hactions⟩
  · rw [hactions] at hc ⊢
    exact ⟨c, hc, .of_same rfl ⟨rfl, rfl, rfl⟩ (by simp) hlive hfailed⟩
  · have ha : a ∈ w.actions op := by
      rw [hactions]
      exact List.mem_singleton_self a
    rw [hactions] at hc ⊢
    simpa using h.act_awaits hc hlive hfailed (hpoll a ha) (hscan a ha)
  · -- a tick takes the changes of the controller that it polled
    have hnever : (∃ a ∈ w.actions op, w.network.Alerts seat a) ↔ False ∨ False := by
      rw [hactions]
      simp [Network.Alerts]
    have hpolled := hpoll (.control s .poll) (by rw [hactions]; exact List.mem_cons_self)
    rw [hnever]
    rw [hactions, List.foldl_cons, List.foldl_cons, List.foldl_nil] at hc ⊢
    have htakes : Action.control s .takeChanges ≠ .control seat .poll ∧
        Action.control s .takeChanges ≠ .control seat .scan := by simp
    have hpolls : Action.control s .poll ≠ .control seat .scan := by simp
    obtain ⟨c₁, hc₁, htaken⟩ :=
      (h.act w.site.hardware _).act_awaits hc hlive hfailed htakes.1 htakes.2
    obtain ⟨c₀, hc₀, hpolled⟩ := h.act_awaits hc₁ htaken.live htaken.failed hpolled hpolls
    exact ⟨c₀, hc₀, hpolled.trans htaken⟩

/-- A poll leaves nothing to be told to its controller, and no scan pending but a deferred one. -/
theorem step_polled (hop : op.polled? = some seat) (hc : (w.step op).2.controllerAt seat = some c) :
    c.disposed = false ∧ c.Told (w.step op).2.site.topology ∧
      (c.state ≠ .scanning → c.scanPending = false) := by
  change (w.step op).2.network.controllers seat = some c at hc
  show _ ∧ c.Told (w.step op).2.network.topology ∧ _
  cases hseat : w.controllerAt seat with
  | none =>
    rw [network_step_polled_of_none hop hseat] at hc
    cases hseat.symm.trans hc
  | some c₀ =>
    rw [network_step_polled hop hseat] at hc ⊢
    rw [Network.put_controllers, if_pos rfl] at hc
    cases hc
    have htold := c₀.poll_told w.site
    have hlive := c₀.poll_disposed w.site
    have hpending := c₀.poll_scanPending w.site
    cases seat with
    | host i => exact ⟨hlive, htold, hpending⟩
    | machine i => exact ⟨hlive, ⟨htold.notices, htold.requests⟩, hpending⟩

theorem scanned_actions (h : op.scanned? = some seat) (w : World) :
    w.actions op = [.control seat .scan] := by
  cases op with
  | controller i cop =>
    cases cop with
    | scan =>
      cases h
      rfl
    | _ => cases h
  | _ => cases h

/-- What the host has a controller scan leaves it with another fault than a lost bus. -/
theorem step_scanned (hop : op.scanned? = some seat) (hc : (w.step op).2.controllerAt seat = some c) :
    c.fault ≠ some .invalidated := by
  change (w.step op).2.network.controllers seat = some c at hc
  rw [network_step, scanned_actions hop w] at hc
  change (w.network.act w.site.hardware (.control seat .scan)).controllers seat = some c at hc
  cases hseat : w.network.controllers seat with
  | none =>
    rw [show w.network.act w.site.hardware (.control seat .scan) = w.network by
      simp only [Network.act, hseat], hseat] at hc
    cases hc
  | some c₀ =>
    rw [Network.act_control hseat, Network.put_controllers, if_pos rfl] at hc
    cases hc
    exact c₀.scan_fault _

theorem not_alerts_of_polled (hop : op.polled? = some seat) : ¬ w.Alerts op seat := by
  rintro ⟨a, ha, halert⟩
  rcases polled_actions hop w with hactions | hactions
  · rw [hactions] at ha
    cases List.mem_singleton.1 ha
    exact halert
  · rw [hactions] at ha
    rcases List.mem_cons.1 ha with rfl | ha
    · exact halert
    · cases List.mem_singleton.1 ha
      exact halert

/-- A controller that a poll left without a bus is asked to scan exactly if it was alerted since. -/
theorem asked_iff_alertedSince (hc : (empty.run ops).controllerAt seat = some c)
    (hlive : c.disposed = false) (hfailed : c.state = .error) (hpolled : PolledSince seat ops) :
    c.Stranded (empty.run ops).site.topology ∧
      (c.Asked (empty.run ops).site.topology ↔ AlertedSince seat ops) := by
  induction ops using List.reverseRecOn generalizing c with
  | nil => exact absurd hpolled since_nil
  | append_singleton ops op ih =>
    unfold PolledSince at hpolled
    unfold AlertedSince
    rw [since_snoc] at hpolled ⊢
    rw [run_snoc] at hc ⊢
    by_cases hop : op.polled? = some seat
    · obtain ⟨hlive, htold, hpending⟩ := step_polled hop hc
      refine ⟨⟨hlive, hfailed, htold.notices⟩, iff_of_false ?_ ?_⟩
      · rintro (hscan | hrequest)
        · rw [hpending (by rw [hfailed]; decide)] at hscan
          cases hscan
        · exact htold.requests hrequest
      · rintro (halert | ⟨hne, -⟩)
        · exact not_alerts_of_polled hop halert
        · exact hne hop
    · obtain ⟨hscan, hpolled⟩ := hpolled.resolve_left hop
      obtain ⟨c₀, hc₀, hawaits⟩ := step_awaits (run_enrolled ops) hc hlive hfailed hop hscan
      obtain ⟨hstranded, hasked⟩ := ih hc₀ hawaits.live hawaits.failed hpolled
      obtain ⟨hstranded', hasked'⟩ := hawaits.stranded hstranded
      refine ⟨hstranded', ?_⟩
      rw [hasked', hasked, and_iff_right hop, or_comm]
      rfl

/-- Only a poll finds that a bus was lost. -/
theorem polledSince_of_invalidated (hc : (empty.run ops).controllerAt seat = some c)
    (hlive : c.disposed = false) (hfailed : c.state = .error) (hlost : c.fault = some .invalidated) :
    PolledSince seat ops := by
  induction ops using List.reverseRecOn generalizing c with
  | nil => cases seat <;> cases hc
  | append_singleton ops op ih =>
    unfold PolledSince
    rw [since_snoc]
    rw [run_snoc] at hc
    by_cases hop : op.polled? = some seat
    · exact .inl hop
    · have hscan : op.scanned? ≠ some seat := fun hscan => step_scanned hscan hc hlost
      obtain ⟨c₀, hc₀, hawaits⟩ := step_awaits (run_enrolled ops) hc hlive hfailed hop hscan
      exact .inr ⟨hscan, ih hc₀ hawaits.live hawaits.failed (hawaits.fault.trans hlost)⟩

/-- A controller in office that lost its bus scans at its next poll exactly if it was alerted since the
last one. -/
theorem lost_bus_scans_iff (ops : List Op) {seat : Seat} {c : Controller}
    (hc : (empty.run ops).controllerAt seat = some c) (hlive : c.disposed = false)
    (hfailed : c.state = .error) (hlost : c.fault = some .invalidated) :
    (c.Asked (empty.run ops).site.topology ↔ AlertedSince seat ops) ∧
      ((c.scanAt? (empty.run ops).site).isSome = true ↔ AlertedSince seat ops) := by
  obtain ⟨hstranded, hasked⟩ := asked_iff_alertedSince hc hlive hfailed
    (polledSince_of_invalidated hc hlive hfailed hlost)
  refine ⟨hasked, ?_⟩
  rw [← hasked, Controller.scanAt?_of_told hlive hstranded.told]
  split <;> simpa

/-- A controller that goes alerts the one that it took an element from. -/
theorem lost_bus_scans_after_disposal :
    let ops : List Op := [.topology (.insert ⟨1⟩ [] []), .newController ⟨1⟩ {}, .controller 0 .poll,
      .newController ⟨1⟩ {}, .controller 1 .poll, .controller 0 .poll, .controller 1 .dispose]
    let c : Controller := {
      id := ⟨1⟩, root := ⟨1⟩, state := .error, fault := some .invalidated, scanPending := false
      disposed := false, members := [], devices := [], changes := none, baseDraw := 20
      maxElements := 512 }
    (empty.run ops).controllerAt (.host 0) = some c ∧ AlertedSince (.host 0) ops := by
  intro ops c
  have hc : (empty.run ops).controllerAt (.host 0) = some c := by decide
  exact ⟨hc, (lost_bus_scans_iff ops hc rfl rfl rfl).2.1 (by decide)⟩

/-- The second of two controllers takes the bus of the first and then keeps but one element of it.  The
rest comes free, and is all that the first would find, but nobody tells it. -/
theorem freed_bus_is_forgotten :
    let ops : List Op := [.topology (.insert ⟨1⟩ [] []), .topology (.insert ⟨2⟩ [] []),
      .topology (.insert ⟨3⟩ [] []), .topology (.connect ⟨1⟩ none ⟨2⟩ none),
      .topology (.connect ⟨2⟩ none ⟨3⟩ none), .newController ⟨1⟩ {}, .controller 0 .poll,
      .newController ⟨3⟩ {}, .controller 1 .poll, .controller 0 .poll, .topology (.disconnect ⟨2⟩ ⟨3⟩),
      .controller 1 .poll]
    let w := empty.run ops
    ∃ c visits, w.controllerAt (.host 0) = some c ∧ c.disposed = false ∧ c.state = .error ∧
      c.fault = some .invalidated ∧ Scan.walk w.site.topology c.root c.maxElements = .ok visits ∧
      visits.map Query.element = [⟨1⟩, ⟨2⟩] ∧ (∀ v ∈ visits, w.site.topology.owner? v.element = none) ∧
      ¬ c.Asked w.site.topology ∧ c.scanAt? w.site = none := by
  intro ops w
  refine ⟨{
    id := ⟨1⟩, root := ⟨1⟩, state := .error, fault := some .invalidated, scanPending := false
    disposed := false, members := [], devices := [], changes := none, baseDraw := 20
    maxElements := 512 }, [⟨⟨1⟩, none⟩, ⟨⟨2⟩, none⟩], by decide, rfl, rfl, rfl, by decide, rfl, by decide,
    by decide, ?_⟩
  rw [Controller.scanAt?_of_told rfl (by decide)]
  exact if_neg (by decide)

/-- A controller that a poll left without a bus, and whose bus is sound again, gets it back at its next
poll exactly if it was alerted since; if it was not, the poll leaves it as it is. -/
theorem failed_bus_recovers_iff {pre post : List Op} {op : Op} {seat : Seat} {c : Controller}
    (hop : op.polled? = some seat) (hpost : ∀ o ∈ post, o.scanned? ≠ some seat)
    (hc : (empty.run (pre ++ op :: post)).controllerAt seat = some c) (hlive : c.disposed = false)
    (hfailed : c.state = .error)
    (hsound : (c.scan (empty.run (pre ++ op :: post)).site).1.state = .ready) :
    ((c.scanAt? (empty.run (pre ++ op :: post)).site).isSome = true ↔
        AlertedSince seat (pre ++ op :: post)) ∧
      ((c.poll (empty.run (pre ++ op :: post)).site).1.state = .ready ↔
        AlertedSince seat (pre ++ op :: post)) ∧
      (¬ AlertedSince seat (pre ++ op :: post) → (c.poll (empty.run (pre ++ op :: post)).site).1 = c) := by
  obtain ⟨hstranded, hasked⟩ := asked_iff_alertedSince hc hlive hfailed ⟨pre, op, post, rfl, hop, hpost⟩
  rw [← hasked, Controller.scanAt?_of_told hlive hstranded.told,
    Controller.poll_of_told hlive hstranded.told]
  split
  · next h =>
    have hready := c.scan_told_state _ hsound
    exact ⟨iff_of_true rfl h, iff_of_true hready h, fun hnever => absurd h hnever⟩
  · next h =>
    refine ⟨iff_of_false (fun hsome => nomatch hsome) h, iff_of_false (fun hready => ?_) h, fun _ => rfl⟩
    rw [hfailed] at hready
    cases hready

/-- A bus of three elements is more than the two allowed, and is cut next to the root. -/
theorem failed_bus_recovers_at_root :
    let pre : List Op := [.topology (.insert ⟨1⟩ [] []), .topology (.insert ⟨2⟩ [] []),
      .topology (.insert ⟨3⟩ [] []), .topology (.connect ⟨1⟩ none ⟨2⟩ none),
      .topology (.connect ⟨2⟩ none ⟨3⟩ none), .newController ⟨1⟩ { maxElements := 2 }]
    let post : List Op := [.topology (.disconnect ⟨1⟩ ⟨2⟩)]
    let w := empty.run (pre ++ .controller 0 .poll :: post)
    let c : Controller := {
      id := ⟨1⟩, root := ⟨1⟩, state := .error, fault := some (.tooComplex 2), scanPending := false
      disposed := false, members := [], devices := [], changes := none, baseDraw := 20
      maxElements := 2 }
    w.controllerAt (.host 0) = some c ∧ (c.scan w.site).1.state = .ready ∧
      AlertedSince (.host 0) (pre ++ .controller 0 .poll :: post) := by
  intro pre post w c
  have hc : w.controllerAt (.host 0) = some c := by decide
  have hsound : (c.scan w.site).1.state = .ready := by decide
  refine ⟨hc, hsound, ?_⟩
  exact (failed_bus_recovers_iff rfl (by decide) hc rfl rfl hsound).2.1.1 (by decide)

/-- The same bus, cut between the other two elements: a scan would succeed, but the poll runs none. -/
theorem repaired_bus_stays_failed :
    let pre : List Op := [.topology (.insert ⟨1⟩ [] []), .topology (.insert ⟨2⟩ [] []),
      .topology (.insert ⟨3⟩ [] []), .topology (.connect ⟨1⟩ none ⟨2⟩ none),
      .topology (.connect ⟨2⟩ none ⟨3⟩ none), .newController ⟨1⟩ { maxElements := 2 }]
    let w := empty.run (pre ++ [.controller 0 .poll, .topology (.disconnect ⟨2⟩ ⟨3⟩)])
    ∃ c, (empty.run (pre ++ [.controller 0 .poll])).controllerAt (.host 0) = some c ∧ c.state = .error ∧
      c.fault = some (.tooComplex 2) ∧ w.controllerAt (.host 0) = some c ∧
      (c.scan w.site).1.state = .ready ∧ (c.poll w.site).1 = c := by
  intro pre w
  exact ⟨{
    id := ⟨1⟩, root := ⟨1⟩, state := .error, fault := some (.tooComplex 2), scanPending := false
    disposed := false, members := [], devices := [], changes := none, baseDraw := 20
    maxElements := 2 }, by decide, rfl, rfl, by decide, by decide, by decide⟩

end World

end DeviceBus
