import DeviceBus.Proofs.Atomicity
import DeviceBus.Proofs.Coherence

/-!
# What the recorded changes say

Scans and notices record what they make different, one difference behind the other, and nothing is
cancelled out.  Still the changes that are taken in the end tell the devices before from the devices now:
differences that follow one another cover the difference of the first list and the last one
(`DeviceChanges.Covers.append`), also where a failure emptied the list between them.

    c.takeChanges.1 = none          →  all devices are where they were when the changes were taken before
    c.takeChanges.1 = some changes  →  changes.Covers before now                     (changes_cover)
-/

namespace DeviceBus

/-! ## Differences -/

/-- A name and its address. -/
def BusDevice.location (d : BusDevice) : DeviceId × Option Nat := (d.id, d.address)

namespace DeviceChanges

/-- A name is on one of the lists. -/
def Mentions (r : DeviceChanges) (id : DeviceId) : Prop := id ∈ r.added ∨ id ∈ r.removed ∨ id ∈ r.moved

/-- All that is different between two lists of devices is recorded: a name that is new as added, one that is
gone as removed, and one at another address as moved, or as removed and added. -/
structure Covers (r : DeviceChanges) (old new : List BusDevice) : Prop where
  added : ∀ d ∈ new, (∀ d₀ ∈ old, d₀.id ≠ d.id) → d.id ∈ r.added
  removed : ∀ d₀ ∈ old, (∀ d ∈ new, d.id ≠ d₀.id) → d₀.id ∈ r.removed
  moved : ∀ d₀ ∈ old, ∀ d ∈ new, d.id = d₀.id → d.address ≠ d₀.address →
    d.id ∈ r.moved ∨ d.id ∈ r.added ∧ d.id ∈ r.removed

variable {r : DeviceChanges} {old mid new : List BusDevice} {id : DeviceId}

theorem find?_isNone_iff : (find? old id).isNone = true ↔ ∀ d ∈ old, d.id ≠ id := by
  unfold find?
  rw [Option.isNone_iff_eq_none, List.find?_eq_none]
  simp only [decide_eq_true_eq, ne_eq]

theorem mem_between_added {d : BusDevice} (hd : d ∈ new) (hnew : ∀ d₀ ∈ old, d₀.id ≠ d.id) :
    d.id ∈ (between old new).added :=
  List.mem_map_of_mem (List.mem_filter.2 ⟨hd, find?_isNone_iff.2 hnew⟩)

theorem mem_between_removed {d₀ : BusDevice} (hd₀ : d₀ ∈ old) (hgone : ∀ d ∈ new, d.id ≠ d₀.id) :
    d₀.id ∈ (between old new).removed :=
  List.mem_map_of_mem (List.mem_filter.2 ⟨hd₀, find?_isNone_iff.2 hgone⟩)

/-- Only names on one of the lists are different between them. -/
theorem between_mentions (h : (between old new).Mentions id) :
    id ∈ old.map BusDevice.id ∨ id ∈ new.map BusDevice.id := by
  rcases h with h | h | h
  · obtain ⟨d, hd, rfl⟩ := List.mem_map.1 h
    exact .inr (List.mem_map_of_mem (List.mem_of_mem_filter hd))
  · obtain ⟨d, hd, rfl⟩ := List.mem_map.1 h
    exact .inl (List.mem_map_of_mem (List.mem_of_mem_filter hd))
  · obtain ⟨d, hd, rfl⟩ := List.mem_map.1 h
    exact .inr (List.mem_map_of_mem (List.mem_of_mem_filter hd))

theorem append_mentions {a b : DeviceChanges} (h : (a.append b).Mentions id) :
    a.Mentions id ∨ b.Mentions id := by
  rcases h with h | h | h
  · exact (List.mem_append.1 h).imp .inl .inl
  · exact (List.mem_append.1 h).imp (.inr ∘ .inl) (.inr ∘ .inl)
  · exact (List.mem_append.1 h).imp (.inr ∘ .inr) (.inr ∘ .inr)

/-- Nothing is different between a list and itself. -/
theorem empty_covers (h : (old.map BusDevice.id).Nodup) : empty.Covers old old where
  added d hd hnew := absurd rfl (hnew d hd)
  removed d hd hgone := absurd rfl (hgone d hd)
  moved d₀ hd₀ d hd hid haddress := by
    have hsame : d = d₀ := List.inj_on_of_nodup_map h hd hd₀ hid
    exact absurd (congrArg BusDevice.address hsame) haddress

/-- A difference of the next list keeps the cover.  A name that was lost in between, or came back, is on both
sides as removed and as added; one that was found at a third address was moved the first or the second time. -/
theorem Covers.append (h : r.Covers old mid) (new : List BusDevice) :
    (r.append (between mid new)).Covers old new where
  added := by
    intro d hd hnew
    by_cases hmid : ∃ m ∈ mid, m.id = d.id
    · obtain ⟨m, hm, hid⟩ := hmid
      exact List.mem_append_left _ (hid ▸ h.added m hm fun d₀ hd₀ => hid ▸ hnew d₀ hd₀)
    · exact List.mem_append_right _ (mem_between_added hd fun m hm hid => hmid ⟨m, hm, hid⟩)
  removed := by
    intro d₀ hd₀ hgone
    by_cases hmid : ∃ m ∈ mid, m.id = d₀.id
    · obtain ⟨m, hm, hid⟩ := hmid
      exact List.mem_append_right _ (hid ▸ mem_between_removed hm fun d hd => hid ▸ hgone d hd)
    · exact List.mem_append_left _ (h.removed d₀ hd₀ fun m hm hid => hmid ⟨m, hm, hid⟩)
  moved := by
    intro d₀ hd₀ d hd hid haddress
    cases hfind : find? mid d.id with
    | none =>
      have hlost := find?_isNone_iff.1 (Option.isNone_iff_eq_none.2 hfind)
      refine .inr ⟨List.mem_append_right _ (mem_between_added hd hlost), List.mem_append_left _ ?_⟩
      exact hid ▸ h.removed d₀ hd₀ fun m hm => hid ▸ hlost m hm
    | some m =>
      obtain ⟨hm, hmid⟩ := of_find?_eq_some hfind
      by_cases hfirst : m.address = d₀.address
      · have hmoved : isMoved mid d = true := by
          rw [isMoved, hfind]
          exact decide_eq_true fun heq => haddress (heq.symm.trans hfirst)
        exact .inl (List.mem_append_right _ (List.mem_map_of_mem (List.mem_filter.2 ⟨hd, hmoved⟩)))
      · rw [← hmid]
        refine (h.moved d₀ hd₀ m hm (hmid.trans hid) hfirst).imp (List.mem_append_left _) ?_
        exact And.imp (List.mem_append_left _) (List.mem_append_left _)

/-- Where nothing is recorded, all devices are where they were. -/
theorem Covers.locations (h : empty.Covers old new) (location : DeviceId × Option Nat) :
    location ∈ old.map BusDevice.location ↔ location ∈ new.map BusDevice.location := by
  have haddress {d₀ d : BusDevice} (hd₀ : d₀ ∈ old) (hd : d ∈ new) (hid : d.id = d₀.id) :
      d.address = d₀.address := by
    by_contra hne
    rcases h.moved d₀ hd₀ d hd hid hne with hmoved | ⟨hadded, -⟩
    · exact List.not_mem_nil hmoved
    · exact List.not_mem_nil hadded
  constructor
  · intro hlocation
    obtain ⟨d₀, hd₀, rfl⟩ := List.mem_map.1 hlocation
    obtain ⟨d, hd, hid⟩ : ∃ d ∈ new, d.id = d₀.id := by
      by_contra hgone
      exact List.not_mem_nil (h.removed d₀ hd₀ fun d hd hid => hgone ⟨d, hd, hid⟩)
    exact List.mem_map.2 ⟨d, hd, Prod.ext hid (haddress hd₀ hd hid)⟩
  · intro hlocation
    obtain ⟨d, hd, rfl⟩ := List.mem_map.1 hlocation
    obtain ⟨d₀, hd₀, hid⟩ : ∃ d₀ ∈ old, d₀.id = d.id := by
      by_contra hnew
      exact List.not_mem_nil (h.added d hd fun d₀ hd₀ hid => hnew ⟨d₀, hd₀, hid⟩)
    exact List.mem_map.2 ⟨d₀, hd₀, Prod.ext hid (haddress hd₀ hd hid.symm).symm⟩

end DeviceChanges

/-! ## Controllers -/

namespace Controller

/-- What a controller recorded since a list of devices: all that is different by now, and only names that have
a property.  They are names that were listed since then. -/
structure Recounts (c : Controller) (start : List BusDevice) (P : DeviceId → Prop) : Prop where
  covers : c.recorded.Covers start c.devices
  mentions : ∀ id, c.recorded.Mentions id → P id
  listed : ∀ id ∈ c.devices.map BusDevice.id, P id

variable {c c' : Controller} {s : Site} {start : List BusDevice} {P Q : DeviceId → Prop}

theorem Recounts.mono (h : c.Recounts start P) (himp : ∀ id, P id → Q id) : c.Recounts start Q :=
  ⟨h.covers, fun id hid => himp id (h.mentions id hid), fun id hid => himp id (h.listed id hid)⟩

theorem Recounts.same (h : c.Recounts start P) (hdevices : c'.devices = c.devices)
    (hchanges : c'.changes = c.changes) : c'.Recounts start P := by
  obtain ⟨hcovers, hmentions, hlisted⟩ := h
  have hrecorded : c'.recorded = c.recorded := congrArg (·.getD .empty) hchanges
  rw [← hrecorded, ← hdevices] at hcovers
  rw [← hrecorded] at hmentions
  rw [← hdevices] at hlisted
  exact ⟨hcovers, hmentions, hlisted⟩

/-- A new list of devices is recorded. -/
theorem Recounts.record (h : c.Recounts start P)
    (hrecorded : c'.recorded = c.recorded.append (.between c.devices c'.devices))
    (hlisted : ∀ id ∈ c'.devices.map BusDevice.id, P id) : c'.Recounts start P := by
  refine ⟨hrecorded ▸ h.covers.append c'.devices, fun id hid => ?_, hlisted⟩
  rw [hrecorded] at hid
  rcases DeviceChanges.append_mentions hid with hid | hid
  · exact h.mentions id hid
  · exact (DeviceChanges.between_mentions hid).elim (h.listed id) (hlisted id)

theorem Recounts.fail (h : c.Recounts start P) (fault : BusFault) : (c.fail fault).Recounts start P :=
  h.record (c.recordChanges_recorded []) fun _ hid => absurd hid List.not_mem_nil

theorem Recounts.scan (h : c.Recounts start P)
    (hlisted : ∀ id ∈ (c.scan s).1.devices.map BusDevice.id, P id) : (c.scan s).1.Recounts start P := by
  have hscanning : Recounts { c with state := .scanning, fault := none, scanPending := true } start P :=
    h.same rfl rfl
  revert hlisted
  unfold Controller.scan
  dsimp only
  split
  · exact fun _ => hscanning
  · exact fun _ => hscanning.fail _
  · split
    · exact fun _ => hscanning.fail _
    · exact hscanning.record (recordChanges_recorded _ _)

theorem Recounts.absorb (h : c.Recounts start P) (s : Site) : (c.absorb s).1.Recounts start P := by
  have hrevive : (c.revive s).1.Recounts start P := by
    unfold revive
    split
    · exact h.same rfl rfl
    · exact h
  have hnotice (c : Controller) (s : Site) (h : c.Recounts start P) :
      (c.absorbInvalidation s).1.Recounts start P := by
    unfold absorbInvalidation
    split
    · exact h.fail .invalidated
    · exact h
  have hrequest (c : Controller) (s : Site) (h : c.Recounts start P) :
      (c.absorbScanRequest s).1.Recounts start P := by
    unfold absorbScanRequest
    split
    · exact h.same rfl rfl
    · exact h
  exact hrequest _ _ (hnotice _ _ hrevive)

theorem Recounts.poll (h : c.Recounts start P)
    (hlisted : ∀ id ∈ (c.poll s).1.devices.map BusDevice.id, P id) : (c.poll s).1.Recounts start P := by
  by_cases hdue : (c.absorb s).1.scanPending = true
  · rw [poll_of_due hdue] at hlisted ⊢
    exact (h.absorb s).scan hlisted
  · rw [poll_of_idle hdue]
    exact h.absorb s

/-- No operation but the one that takes the changes loses any of them. -/
theorem Recounts.step (h : c.Recounts start P) {op : ControllerOp} (hop : op ≠ .takeChanges)
    (hlisted : ∀ id ∈ (c.step s op).2.1.devices.map BusDevice.id, P id) :
    (c.step s op).2.1.Recounts start P := by
  cases op with
  | poll => exact h.poll hlisted
  | scan => exact h.scan hlisted
  | scheduleScan => exact h.same rfl rfl
  | dispose =>
    have hsame := c.dispose_sameBus s.topology
    exact h.same hsame.devices hsame.changes
  | takeChanges => exact absurd rfl hop

end Controller

/-! ## Runs -/

/-- The seat whose changes an operation takes.  A machine takes those of its controller at each tick. -/
def Op.taken? : Op → Option Seat
  | .controller i .takeChanges => some (.host i)
  | .machine i .tick => some (.machine i)
  | _ => none

namespace World

open Network (Action)

variable {w : World} {op : Op} {seat : Seat} {c c₀ : Controller}

/-- The controller that an operation takes the changes of, as it is then.  A tick polls it first. -/
def takenFrom? (w : World) : Op → Option (Seat × Controller)
  | .controller i .takeChanges => (w.controllerAt (.host i)).map fun c => (.host i, c)
  | .machine i .tick => (w.controllerAt (.machine i)).map fun c => (.machine i, (c.poll w.site).1)
  | _ => none

theorem takenFrom?_eq_some (h : w.takenFrom? op = some (seat, c)) :
    op.taken? = some seat ∧ ∃ c', w.controllerAt seat = some c' ∧ (c = c' ∨ c = (c'.poll w.site).1) := by
  cases op with
  | controller i cop => cases cop with
    | takeChanges =>
      obtain ⟨c', hc', heq⟩ := Option.map_eq_some_iff.1 h
      cases heq
      exact ⟨rfl, c, hc', .inl rfl⟩
    | _ => cases h
  | machine i mop => cases mop with
    | tick =>
      obtain ⟨c', hc', heq⟩ := Option.map_eq_some_iff.1 h
      cases heq
      exact ⟨rfl, c', hc', .inr rfl⟩
    | _ => cases h
  | _ => cases h

/-- The changes of a controller are taken, and the host is told those that it takes. -/
theorem step_taken (h : w.takenFrom? op = some (seat, c)) :
    (w.step op).2.controllerAt seat = some c.takeChanges.2 ∧
      ∀ i, seat = .host i → (w.step op).1 = .changes c.changes := by
  cases op with
  | controller i cop => cases cop with
    | takeChanges =>
      obtain ⟨c', hc', heq⟩ := Option.map_eq_some_iff.1 h
      cases heq
      have hnetwork := (w.network_step (.controller i .takeChanges)).trans
        (Network.act_control hc' w.site.hardware .takeChanges)
      refine ⟨(congrFun (congrArg Network.controllers hnetwork) (.host i)).trans (if_pos rfl), fun _ _ => ?_⟩
      have hc : w.controllers[i]? = some c := hc'
      show (w.stepController i .takeChanges).1 = .changes c.changes
      unfold stepController
      rw [hc]
      rfl
    | _ => cases h
  | machine i mop => cases mop with
    | tick =>
      obtain ⟨c', hc', heq⟩ := Option.map_eq_some_iff.1 h
      cases heq
      have hnetwork := network_step_polled (show Op.polled? (.machine i .tick) = _ from rfl) hc'
      exact ⟨(congrFun (congrArg Network.controllers hnetwork) (.machine i)).trans (if_pos rfl), nofun⟩
    | _ => cases h
  | _ => cases h

theorem taken?_of_mem_actions (h : .control seat .takeChanges ∈ w.actions op) : op.taken? = some seat := by
  cases op with
  | machine i mop => cases mop <;> simp_all [actions, MachineOp.actions, Op.taken?]
  | controller i cop =>
    cases List.mem_singleton.1 h
    rfl
  | _ => simp [actions] at h

/-- An operation that does not take the changes of a controller does at most one thing to it. -/
theorem step_alone (hc : w.controllerAt seat = some c) (hop : op.taken? ≠ some seat) :
    ∃ c', (w.step op).2.controllerAt seat = some c' ∧
      (c' = c ∨ (∃ cop, cop ≠ .takeChanges ∧ c' = (c.step w.site cop).2.1) ∨
        ∃ members, c' = c.restoreMembers members) := by
  show ∃ c', (w.step op).2.network.controllers seat = some c' ∧ _
  rw [network_step]
  rcases w.actions_cases op with hactions | ⟨a, hactions⟩ | ⟨s, -, hactions⟩
  · rw [hactions]
    exact ⟨c, hc, .inl rfl⟩
  · rw [hactions]
    obtain ⟨c', hc', hcases⟩ := Network.act_seated (n := w.network) w.site.hardware a hc
    refine ⟨c', hc', hcases.imp_right (.imp ?_ ?_)⟩
    · rintro ⟨cop, rfl, hcop⟩
      refine ⟨cop, ?_, hcop⟩
      rintro rfl
      refine hop (taken?_of_mem_actions (w := w) ?_)
      rw [hactions]
      exact List.mem_singleton_self _
    · exact fun ⟨members, _, hmembers⟩ => ⟨members, hmembers⟩
  · -- a tick of another machine
    have helsewhere (cop : ControllerOp) : (Action.control s cop).seat? ≠ some seat := by
      intro heq
      refine hop (taken?_of_mem_actions (w := w) ?_)
      rw [hactions, Option.some.inj heq]
      exact List.mem_cons_of_mem _ (List.mem_singleton_self _)
    rw [hactions, List.foldl_cons, List.foldl_cons, List.foldl_nil,
      Network.act_controllers _ _ (helsewhere _), Network.act_controllers _ _ (helsewhere _)]
    exact ⟨c, hc, .inl rfl⟩

/-- A name is on the bus in a seat at the start, or after some of the operations. -/
def ListedDuring (seat : Seat) (start ops : List Op) (id : DeviceId) : Prop :=
  ∃ part, part <+: ops ∧ ∃ c, (empty.run (start ++ part)).controllerAt seat = some c ∧
    id ∈ c.devices.map BusDevice.id

variable {start ops : List Op} {devices : List BusDevice}

theorem ListedDuring.mono {ops' : List Op} {id : DeviceId} (h : ListedDuring seat start ops id)
    (hle : ops <+: ops') : ListedDuring seat start ops' id := by
  obtain ⟨part, hpart, hlisted⟩ := h
  exact ⟨part, hpart.trans hle, hlisted⟩

/-- In every run a controller recounts what happened since its changes were taken. -/
theorem run_recounts (hc₀ : (empty.run start).controllerAt seat = some c₀) (hnone : c₀.changes = none)
    (hops : ∀ op ∈ ops, op.taken? ≠ some seat) :
    ∃ c, (empty.run (start ++ ops)).controllerAt seat = some c ∧
      c.Recounts c₀.devices (ListedDuring seat start ops) := by
  induction ops using List.reverseRecOn with
  | nil =>
    rw [List.append_nil]
    refine ⟨c₀, hc₀, ?_, fun id hid => ?_, fun id hid => ?_⟩
    · rw [Controller.recorded, hnone]
      exact DeviceChanges.empty_covers (devices_nodup start hc₀)
    · rw [Controller.recorded, hnone] at hid
      rcases hid with hid | hid | hid <;> exact absurd hid List.not_mem_nil
    · exact ⟨[], List.prefix_refl _, c₀, by rwa [List.append_nil], hid⟩
  | append_singleton ops op ih =>
    obtain ⟨c, hc, hrecounts⟩ := ih fun op' hop' => hops op' (List.mem_append_left _ hop')
    have hop := hops op (List.mem_append_right _ (List.mem_singleton_self op))
    obtain ⟨c', hc', hcases⟩ := step_alone hc hop
    have hrun : (empty.run (start ++ (ops ++ [op]))).controllerAt seat = some c' := by
      rw [← List.append_assoc, run_snoc]
      exact hc'
    have hlisted : ∀ id ∈ c'.devices.map BusDevice.id, ListedDuring seat start (ops ++ [op]) id :=
      fun id hid => ⟨ops ++ [op], List.prefix_refl _, c', hrun, hid⟩
    have hbefore := hrecounts.mono fun id hid => hid.mono (List.prefix_append ops [op])
    refine ⟨c', hrun, ?_⟩
    rcases hcases with rfl | ⟨cop, hcop, rfl⟩ | ⟨members, rfl⟩
    · exact hbefore
    · exact hbefore.step hcop hlisted
    · exact hbefore.same rfl rfl

/-- What is taken recounts what happened since the changes were taken before, or since the controller was new. -/
theorem taken_recounts {before between : List Op} {op op' : Op}
    (hbefore : (empty.run before).takenFrom? op = some (seat, c₀) ∨
      (empty.run before).controllerAt seat = none ∧ (empty.run (before ++ [op])).controllerAt seat = some c₀)
    (hbetween : ∀ op ∈ between, op.taken? ≠ some seat)
    (hnow : (empty.run (before ++ [op] ++ between)).takenFrom? op' = some (seat, c)) :
    c.Recounts c₀.devices fun id =>
      ListedDuring seat (before ++ [op]) between id ∨ id ∈ c.devices.map BusDevice.id := by
  obtain ⟨c₁, hc₁, hnone, hdevices⟩ : ∃ c₁, (empty.run (before ++ [op])).controllerAt seat = some c₁ ∧
      c₁.changes = none ∧ c₁.devices = c₀.devices := by
    rw [run_snoc] at hbefore ⊢
    rcases hbefore with htaken | ⟨hvacant, hjoined⟩
    · exact ⟨c₀.takeChanges.2, (step_taken htaken).1, rfl, rfl⟩
    · rcases step_joins hvacant op with hnone | ⟨root, config, hnew⟩
      · cases hnone.symm.trans hjoined
      · cases hnew.symm.trans hjoined
        exact ⟨_, hnew, rfl, rfl⟩
  obtain ⟨c₂, hc₂, hrecounts⟩ := run_recounts hc₁ hnone hbetween
  rw [hdevices] at hrecounts
  obtain ⟨-, c', hc', hcases⟩ := takenFrom?_eq_some hnow
  cases hc₂.symm.trans hc'
  have hbefore := hrecounts.mono fun id hid => (Or.inl hid : _ ∨ id ∈ c.devices.map BusDevice.id)
  rcases hcases with rfl | rfl
  · exact hbefore
  · exact hbefore.poll fun id hid => .inr hid

/-- The changes of a controller are taken, or it is new, and then they are taken the next time, after any
operations.  If there are none, the same names are at the same addresses as before.  If there are some, they
cover all that is different from before, and mention only names that were on the bus before or came up since. -/
theorem changes_cover {before between : List Op} {op op' : Op}
    (hbefore : (empty.run before).takenFrom? op = some (seat, c₀) ∨
      (empty.run before).controllerAt seat = none ∧ (empty.run (before ++ [op])).controllerAt seat = some c₀)
    (hbetween : ∀ op ∈ between, op.taken? ≠ some seat)
    (hnow : (empty.run (before ++ [op] ++ between)).takenFrom? op' = some (seat, c)) :
    (∀ i, seat = .host i →
      ((empty.run (before ++ [op] ++ between)).step op').1 = .changes c.changes) ∧
    (c.changes = none →
      ∀ location, location ∈ c₀.devices.map BusDevice.location ↔ location ∈ c.devices.map BusDevice.location) ∧
    ∀ changes, c.changes = some changes → changes.Covers c₀.devices c.devices ∧
      ∀ id, changes.Mentions id → id ∈ c₀.devices.map BusDevice.id ∨
        ListedDuring seat (before ++ [op]) between id ∨ id ∈ c.devices.map BusDevice.id := by
  obtain ⟨hcovers, hmentions, -⟩ := taken_recounts hbefore hbetween hnow
  refine ⟨(step_taken hnow).2, fun hnone => ?_, fun changes hsome => ?_⟩
  · rw [Controller.recorded, hnone] at hcovers
    exact hcovers.locations
  · rw [Controller.recorded, hsome] at hcovers hmentions
    exact ⟨hcovers, fun id hid => .inr (hmentions id hid)⟩

/-- One of two memories goes, so the other one moves up; then it is reported twice, and the scan fails, until
one of the reports is gone.  What is taken in the end tells of the move, the loss and the return. -/
theorem changes_cover_failed_scan :
    let first : DeviceRef := ⟨⟨0⟩, ⟨10⟩⟩
    let second : DeviceRef := ⟨⟨1⟩, ⟨11⟩⟩
    let before : List Op := [.build (.ram (.new ⟨10⟩ 16 0)), .build (.ram (.new ⟨11⟩ 16 0)),
      .topology (.insert ⟨1⟩ [] [first, second]), .newController ⟨1⟩ {}, .controller 0 .poll]
    let between : List Op := [.topology (.removeDevice ⟨1⟩ ⟨10⟩), .controller 0 .poll,
      .topology (.addDevice ⟨1⟩ second), .controller 0 .poll,
      .topology (.removeDevice ⟨1⟩ ⟨11⟩), .controller 0 .poll]
    let w := empty.run (before ++ [.controller 0 .takeChanges] ++ between)
    let changes : DeviceChanges := ⟨[⟨11⟩], [⟨10⟩, ⟨11⟩], [⟨11⟩]⟩
    ∃ c₀ c : Controller, (empty.run before).takenFrom? (.controller 0 .takeChanges) = some (.host 0, c₀) ∧
      (w.step (.controller 0 .takeChanges)).1 = .changes (some changes) ∧
      c₀.devices = [⟨first, ⟨1⟩, some 0, 0⟩, ⟨second, ⟨1⟩, some 16, 0⟩] ∧
      c.devices = [⟨second, ⟨1⟩, some 0, 0⟩] ∧ changes.Covers c₀.devices c.devices := by
  intro first second before between w changes
  let c₀ : Controller := {
    id := ⟨1⟩, root := ⟨1⟩, state := .ready, fault := none, scanPending := false, disposed := false
    members := [⟨1⟩], devices := [⟨first, ⟨1⟩, some 0, 0⟩, ⟨second, ⟨1⟩, some 16, 0⟩]
    changes := some ⟨[⟨10⟩, ⟨11⟩], [], []⟩, baseDraw := 20, maxElements := 512 }
  let c : Controller := { c₀ with devices := [⟨second, ⟨1⟩, some 0, 0⟩], changes := some changes }
  have hbefore : (empty.run before).takenFrom? (.controller 0 .takeChanges) = some (.host 0, c₀) := by decide
  have hnow : w.takenFrom? (.controller 0 .takeChanges) = some (.host 0, c) := by decide +kernel
  have hbetween : ∀ op ∈ between, op.taken? ≠ some (.host 0) := by decide
  obtain ⟨htold, -, hcover⟩ := changes_cover (.inl hbefore) hbetween hnow
  exact ⟨c₀, c, hbefore, htold 0 rfl, rfl, rfl, (hcover changes rfl).1⟩

end World

end DeviceBus
