import DeviceBus.Proofs.Atomicity
import DeviceBus.Proofs.Coherence
import DeviceBus.Proofs.Membership
import DeviceBus.Proofs.Traversal
import Mathlib.Data.Set.Card

/-!
# How large a bus may be

A scan counts the elements it finds as it goes, and waits as soon as it meets one that is set aside, so
which of the two it meets first depends on its way.  Where there is nothing to wait for, it fails exactly if
more elements than allowed can be reached, and where there is something, but no more elements than allowed,
it is deferred (`World.scan_limit_iff`).

The count is looked at when an element is found, which the root is not.  So a bus always has room for its
root, and the limit that holds is the greater of the configured one and one.

    nothing to wait for           :  c.scan s is too complex ↔ max c.maxElements 1 < s.topology.span c.root
    c is ready, and nobody loaded :  c.members.length ≤ max c.maxElements 1
-/

namespace DeviceBus

/-! ## What can be reached -/

namespace Topology

/-- How many elements can be reached from a root. -/
noncomputable def span (t : Topology) (root : ElementId) : Nat := {id | t.Reachable root id}.ncard

/-- No element that can be reached from a root has an open edge to one that is set aside. -/
def SettledFrom (t : Topology) (root : ElementId) : Prop :=
  ∀ a b, t.Reachable root a → t.Opens a b → t.isUnloaded b = false

variable {t : Topology} {root : ElementId}

theorem finite_reachable (t : Topology) (root : ElementId) : {id | t.Reachable root id}.Finite := by
  refine t.loaded.keys.finite_toSet.subset fun id hid => ?_
  obtain ⟨e, he⟩ := Option.isSome_iff_exists.1 (Reachable.loaded hid)
  exact List.mem_map.2 ⟨(id, e), Table.get?_eq_some_iff.1 he, rfl⟩

/-- There are so many elements to be reached as there are in the longest list of different ones. -/
theorem span_le_iff {n : Nat} : t.span root ≤ n ↔
    ∀ ids : List ElementId, ids.Nodup → (∀ a ∈ ids, t.Reachable root a) → ids.length ≤ n := by
  have hfinite := t.finite_reachable root
  constructor
  · intro hspan ids hnodup hids
    calc ids.length = (ids.toFinset : Set ElementId).ncard := by
          rw [Set.ncard_coe_finset, List.toFinset_card_of_nodup hnodup]
      _ ≤ t.span root := Set.ncard_le_ncard (fun a ha => hids a (List.mem_toFinset.1 ha)) hfinite
      _ ≤ n := hspan
  · intro hids
    have hlength := hids hfinite.toFinset.toList (Finset.nodup_toList _) fun a ha =>
      hfinite.mem_toFinset.1 (Finset.mem_toList.1 ha)
    rwa [Finset.length_toList, ← Set.ncard_eq_toFinset_card _ hfinite] at hlength

theorem lt_span {n : Nat} {ids : List ElementId} (hnodup : ids.Nodup)
    (hids : ∀ a ∈ ids, t.Reachable root a) (hn : n < ids.length) : n < t.span root :=
  Nat.lt_of_not_le fun hspan => Nat.not_le_of_lt hn (span_le_iff.1 hspan ids hnodup hids)

end Topology

namespace Scan

variable {t : Topology} {root : ElementId} {limit : Nat}

theorem traversable_iff : Traversable t root limit ↔
    t.loaded.contains root = true ∧ t.SettledFrom root ∧ t.span root ≤ max limit 1 := by
  rw [Topology.span_le_iff]
  exact ⟨fun ⟨hroot, hsettled, hfew⟩ => ⟨hroot, hsettled, hfew⟩,
    fun ⟨hroot, hsettled, hfew⟩ => ⟨hroot, hsettled, hfew⟩⟩

theorem Setback.Warranted.tooComplex (h : Setback.tooComplex.Warranted t root limit) :
    max limit 1 < t.span root := by
  obtain ⟨ids, hnodup, hids, hmany⟩ := h
  exact Topology.lt_span hnodup hids hmany

/-- A walk with nothing to wait for is given up exactly if there are too many elements. -/
theorem walk_tooComplex_iff (hfiled : t.Filed) (hroot : t.loaded.contains root = true)
    (hsettled : t.SettledFrom root) :
    walk t root limit = .error .tooComplex ↔ max limit 1 < t.span root := by
  constructor
  · exact fun h => (walk_error hfiled hroot h).tooComplex
  · intro hmany
    cases hwalk : walk t root limit with
    | ok visits =>
      have hfew := (traversable_iff.1 ((walk_completes_iff hfiled).1 ⟨visits, hwalk⟩)).2.2
      exact absurd hfew (Nat.not_le_of_lt hmany)
    | error setback => cases setback with
      | tooComplex => rfl
      | deferred =>
        obtain ⟨a, b, ha, hopens, hunloaded⟩ := walk_error hfiled hroot hwalk
        rw [hsettled a b ha hopens] at hunloaded
        cases hunloaded

/-- A walk with something to wait for has to wait, unless there are too many elements. -/
theorem walk_deferred (hfiled : t.Filed) (hroot : t.loaded.contains root = true)
    (hfew : t.span root ≤ max limit 1) (hwaits : ¬ t.SettledFrom root) :
    walk t root limit = .error .deferred := by
  cases hwalk : walk t root limit with
  | ok visits =>
    exact absurd (traversable_iff.1 ((walk_completes_iff hfiled).1 ⟨visits, hwalk⟩)).2.1 hwaits
  | error setback => cases setback with
    | deferred => rfl
    | tooComplex => exact absurd hfew (Nat.not_le_of_lt (walk_error hfiled hroot hwalk).tooComplex)

end Scan

/-! ## Scans -/

namespace Controller

variable {c : Controller} {s : Site}

/-- A scan fails for too many elements exactly if its walk does. -/
theorem flaw?_tooComplex_iff {limit : Nat} : c.flaw? s = some (.tooComplex limit) ↔
    limit = c.maxElements ∧ Scan.walk s.topology c.root c.maxElements = .error .tooComplex := by
  unfold flaw?
  cases Scan.walk s.topology c.root c.maxElements with
  | error setback => cases setback with
    | deferred => exact iff_of_false (fun h => nomatch h) fun h => nomatch h.2
    | tooComplex =>
      refine ⟨fun h => ?_, fun h => by rw [h.1]⟩
      cases h
      exact ⟨rfl, rfl⟩
  | ok visits =>
    refine iff_of_false (fun h => ?_) fun h => nomatch h.2
    dsimp only at h
    split at h
    · next fault hfault =>
      cases h
      exact Scan.enumerate_fault hfault
    · cases h

theorem scan_tooComplex_iff :
    (c.scan s).1.state = .error ∧ (c.scan s).1.fault = some (.tooComplex c.maxElements) ↔
      Scan.walk s.topology c.root c.maxElements = .error .tooComplex := by
  constructor
  · rintro ⟨herror, hfault⟩
    cases hflaw : c.flaw? s with
    | some fault =>
      obtain ⟨hardware, he⟩ := scan_of_flaw hflaw
      rw [he] at hfault
      cases hfault
      exact (flaw?_tooComplex_iff.1 hflaw).2
    | none =>
      rcases scan_of_sound hflaw with hwalk | ⟨-, hready⟩
      · rw [scan_of_deferred hwalk] at herror
        cases herror
      · rw [hready] at herror
        cases herror
  · intro hwalk
    obtain ⟨hardware, he⟩ := scan_of_flaw (flaw?_tooComplex_iff.2 ⟨rfl, hwalk⟩)
    rw [he]
    exact ⟨rfl, rfl⟩

theorem scan_awaiting_of_deferred (h : Scan.walk s.topology c.root c.maxElements = .error .deferred) :
    (c.scan s).1.state = .scanning ∧ c.Awaiting (c.scan s).1 ∧ (c.scan s).2 = s := by
  rw [scan_of_deferred h]
  exact ⟨rfl, c.scanning_awaiting, rfl⟩

/-! ## Members -/

/-- A ready controller has no more members than allowed, unless others stand in for them. -/
def Within (c : Controller) (loaded : List ElementId → Prop) : Prop :=
  c.state = .ready → c.members.length ≤ max c.maxElements 1 ∨ loaded c.members

variable {loaded : List ElementId → Prop}

/-- A scan reaches no more elements than allowed. -/
theorem reach_length_le (hfiled : s.topology.Filed) (c : Controller) :
    (c.reach s).length ≤ max c.maxElements 1 := by
  unfold reach
  split
  · exact Nat.zero_le _
  · next visits hwalk =>
    split
    · exact Nat.zero_le _
    · obtain ⟨search, done, rfl, -, hswept, -⟩ := Scan.walk_swept hfiled hwalk
      rw [List.length_map]
      exact hswept.room

theorem scan_maxElements (c : Controller) (s : Site) : (c.scan s).1.maxElements = c.maxElements := by
  rcases c.scan_cases s with h | ⟨_, _, _, h⟩ | ⟨_, _, _, _, -, -, h⟩ <;> rw [h]

theorem poll_maxElements (c : Controller) (s : Site) : (c.poll s).1.maxElements = c.maxElements := by
  have habsorb := (c.absorb_hears s).maxElements
  rw [poll_eq_absorb]
  unfold scanIfDue
  split
  · rw [scan_maxElements, habsorb]
  · exact habsorb

theorem scan_within (hfiled : s.topology.Filed) (c : Controller) : (c.scan s).1.Within loaded := by
  intro hready
  left
  rw [(scan_ready hready).1, scan_maxElements]
  exact c.reach_length_le hfiled

theorem Within.poll (h : c.Within loaded) (ht : s.topology.Numbered) (hfiled : s.topology.Filed) :
    (c.poll s).1.Within loaded := by
  intro hready
  rcases poll_ready ht hready with ⟨-, hmembers, -⟩ | ⟨-, hready, -, hpoll⟩
  · left
    rw [hmembers, poll_maxElements]
    exact c.reach_length_le hfiled
  · rw [hpoll]
    exact h hready

theorem Within.dispose (h : c.Within loaded) (t : Topology) : (c.dispose t).1.Within loaded := by
  unfold Controller.dispose
  split
  · exact h
  · exact fun hready => nomatch hready

theorem Within.step (h : c.Within loaded) (ht : s.topology.Numbered) (hfiled : s.topology.Filed)
    (op : ControllerOp) : (c.step s op).2.1.Within loaded := by
  cases op with
  | poll => exact h.poll ht hfiled
  | scan => exact c.scan_within hfiled
  | scheduleScan => exact h
  | dispose => exact h.dispose s.topology
  | takeChanges => exact h

end Controller

namespace Network

open Network (Action)

/-- Every controller is within its limit, unless others stand in for its members. -/
structure Limited (n : Network) (loaded : Seat → List ElementId → Prop) : Prop where
  enrolled : n.Enrolled
  filed : n.topology.Filed
  within : ∀ seat c, n.controllers seat = some c → c.Within (loaded seat)

variable {n : Network} {loaded : Seat → List ElementId → Prop}

theorem Limited.act (h : n.Limited loaded) (hw : Hardware) {a : Action}
    (ha : ∀ seat members, a = .restore seat members → loaded seat members) : (n.act hw a).Limited loaded := by
  refine ⟨h.enrolled.act hw a, act_filed h.filed hw a, fun seat c hc => ?_⟩
  cases hc₀ : n.controllers seat with
  | none =>
    rcases act_vacant hw a hc₀ with hnone | ⟨root, config, hnew⟩
    · cases hnone.symm.trans hc
    · cases hnew.symm.trans hc
      exact fun hready => nomatch hready
  | some c₀ =>
    obtain ⟨c', hc', hcases⟩ := act_seated hw a hc₀
    cases hc'.symm.trans hc
    rcases hcases with rfl | ⟨op, rfl, rfl⟩ | ⟨members, rfl, rfl⟩
    · exact h.within seat c hc₀
    · exact (h.within seat c₀ hc₀).step (s := ⟨n.topology, hw⟩) h.enrolled.numbered h.filed op
    · exact fun _ => .inr (ha seat members rfl)

end Network

/-! ## Runs -/

/-- An operation takes over a record whose elements stand in for the members of a machine's controller. -/
def Op.Loads (op : Op) (seat : Seat) (members : List ElementId) : Prop :=
  ∃ i r, op = .machine i (.loadRecord r) ∧ seat = .machine i ∧ members = r.elements

namespace World

theorem loads_of_mem_actions {w : World} {op : Op} {seat : Seat} {members : List ElementId}
    (h : .restore seat members ∈ w.actions op) : op.Loads seat members := by
  cases op with
  | machine i mop => cases mop with
    | loadRecord r =>
      cases List.mem_singleton.1 h
      exact ⟨i, r, rfl, rfl, rfl⟩
    | _ => simp [actions, MachineOp.actions] at h
  | _ => simp [actions] at h

theorem run_limited (ops : List Op) :
    (empty.run ops).network.Limited fun seat members => ∃ op ∈ ops, op.Loads seat members := by
  refine network_induction (w := empty)
    (I := fun n => n.Limited fun seat members => ∃ op ∈ ops, op.Loads seat members)
    (Q := fun a => ∀ seat members, a = .restore seat members → ∃ op ∈ ops, op.Loads seat members)
    (fun n hw a ha hn => hn.act hw ha) ?_ ops ?_
  · refine ⟨run_enrolled [], Topology.filed_empty, fun seat c hc => ?_⟩
    cases seat <;> cases hc
  · rintro op hop w _ ha seat members rfl
    exact ⟨op, hop, loads_of_mem_actions ha⟩

/-- A bus always has room for its root.  With that, a scan of a loaded root that has nothing to wait for
fails for too many elements exactly if more than allowed can be reached.  A scan is deferred if its root is
not loaded, or if no more than allowed can be reached and one of these is next to an element that is set
aside.  A ready controller has no more members than allowed, unless it took them over from a record. -/
theorem scan_limit_iff (ops : List Op) :
    let s := (empty.run ops).site
    (∀ c : Controller,
      (s.topology.loaded.contains c.root = true → s.topology.SettledFrom c.root →
        ((c.scan s).1.state = .error ∧ (c.scan s).1.fault = some (.tooComplex c.maxElements) ↔
          max c.maxElements 1 < s.topology.span c.root)) ∧
      (s.topology.loaded.contains c.root = false ∨
          s.topology.span c.root ≤ max c.maxElements 1 ∧
            (∃ a b, s.topology.Reachable c.root a ∧ s.topology.Opens a b ∧ s.topology.isUnloaded b = true) →
        (c.scan s).1.state = .scanning ∧ c.Awaiting (c.scan s).1 ∧ (c.scan s).2 = s)) ∧
    ∀ seat c, (empty.run ops).controllerAt seat = some c → c.state = .ready →
      c.members.length ≤ max c.maxElements 1 ∨
        ∃ i r, seat = .machine i ∧ .machine i (.loadRecord r) ∈ ops ∧ c.members = r.elements := by
  intro s
  have hfiled : s.topology.Filed := run_filed ops
  refine ⟨fun c => ⟨fun hroot hsettled => ?_, fun hwaits => ?_⟩, fun seat c hc hready => ?_⟩
  · exact Controller.scan_tooComplex_iff.trans (Scan.walk_tooComplex_iff hfiled hroot hsettled)
  · refine Controller.scan_awaiting_of_deferred ?_
    cases hroot : s.topology.loaded.contains c.root with
    | false => exact Scan.walk_of_not_loaded hroot
    | true =>
      obtain ⟨hfew, a, b, ha, hopens, hunloaded⟩ := hwaits.resolve_left (ne_false_of_eq_true hroot)
      refine Scan.walk_deferred hfiled hroot hfew fun hsettled => ?_
      rw [hsettled a b ha hopens] at hunloaded
      cases hunloaded
  · refine ((run_limited ops).within seat c hc hready).imp_right ?_
    rintro ⟨op, hop, i, r, rfl, hseat, hmembers⟩
    exact ⟨i, r, hseat, hop, hmembers⟩

/-- Two elements are more than the one allowed.  With the second one set aside, the scan waits for it. -/
theorem second_element_is_too_many :
    let joined : List Op := [.topology (.insert ⟨1⟩ [] []), .topology (.insert ⟨2⟩ [] []),
      .topology (.connect ⟨1⟩ none ⟨2⟩ none)]
    let parted := joined ++ [.topology (.unload ⟨2⟩)]
    let c : Controller := {
      id := ⟨1⟩, root := ⟨1⟩, state := .scanning, fault := none, scanPending := true, disposed := false
      members := [], devices := [], changes := none, baseDraw := 20, maxElements := 1 }
    ((c.scan (empty.run joined).site).1.state = .error ∧
        (c.scan (empty.run joined).site).1.fault = some (.tooComplex c.maxElements)) ∧
      (c.scan (empty.run parted).site).1.state = .scanning ∧
        (c.scan (empty.run parted).site).2 = (empty.run parted).site := by
  intro joined parted c
  let e : Element := ⟨⟨1⟩, [⟨none, ⟨2⟩⟩], [], [], true⟩
  have hopens {t : Topology} (he : t.get? ⟨1⟩ = some e) : t.Opens c.root ⟨2⟩ :=
    ⟨e, he, ⟨none, ⟨2⟩⟩, List.mem_singleton_self _, rfl, rfl⟩
  have hreachable {t : Topology} (he : t.get? ⟨1⟩ = some e) : t.Reachable c.root ⟨1⟩ :=
    ⟨0, .root (Option.isSome_iff_exists.2 ⟨e, he⟩)⟩
  have hjoined : (empty.run joined).site.topology.get? ⟨1⟩ = some e := by decide
  have hparted : (empty.run parted).site.topology.get? ⟨1⟩ = some e := by decide
  have hsettled : (empty.run joined).site.topology.SettledFrom c.root := by
    intro _ b _ _
    have hnone : (empty.run joined).site.topology.unloaded = .empty := by decide
    rw [Topology.isUnloaded, hnone]
    rfl
  have hmany : max c.maxElements 1 < (empty.run joined).site.topology.span c.root := by
    refine Topology.lt_span (show [(⟨1⟩ : ElementId), ⟨2⟩].Nodup by decide) ?_ (by decide)
    refine List.forall_mem_cons.2 ⟨hreachable hjoined, List.forall_mem_singleton.2 ?_⟩
    exact (hreachable hjoined).step (hopens hjoined) (by decide)
  have hfew : (empty.run parted).site.topology.span c.root ≤ max c.maxElements 1 := by
    refine Topology.span_le_iff.2 fun ids hnodup hids => ?_
    have hsize : (empty.run parted).site.topology.loaded.size = 1 := by decide
    exact hsize ▸ Table.length_le_size hnodup fun a ha => (hids a ha).loaded
  have hloaded : (empty.run joined).site.topology.loaded.contains c.root = true := by decide
  have hunloaded : (empty.run parted).site.topology.isUnloaded ⟨2⟩ = true := by decide
  have hwaits := ((scan_limit_iff parted).1 c).2
    (.inr ⟨hfew, ⟨1⟩, ⟨2⟩, hreachable hparted, hopens hparted, hunloaded⟩)
  exact ⟨(((scan_limit_iff joined).1 c).1 hloaded hsettled).2 hmany, hwaits.1, hwaits.2.2⟩

/-- The root is not counted: where no element is allowed, a lone root is a bus of one element. -/
theorem lone_root_is_not_counted :
    let ops : List Op := [.topology (.insert ⟨1⟩ [] []), .newController ⟨1⟩ { maxElements := 0 }]
    let s := (empty.run ops).site
    s.topology.loaded.contains ⟨1⟩ = true ∧ s.topology.SettledFrom ⟨1⟩ ∧ 0 < s.topology.span ⟨1⟩ ∧
      ∃ c, (empty.run (ops ++ [.controller 0 .poll])).controllerAt (.host 0) = some c ∧
        c.maxElements = 0 ∧ c.state = .ready ∧ c.members = [⟨1⟩] := by
  intro ops s
  have hmany : 0 < s.topology.span ⟨1⟩ := by
    refine Topology.lt_span (List.nodup_singleton ⟨1⟩) ?_ (by decide)
    exact List.forall_mem_singleton.2 ⟨0, .root rfl⟩
  refine ⟨rfl, fun _ _ _ _ => rfl, hmany, {
    id := ⟨1⟩, root := ⟨1⟩, state := .ready, fault := none, scanPending := false, disposed := false
    members := [⟨1⟩], devices := [], changes := none, baseDraw := 20, maxElements := 0 }, ?_, rfl, rfl, rfl⟩
  decide

end World

end DeviceBus
