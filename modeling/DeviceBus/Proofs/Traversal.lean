import DeviceBus.Proofs.Edges
import DeviceBus.Proofs.Topology.Reach

/-!
# Traversals

A walk over the topology of a host is exactly a traversal of what can be reached from its root over open
edges (`Scan.walk_traverses`).  All that it takes is that every element is in one table only, under its own
name, and this no operation of the host changes (`World.run_filed`).
-/

namespace DeviceBus

open Network (Action)

/-! ## Names -/

namespace Topology

variable {t t' : Topology} {x : ElementId} {e : Element}

theorem Named.bringIn (h : t.Named) (he : e.id = x) :
    { t with loaded := t.loaded.insert x e, unloaded := t.unloaded.erase x : Topology }.Named := by
  intro y e' hy
  rw [known?_bringIn] at hy
  split at hy
  · next hxy =>
    cases hy
    exact he.trans hxy
  · exact h y e' hy

theorem Named.setAside (h : t.Named) (he : e.id = x) :
    { t with loaded := t.loaded.erase x, unloaded := t.unloaded.insert x e : Topology }.Named := by
  intro y e' hy
  rw [known?_setAside] at hy
  split at hy
  · next hxy =>
    cases hy
    exact he.trans hxy
  · exact h y e' hy

theorem Named.replace (h : t.Named) (he : e.id = x) :
    { t with loaded := t.loaded.insert x e : Topology }.Named := by
  intro y e' hy
  rw [known?_replace] at hy
  split at hy
  · next hxy =>
    cases hy
    exact he.trans hxy
  · exact h y e' hy

theorem Named.modifyLoaded (h : t.Named) (x : ElementId) {f : Element → Element} (hf : ∀ e, (f e).id = e.id) :
    { t with loaded := t.loaded.modify x f : Topology }.Named := by
  intro y e' hy
  rw [known?_modifyLoaded] at hy
  split at hy
  · obtain ⟨e, he, rfl⟩ := Option.map_eq_some_iff.1 hy
    exact (hf e).trans (h y e he)
  · exact h y e' hy

theorem Named.modifyKnown (h : t.Named) (x : ElementId) {f : Element → Element} (hf : ∀ e, (f e).id = e.id) :
    (t.modifyKnown x f).Named := by
  intro y e' hy
  rw [known?_modifyKnown] at hy
  split at hy
  · obtain ⟨e, he, rfl⟩ := Option.map_eq_some_iff.1 hy
    exact (hf e).trans (h y e he)
  · exact h y e' hy

theorem Named.forget (h : t.Named) (hapart : t.Apart) (x : ElementId) : (t.forget x).Named := by
  intro y e' hy
  rw [known?_forget hapart] at hy
  split at hy
  · cases hy
  · exact h y e' hy

theorem Named.markDirty (h : t.Named) (x : ElementId) : (t.markDirty x).Named :=
  h.modifyLoaded x (f := (·.setScanPending true)) fun _ => rfl

theorem Named.foldl {α : Type} {f : Topology → α → Topology}
    (hf : ∀ (t : Topology) (a : α), t.Named → (f t a).Named) (as : List α) (h : t.Named) :
    (as.foldl f t).Named := by
  induction as generalizing t with
  | nil => exact h
  | cons a as ih => exact ih (hf t a h)

theorem Named.claim (h : t.Named) (id : ControllerId) (es : List ElementId) : (t.claim id es).Named := by
  have hrivals : ((t.rivals id es).foldl invalidate t).Named :=
    Named.foldl (f := invalidate) (fun _ _ h => h) _ h
  have hone (t : Topology) (x : ElementId) (h : t.Named) : (t.claimOne id x).Named :=
    h.modifyLoaded x (f := (·.setScanPending false)) fun _ => rfl
  unfold Topology.claim
  generalize (t.rivals id es).foldl invalidate t = t₁ at hrivals
  have hreleased : (t₁.releaseClaims id).Named := hrivals
  exact Named.foldl hone es hreleased

theorem Named.unregister (h : t.Named) (id : ControllerId) : (t.unregister id).Named := by
  unfold Topology.unregister
  split
  · exact h
  · exact h

/-! ### Operations -/

theorem filed_empty : empty.Filed := ⟨nofun, nofun⟩

theorem Filed.insert (h : t.Filed) (e : Element) : (t.insert e).2.Filed :=
  ⟨(markDirty_sameEdges _ e.id).apart (apart_bringIn h.apart e.id e),
    Named.markDirty (Named.bringIn h.named rfl) e.id⟩

theorem Filed.unload (h : t.Filed) (x : ElementId) : (t.unload x).2.Filed := by
  unfold Topology.unload
  split
  · exact h
  · next e he =>
    exact ⟨(requestOwnerScan_sameEdges _ x).apart (apart_setAside h.apart x e),
      Named.setAside h.named (h.id_eq he)⟩

theorem Filed.reload (h : t.Filed) (x : ElementId) : (t.reload x).2.Filed := by
  unfold Topology.reload
  split
  · exact h
  · next e he =>
    have hknown : t.known? x = some e := by
      unfold known?
      cases hloaded : t.loaded.get? x with
      | none => exact he
      | some e' =>
        have hgone := h.apart x (Option.isSome_iff_exists.2 ⟨e', hloaded⟩)
        rw [Table.contains, he] at hgone
        cases hgone
    exact ⟨(markDirty_sameEdges _ x).apart (apart_bringIn h.apart x e),
      Named.markDirty (Named.bringIn h.named (h.named x e hknown)) x⟩

theorem Filed.remove (h : t.Filed) (x : ElementId) : (t.remove x).2.Filed := by
  refine ⟨apart_remove h.apart x, ?_⟩
  unfold Topology.remove
  split
  · exact h.named
  · next e _ =>
    have hdrop (t : Topology) (edge : Edge) (h : t.Named) : (t.dropEdge x edge).Named :=
      Named.markDirty (h.modifyKnown edge.target (f := (·.unlink x)) fun _ => rfl) edge.target
    exact Named.foldl hdrop e.edges (Named.forget h.named h.apart x)

theorem Filed.connect (h : t.Filed) (a : ElementId) (aSide : Option Side) (b : ElementId)
    (bSide : Option Side) : (t.connect a aSide b bSide).2.Filed := by
  refine ⟨apart_connect h.apart a aSide b bSide, ?_⟩
  have hlink (e : Element) (side : Option Side) (target : ElementId) : (e.link side target).id = e.id := by
    unfold Element.link
    split <;> rfl
  unfold Topology.connect
  split
  · next ea eb ha hb =>
    split
    · exact h.named
    · have hfirst := Named.replace h.named (e := ea.link aSide b) ((hlink ea aSide b).trans (h.id_eq ha))
      have hboth := hfirst.replace (e := eb.link bSide a) ((hlink eb bSide a).trans (h.id_eq hb))
      exact (hboth.markDirty a).markDirty b
  · exact h.named

theorem Filed.disconnect (h : t.Filed) (a b : ElementId) : (t.disconnect a b).2.Filed := by
  refine ⟨apart_disconnect h.apart a b, ?_⟩
  unfold Topology.disconnect
  dsimp only
  split
  · have hfirst := Named.modifyLoaded h.named a (f := (·.unlink b)) fun _ => rfl
    have hboth := hfirst.modifyLoaded b (f := (·.unlink a)) fun _ => rfl
    exact (hboth.markDirty a).markDirty b
  · exact h.named

theorem Filed.addDevice (h : t.Filed) (x : ElementId) (d : DeviceRef) : (t.addDevice x d).2.Filed := by
  refine ⟨(t.addDevice_sameEdges x d).apart h.apart, ?_⟩
  unfold Topology.addDevice
  split
  · exact h.named
  · next e he =>
    have hid : e.id = x := h.id_eq he
    exact Named.markDirty (Named.replace h.named (e := e.addDevice d) hid) x

theorem Filed.removeDevice (h : t.Filed) (x : ElementId) (device : DeviceId) :
    (t.removeDevice x device).2.Filed := by
  refine ⟨(t.removeDevice_sameEdges x device).apart h.apart, ?_⟩
  unfold Topology.removeDevice
  split
  · exact h.named
  · next e he =>
    split
    · exact h.named
    · next d e' hremoved =>
      have hid : e'.id = e.id := (congrArg (fun r => r.2.id) hremoved).symm
      exact Named.markDirty (Named.replace h.named (hid.trans (h.id_eq he))) x

theorem Filed.setProvider (h : t.Filed) (provider : Provider) : (t.setProvider provider).Filed := by
  refine ⟨(t.setProvider_sameEdges provider).apart h.apart, ?_⟩
  have hinstalled : { t with provider := some provider : Topology }.Named := h.named
  exact Named.foldl (fun t x h => h.markDirty x) _ hinstalled

/-- No operation on the topology files an element under another name, or in two tables. -/
theorem Filed.step (h : t.Filed) (op : TopologyOp) : (t.step op).2.Filed := by
  cases op with
  | insert e blocked devices => exact h.insert (.new e blocked devices)
  | putBack element => exact h.insert element
  | unload e => exact h.unload e
  | reload e => exact h.reload e
  | remove e => exact h.remove e
  | connect a aSide b bSide => exact h.connect a aSide b bSide
  | disconnect a b => exact h.disconnect a b
  | addDevice e d => exact h.addDevice e d
  | removeDevice e device => exact h.removeDevice e device
  | markDirty e => exact ⟨(t.markDirty_sameEdges e).apart h.apart, Named.markDirty h.named e⟩
  | setProvider provider => exact h.setProvider provider

end Topology

/-! ## Runs -/

namespace Controller

theorem scan_named {s : Site} (h : s.topology.Named) (c : Controller) : (c.scan s).2.topology.Named := by
  rcases c.scan_cases s with he | ⟨_, _, _, he⟩ | ⟨visits, _, _, _, -, -, he⟩
  · rw [he]
    exact h
  · rw [he]
    exact h
  · rw [he]
    exact Topology.Named.claim h c.id _

theorem absorb_named {s : Site} (h : s.topology.Named) (c : Controller) : (c.absorb s).2.topology.Named := by
  have hrevive : (c.revive s).2.topology.Named := by
    unfold revive
    split
    · exact h
    · exact h
  unfold absorb
  generalize c.revive s = p at hrevive
  obtain ⟨c₁, s₁⟩ := p
  have hnotice : (c₁.absorbInvalidation s₁).2.topology.Named := by
    rcases c₁.absorbInvalidation_cases s₁ with ⟨-, _, he⟩ | ⟨-, he⟩ <;>
    · rw [he]
      exact hrevive
  dsimp only
  rcases (c₁.absorbInvalidation s₁).1.absorbScanRequest_cases (c₁.absorbInvalidation s₁).2 with
    ⟨-, he⟩ | ⟨-, he⟩ <;>
  · rw [he]
    exact hnotice

theorem step_named {s : Site} (h : s.topology.Named) (c : Controller) (op : ControllerOp) :
    (c.step s op).2.2.topology.Named := by
  cases op with
  | poll =>
    show (c.poll s).2.topology.Named
    rw [poll_eq_absorb]
    unfold scanIfDue
    split
    · exact scan_named (absorb_named h c) _
    · exact absorb_named h c
  | scan => exact scan_named h c
  | dispose =>
    show (c.dispose s.topology).2.Named
    unfold dispose
    split
    · exact h
    · exact Topology.Named.unregister h c.id
  | scheduleScan => exact h
  | takeChanges => exact h

end Controller

theorem Network.act_filed {n : Network} (h : n.topology.Filed) (hw : Hardware) (a : Action) :
    (n.act hw a).topology.Filed := by
  by_cases htopology : ∃ op, a = .topology op
  · obtain ⟨op, rfl⟩ := htopology
    exact h.step op
  · refine ⟨(n.act_sameEdges hw fun op heq => htopology ⟨op, heq⟩).apart h.apart, ?_⟩
    cases a with
    | topology op => exact absurd ⟨op, rfl⟩ htopology
    | join seat root config =>
      unfold act
      dsimp only
      split
      · exact h.named
      · exact h.named
    | restore seat members =>
      unfold act
      dsimp only
      split
      · exact h.named
      · exact h.named
    | control seat op =>
      unfold act
      dsimp only
      split
      · exact h.named
      · next c _ => exact Controller.step_named (s := ⟨n.topology, hw⟩) h.named c op

/-- In every run every element is in one table only, under its own name. -/
theorem World.run_filed (ops : List Op) : (empty.run ops).site.topology.Filed :=
  network_induction (w := empty) (I := fun n => n.topology.Filed) (Q := fun _ => True)
    (fun _ hw a _ h => Network.act_filed h hw a) Topology.filed_empty ops fun _ _ _ _ _ => trivial

/-! ## Walks -/

namespace Scan

/-- The visits of a walk. -/
structure Traverses (t : Topology) (root : ElementId) (visits : List Visit) : Prop where
  starts : ∃ rest, visits = ⟨root, none⟩ :: rest
  nodup : (visits.map Query.element).Nodup
  /-- Exactly the elements that can be reached are visited. -/
  mem_iff : ∀ id, id ∈ visits.map Query.element ↔ t.Reachable root id
  /-- No path to the later of two elements is shorter than all to the earlier one. -/
  distance : visits.Pairwise fun v v' =>
    ∀ n, t.Reaches root n v'.element → ∃ m ≤ n, t.Reaches root m v.element
  entered : ∀ v ∈ visits, v.element ≠ root → Entered t (visits.map Query.element) v

/-- The loop of a walk is over after as many rounds as there are loaded elements.  It completes exactly if
no element that can be reached has an open edge to one that is set aside, and no more elements than allowed
can be reached.  What it visits then is what can be reached: the root first, nothing twice, in the order of
the distances, and each element entered from the first one with an open edge to it. -/
theorem walk_traverses {t : Topology} (hfiled : t.Filed) (root : ElementId) (limit : Nat) :
    (t.loaded.contains root = true →
      (∀ steps, t.size ≤ steps →
        explore t limit steps (.start root) = explore t limit t.size (.start root)) ∧
      ∀ s, explore t limit t.size (.start root) = .ok s → s.queue = []) ∧
    ((∃ visits, walk t root limit = .ok visits) ↔ Traversable t root limit) ∧
    ∀ visits, walk t root limit = .ok visits → Traverses t root visits := by
  refine ⟨fun hroot => ⟨fun _ => explore_of_size_le hroot, fun _ => explore_ends hroot⟩,
    walk_completes_iff hfiled, fun visits h => ?_⟩
  obtain ⟨s, done, rfl, hend, hswept, hcovers⟩ := walk_swept hfiled h
  have hmem {id : ElementId} : id ∈ s.elements ↔ _ := hswept.mem_iff hcovers hend
  exact ⟨hswept.starts, hswept.tidy.nodup, fun _ => hmem, List.pairwise_map.1 (hswept.distance hmem),
    hswept.entered⟩

/-- Around a ring of three elements with an edge out of it through a blocked side, a walk visits the ring: it
enters the second element by its own side, and the third, which comes back through an inner link, by none. -/
theorem ring_is_traversed :
    let ops : List Op := [.topology (.insert ⟨1⟩ [] []), .topology (.insert ⟨2⟩ [] []),
      .topology (.insert ⟨3⟩ [.up] []), .topology (.insert ⟨4⟩ [] []),
      .topology (.connect ⟨1⟩ (some .east) ⟨2⟩ (some .west)),
      .topology (.connect ⟨1⟩ (some .south) ⟨3⟩ none), .topology (.connect ⟨2⟩ none ⟨3⟩ none),
      .topology (.connect ⟨3⟩ (some .up) ⟨4⟩ (some .down))]
    let t := (World.empty.run ops).site.topology
    walk t ⟨1⟩ 3 = .ok [⟨⟨1⟩, none⟩, ⟨⟨2⟩, some .west⟩, ⟨⟨3⟩, none⟩] ∧
      Traverses t ⟨1⟩ [⟨⟨1⟩, none⟩, ⟨⟨2⟩, some .west⟩, ⟨⟨3⟩, none⟩] := by
  intro ops t
  have hwalk : walk t ⟨1⟩ 3 = .ok [⟨⟨1⟩, none⟩, ⟨⟨2⟩, some .west⟩, ⟨⟨3⟩, none⟩] := by decide
  exact ⟨hwalk, (walk_traverses (World.run_filed ops) ⟨1⟩ 3).2.2 _ hwalk⟩

end Scan

end DeviceBus
