import DeviceBus.Proofs.Topology.Edges
import Mathlib.Data.List.Nodup

/-!
# Neighbours

An element has one edge at most to each of its neighbours, and none to itself (`Edge.Proper`).  An edge is
added by a connection only, which looks for it first, and every other operation leaves each element some
of the edges it had (`Topology.Thins`).  A new element may come with edges, if it was handed out before.
-/

namespace DeviceBus

/-- No two edges of an element lead to the same neighbour, and none leads back to it. -/
structure Edge.Proper (x : ElementId) (edges : List Edge) : Prop where
  nodup : (edges.map Edge.target).Nodup
  apart : x ∉ edges.map Edge.target

namespace Edge.Proper

variable {x : ElementId} {edges edges' : List Edge}

theorem nil (x : ElementId) : Proper x [] := ⟨List.nodup_nil, List.not_mem_nil⟩

theorem sublist (h : Proper x edges) (hsub : edges'.Sublist edges) : Proper x edges' :=
  ⟨h.nodup.sublist (hsub.map _), fun hmem => h.apart ((hsub.map _).mem hmem)⟩

/-- A link adds an edge only if there is none yet. -/
theorem link {e : Element} (h : Proper x e.edges) (side : Option Side) {target : ElementId}
    (hne : target ≠ x) : Proper x (e.link side target).edges := by
  unfold Element.link
  split
  · exact h
  · next hfree =>
    have hnew : target ∉ e.edges.map Edge.target := by
      intro hmem
      obtain ⟨edge, hedge, heq⟩ := List.mem_map.1 hmem
      exact hfree (Element.hasEdge_eq_true_iff.2 ⟨edge, hedge, heq⟩)
    refine ⟨?_, ?_⟩
    · rw [List.map_append, List.map_singleton, ← List.concat_eq_append]
      exact h.nodup.concat hnew
    · rw [List.map_append, List.map_singleton, List.mem_append, List.mem_singleton, not_or]
      exact ⟨h.apart, hne.symm⟩

end Edge.Proper

namespace Topology

variable {t t' t'' : Topology} {x : ElementId} {e : Element}

/-- The edges of every element are proper. -/
def ProperEdges (t : Topology) : Prop := ∀ x e, t.known? x = some e → Edge.Proper x e.edges

/-- Every element was known before, and has some of the edges that it had. -/
def Thins (t t' : Topology) : Prop :=
  ∀ x e', t'.known? x = some e' → ∃ e, t.known? x = some e ∧ e'.edges.Sublist e.edges

theorem ProperEdges.thins (h : t.ProperEdges) (hthins : t.Thins t') : t'.ProperEdges := by
  intro x e' he'
  obtain ⟨e, he, hsub⟩ := hthins x e' he'
  exact (h x e he).sublist hsub

theorem Thins.refl (t : Topology) : t.Thins t := fun _ e he => ⟨e, he, List.Sublist.refl _⟩

theorem Thins.trans (h : t.Thins t') (h' : t'.Thins t'') : t.Thins t'' := by
  intro x e'' he''
  obtain ⟨e', he', hsub'⟩ := h' x e'' he''
  obtain ⟨e, he, hsub⟩ := h x e' he'
  exact ⟨e, he, hsub'.trans hsub⟩

theorem Thins.of_known? (h : ∀ x, t'.known? x = t.known? x) : t.Thins t' :=
  fun x e he => ⟨e, (h x).symm.trans he, List.Sublist.refl _⟩

theorem SameEdges.thins (h : t.SameEdges t') : t.Thins t' := by
  intro x e' he'
  have hknown := h.known? x
  rw [he', Option.map_some] at hknown
  obtain ⟨e, he, hedges⟩ := Option.map_eq_some_iff.1 hknown.symm
  exact ⟨e, he, hedges ▸ List.Sublist.refl _⟩

/-- An element that is changed where it is loaded, and loses edges at most. -/
theorem modifyLoaded_thins (t : Topology) (x : ElementId) {f : Element → Element}
    (hf : ∀ e, (f e).edges.Sublist e.edges) : t.Thins { t with loaded := t.loaded.modify x f } := by
  intro y e' he'
  rw [known?_modifyLoaded] at he'
  split at he'
  · obtain ⟨e, he, rfl⟩ := Option.map_eq_some_iff.1 he'
    exact ⟨e, he, hf e⟩
  · exact ⟨e', he', List.Sublist.refl _⟩

theorem modifyKnown_thins (t : Topology) (x : ElementId) {f : Element → Element}
    (hf : ∀ e, (f e).edges.Sublist e.edges) : t.Thins (t.modifyKnown x f) := by
  intro y e' he'
  rw [known?_modifyKnown] at he'
  split at he'
  · obtain ⟨e, he, rfl⟩ := Option.map_eq_some_iff.1 he'
    exact ⟨e, he, hf e⟩
  · exact ⟨e', he', List.Sublist.refl _⟩

theorem foldl_thins {α : Type} {f : Topology → α → Topology}
    (hf : ∀ (t : Topology) (a : α), t.Thins (f t a)) (as : List α) (t : Topology) :
    t.Thins (as.foldl f t) := by
  induction as generalizing t with
  | nil => exact .refl t
  | cons a as ih => exact (hf t a).trans (ih (f t a))

/-! ## Operations -/

theorem known?_of_loaded (he : t.loaded.get? x = some e) : t.known? x = some e := by
  unfold known?
  rw [he]
  rfl

theorem known?_of_unloaded (h : t.Apart) (he : t.unloaded.get? x = some e) : t.known? x = some e := by
  cases hloaded : t.loaded.get? x with
  | none =>
    unfold known?
    rw [hloaded]
    exact he
  | some e' =>
    have hgone := h x (Option.isSome_iff_exists.2 ⟨e', hloaded⟩)
    rw [Table.contains, he] at hgone
    cases hgone

/-- An element that is set aside stays known as it was, and so do all others. -/
theorem known?_setAside_of_loaded (he : t.loaded.get? x = some e) (y : ElementId) :
    known? { t with loaded := t.loaded.erase x, unloaded := t.unloaded.insert x e } y = t.known? y := by
  rw [known?_setAside]
  split
  · next hxy => rw [← hxy, known?_of_loaded he]
  · rfl

theorem unload_thins (t : Topology) (x : ElementId) : t.Thins (t.unload x).2 := by
  unfold unload
  split
  · exact .refl t
  · next e he => exact .of_known? (known?_setAside_of_loaded he)

theorem reload_thins (h : t.Apart) (x : ElementId) : t.Thins (t.reload x).2 := by
  unfold reload
  split
  · exact .refl t
  · next e he =>
    have hbroughtIn : t.Thins { t with loaded := t.loaded.insert x e, unloaded := t.unloaded.erase x } := by
      refine .of_known? fun y => (known?_bringIn t x e y).trans ?_
      split
      · next hxy => rw [← hxy, known?_of_unloaded h he]
      · rfl
    exact hbroughtIn.trans (markDirty_sameEdges _ x).thins

theorem unlink_sublist (e : Element) (target : ElementId) : (e.unlink target).edges.Sublist e.edges :=
  List.filter_sublist

theorem remove_thins (h : t.Apart) (x : ElementId) : t.Thins (t.remove x).2 := by
  have hforget : t.Thins (t.forget x) := by
    intro y e' he'
    rw [known?_forget h] at he'
    split at he'
    · cases he'
    · exact ⟨e', he', List.Sublist.refl _⟩
  have hdrop (t : Topology) (edge : Edge) : t.Thins (t.dropEdge x edge) :=
    (t.modifyKnown_thins edge.target fun e => unlink_sublist e x).trans
      (markDirty_sameEdges _ edge.target).thins
  unfold remove
  split
  · exact .refl t
  · next e _ =>
    have hdropped := hforget.trans (foldl_thins hdrop e.edges (t.forget x))
    exact hdropped.trans (.of_known? fun _ => rfl)

theorem disconnect_thins (t : Topology) (a b : ElementId) : t.Thins (t.disconnect a b).2 := by
  unfold disconnect
  dsimp only
  split
  · have hfirst := t.modifyLoaded_thins a (f := (·.unlink b)) fun e => unlink_sublist e b
    have hboth := hfirst.trans (modifyLoaded_thins _ b (f := (·.unlink a)) fun e => unlink_sublist e a)
    exact hboth.trans ((markDirty_sameEdges _ a).trans (markDirty_sameEdges _ b)).thins
  · exact .refl t

theorem ProperEdges.replace (h : t.ProperEdges) (he : Edge.Proper x e.edges) :
    { t with loaded := t.loaded.insert x e : Topology }.ProperEdges := by
  intro y e' he'
  rw [known?_replace] at he'
  split at he'
  · next hxy =>
    cases he'
    exact hxy ▸ he
  · exact h y e' he'

theorem ProperEdges.connect (h : t.ProperEdges) (a : ElementId) (aSide : Option Side) (b : ElementId)
    (bSide : Option Side) : (t.connect a aSide b bSide).2.ProperEdges := by
  unfold Topology.connect
  split
  · next ea eb ha hb =>
    split
    · exact h
    · next hmade =>
      have hne : a ≠ b := fun heq => hmade (.inl heq)
      have hfirst := h.replace ((h a ea (known?_of_loaded ha)).link aSide hne.symm)
      have hboth := hfirst.replace ((h b eb (known?_of_loaded hb)).link bSide hne)
      exact hboth.thins ((markDirty_sameEdges _ a).trans (markDirty_sameEdges _ b)).thins
  · exact h

theorem ProperEdges.insert (h : t.ProperEdges) (he : Edge.Proper e.id e.edges) :
    (t.insert e).2.ProperEdges := by
  suffices hraw : { t with
      loaded := t.loaded.insert e.id e, unloaded := t.unloaded.erase e.id : Topology }.ProperEdges from
    hraw.thins (markDirty_sameEdges _ e.id).thins
  intro y e' he'
  rw [known?_bringIn] at he'
  split at he'
  · next hxy =>
    cases he'
    exact hxy ▸ he
  · exact h y e' he'

/-- No operation on the topology doubles an edge, or leads one back, if the edges of what is put back are
proper. -/
theorem ProperEdges.step (h : t.ProperEdges) (hapart : t.Apart) {op : TopologyOp}
    (hop : ∀ e, op = .putBack e → Edge.Proper e.id e.edges) : (t.step op).2.ProperEdges := by
  cases op with
  | insert x blocked devices => exact h.insert (e := .new x blocked devices) (.nil x)
  | putBack element => exact h.insert (hop element rfl)
  | unload x => exact h.thins (t.unload_thins x)
  | reload x => exact h.thins (reload_thins hapart x)
  | remove x => exact h.thins (remove_thins hapart x)
  | connect a aSide b bSide => exact h.connect a aSide b bSide
  | disconnect a b => exact h.thins (t.disconnect_thins a b)
  | addDevice x d => exact h.thins (t.addDevice_sameEdges x d).thins
  | removeDevice x device => exact h.thins (t.removeDevice_sameEdges x device).thins
  | markDirty x => exact h.thins (t.markDirty_sameEdges x).thins
  | setProvider provider => exact h.thins (t.setProvider_sameEdges provider).thins

end Topology

end DeviceBus
