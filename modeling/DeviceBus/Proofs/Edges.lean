import DeviceBus.Proofs.Controller
import DeviceBus.Proofs.Network
import DeviceBus.Proofs.Topology.Edges
import Mathlib.Data.List.Induction
import Mathlib.Data.List.Infix

/-!
# Edges in runs

Controllers and machines change no edges, so the edges are in the hands of the operations on the
topology, whatever else the host does (`World.step_sameEdges`).  In a run that begins without elements
the edges between known elements are symmetric at every point, and no element that is removed leaves an
edge to it behind, exactly if no operation halves an edge (`World.keepsEdges_iff`).
-/

namespace DeviceBus

open Network (Action)

namespace Controller

theorem scan_sameEdges (c : Controller) (s : Site) :
    s.topology.SameEdges (c.scan s).2.topology := by
  rcases c.scan_cases s with he | ⟨_, _, _, he⟩ | ⟨visits, _, _, _, -, -, he⟩
  · rw [he]
    exact .refl _
  · rw [he]
    exact .of_tables rfl rfl
  · rw [he]
    exact s.topology.claim_sameEdges c.id _

theorem poll_sameEdges (c : Controller) (s : Site) :
    s.topology.SameEdges (c.poll s).2.topology := by
  have hrevive : s.topology.SameEdges (c.revive s).2.topology := by
    unfold revive
    split
    · exact .of_tables rfl rfl
    · exact .refl _
  have habsorb (c : Controller) (s : Site) :
      s.topology.SameEdges (c.absorbInvalidation s).2.topology := by
    rcases c.absorbInvalidation_cases s with ⟨-, _, he⟩ | ⟨-, he⟩
    · rw [he]
      exact .of_tables rfl rfl
    · rw [he]
      exact .of_tables rfl rfl
  have hrequest (c : Controller) (s : Site) :
      s.topology.SameEdges (c.absorbScanRequest s).2.topology := by
    rcases c.absorbScanRequest_cases s with ⟨-, he⟩ | ⟨-, he⟩
    · rw [he]
      exact .of_tables rfl rfl
    · rw [he]
      exact .of_tables rfl rfl
  have htold := (hrevive.trans (habsorb (c.revive s).1 (c.revive s).2)).trans
    (hrequest ((c.revive s).1.absorbInvalidation (c.revive s).2).1
      ((c.revive s).1.absorbInvalidation (c.revive s).2).2)
  unfold poll
  dsimp only
  split
  · exact htold.trans (scan_sameEdges _ _)
  · exact htold

theorem step_sameEdges (c : Controller) (s : Site) (op : ControllerOp) :
    s.topology.SameEdges (c.step s op).2.2.topology := by
  cases op with
  | poll => exact c.poll_sameEdges s
  | scan => exact c.scan_sameEdges s
  | dispose =>
    show s.topology.SameEdges (c.dispose s.topology).2
    unfold dispose
    split
    · exact .refl _
    · exact s.topology.unregister_sameEdges c.id
  | scheduleScan => exact .refl _
  | takeChanges => exact .refl _

end Controller

/-- What a controller does, or a new one, changes no edges. -/
theorem Network.act_sameEdges (n : Network) (hw : Hardware) {a : Action} (ha : ∀ op, a ≠ .topology op) :
    n.topology.SameEdges (n.act hw a).topology := by
  cases a with
  | topology op => exact absurd rfl (ha op)
  | join seat root config =>
    unfold act
    dsimp only
    split
    · exact .refl _
    · exact .of_tables rfl rfl
  | control seat op =>
    unfold act
    dsimp only
    split
    · exact .refl _
    · next c _ => exact c.step_sameEdges ⟨n.topology, hw⟩ op
  | restore seat members =>
    unfold act
    dsimp only
    split
    · exact .refl _
    · exact .refl _

namespace World

/-- Only the operations on the topology change edges. -/
theorem step_sameEdges (w : World) {op : Op} (hop : ∀ top, op ≠ .topology top) :
    w.site.topology.SameEdges (w.step op).2.site.topology := by
  refine w.step_induction (I := fun n => w.site.topology.SameEdges n.topology) (fun n a ha hn => ?_) (.refl _)
  refine hn.trans (n.act_sameEdges _ ?_)
  rintro top rfl
  exact hop top (eq_of_topology_mem_actions ha)

/-- In a run that halves no edge the two halves of all edges are together. -/
theorem run_mutual {w : World} (h : w.site.topology.Mutual) (ops : List Op)
    (hops : ∀ pre op, pre ++ [.topology op] <+: ops → ¬ (w.run pre).site.topology.Halves op) :
    (w.run ops).site.topology.Mutual := by
  induction ops using List.reverseRecOn with
  | nil => exact h
  | append_singleton ops op ih =>
    have hbefore := ih fun pre top hpre => hops pre top (hpre.trans (List.prefix_append _ _))
    rw [run_snoc]
    by_cases htop : ∃ top, op = .topology top
    · obtain ⟨top, rfl⟩ := htop
      exact hbefore.step (hops ops top (List.prefix_refl _))
    · exact hbefore.sameEdges ((w.run ops).step_sameEdges fun top heq => htop ⟨top, heq⟩)

/-- At every point of a run the edges between known elements are symmetric, and no known element has an
edge to one that was just removed. -/
structure KeepsEdges (ops : List Op) : Prop where
  symmetric : ∀ pre, pre <+: ops → (empty.run pre).site.topology.Symmetric
  removed : ∀ pre id e, pre ++ [.topology (.remove id)] <+: ops →
    ((empty.run pre).step (.topology (.remove id))).1 = .element (some e) →
    ∀ a, (empty.run (pre ++ [.topology (.remove id)])).site.topology.leads a id = false

/-- An element that is handed out was known. -/
theorem knows_of_removed {w : World} {id : ElementId} {e : Element}
    (h : (w.step (.topology (.remove id))).1 = .element (some e)) : w.site.topology.knows id = true := by
  have hremoved : (w.site.topology.remove id).1 = some e := Answer.element.inj h
  rw [← Topology.known?_isSome]
  unfold Topology.remove at hremoved
  split at hremoved
  · cases hremoved
  · next hknown =>
    rw [hknown]
    rfl

/-- A run keeps its edges exactly if none of its operations disconnects an element from one that is set
aside, or brings in an element whose edges are not those that the others have to it. -/
theorem keepsEdges_iff (ops : List Op) :
    KeepsEdges ops ↔
      ∀ pre op, pre ++ [.topology op] <+: ops → ¬ (empty.run pre).site.topology.Halves op := by
  have hmutual (ops : List Op) (hops : ∀ pre op, pre ++ [.topology op] <+: ops →
      ¬ (empty.run pre).site.topology.Halves op) : (empty.run ops).site.topology.Mutual :=
    run_mutual Topology.empty_mutual ops hops
  constructor
  · intro hkeeps
    -- the first operation that halves an edge finds the halves of all edges together
    induction ops using List.reverseRecOn with
    | nil =>
      intro pre op hpre
      have hnil := List.prefix_nil.1 hpre
      exact absurd hnil (List.append_ne_nil_of_right_ne_nil _ (List.cons_ne_nil _ _))
    | append_singleton ops last ih =>
      have hbefore := ih ⟨fun pre hpre => hkeeps.symmetric pre (hpre.trans (List.prefix_append _ _)),
        fun pre id e hpre => hkeeps.removed pre id e (hpre.trans (List.prefix_append _ _))⟩
      intro pre op hpre hhalves
      rcases List.prefix_concat_iff.1 hpre with heq | hpre
      · obtain ⟨rfl, hlast⟩ := List.append_inj' heq rfl
        obtain rfl := List.singleton_inj.1 hlast
        refine (hmutual pre hbefore).not_symmetric hhalves ?_
        have hsymmetric := hkeeps.symmetric _ (List.prefix_refl _)
        rw [run_snoc] at hsymmetric
        exact hsymmetric
      · exact hbefore pre op hpre hhalves
  · intro hops
    refine ⟨?_, ?_⟩
    · intro pre hpre
      exact (hmutual pre fun pre' op hpre' => hops pre' op (hpre'.trans hpre)).symmetric
    · intro pre id e hpre hanswer a
      have hprefix : pre <+: ops := (List.prefix_append _ _).trans hpre
      have hbefore := hmutual pre fun pre' op hpre' => hops pre' op (hpre'.trans hprefix)
      have hknown := knows_of_removed hanswer
      rw [run_snoc]
      refine (hbefore.leads_remove hknown a id).trans ?_
      rw [decide_eq_true rfl, Bool.not_true, Bool.and_false]

/-- An edge to an element that is set aside is cut at one end only, and the other end is left when its
target is removed. -/
theorem half_of_cut_edge_stays :
    let pre : List Op := [.topology (.insert ⟨1⟩ [] []), .topology (.insert ⟨2⟩ [] []),
      .topology (.connect ⟨1⟩ none ⟨2⟩ none), .topology (.unload ⟨2⟩), .topology (.disconnect ⟨1⟩ ⟨2⟩)]
    let w := empty.run pre
    w.site.topology.leads ⟨1⟩ ⟨2⟩ = false ∧ w.site.topology.leads ⟨2⟩ ⟨1⟩ = true ∧
      (w.site.topology.remove ⟨1⟩).1.isSome = true ∧
      (w.step (.topology (.remove ⟨1⟩))).2.site.topology.leads ⟨2⟩ ⟨1⟩ = true ∧ ¬ KeepsEdges pre := by
  intro pre w
  refine ⟨by decide, by decide, by decide, by decide, fun hkeeps => ?_⟩
  have hsymmetric := hkeeps.symmetric pre (List.prefix_refl _) ⟨1⟩ ⟨2⟩ (by decide) (by decide)
  exact absurd hsymmetric (by decide)

end World

end DeviceBus
