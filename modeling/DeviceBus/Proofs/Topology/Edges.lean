import DeviceBus.Proofs.Topology.Claims

/-!
# The two halves of an edge

An element keeps its own edges, so an edge between two elements is kept twice, once by each of them,
and either of the two may be set aside.  What an operation makes of all edges is told by
`Topology.leads`, whichever of the tables the elements are in:

    (t.disconnect a b).2.leads x y =
      (t.leads x y && !t.severs a b x y && !t.severs b a x y)                 (leads_disconnect)

An operation that leaves half of an edge behind halves it (`Topology.Halves`): it disconnects an element
from one that is set aside, or brings in an element whose edges are not those that other elements have to
it (`Topology.Clashes`).  An element that was handed out comes back with the edges it had, so it may have
edges to elements that are not known; these are no halves as long as they are not.  Every other operation
keeps the two halves of all edges between known elements together (`Topology.Mutual.step`), and these
never do (`Topology.Mutual.not_symmetric`).
-/

namespace DeviceBus

/-! ## Edges of one element -/

namespace Element

theorem hasEdge_eq_true_iff {e : Element} {x : ElementId} :
    e.hasEdge x = true ↔ ∃ edge ∈ e.edges, edge.target = x := by
  unfold hasEdge
  rw [List.any_eq_true]
  simp only [decide_eq_true_iff]

theorem hasEdge_link (e : Element) (side : Option Side) (x y : ElementId) :
    (e.link side x).hasEdge y = (e.hasEdge y || decide (y = x)) := by
  unfold link
  split
  · next h =>
    by_cases hy : y = x
    · rw [hy, h]
      rfl
    · rw [decide_eq_false hy, Bool.or_false]
  · unfold hasEdge
    rw [List.any_append, List.any_cons, List.any_nil, Bool.or_false]
    congr 1
    exact decide_eq_decide.2 eq_comm

theorem hasEdge_unlink (e : Element) (x y : ElementId) :
    (e.unlink x).hasEdge y = (e.hasEdge y && !decide (y = x)) := by
  rw [Bool.eq_iff_iff, Bool.and_eq_true, Bool.not_eq_true', decide_eq_false_iff_not,
    hasEdge_eq_true_iff, hasEdge_eq_true_iff]
  unfold unlink
  constructor
  · rintro ⟨edge, hedge, rfl⟩
    obtain ⟨hmem, hne⟩ := List.mem_filter.1 hedge
    exact ⟨⟨edge, hmem, rfl⟩, of_decide_eq_true hne⟩
  · rintro ⟨⟨edge, hmem, rfl⟩, hne⟩
    exact ⟨edge, List.mem_filter.2 ⟨hmem, decide_eq_true hne⟩, rfl⟩

end Element

namespace Topology

/-! ## Edges of all elements -/

/-- Whether a known element, loaded or not, has an edge to an element. -/
def leads (t : Topology) (a b : ElementId) : Bool := (t.known? a).any (·.hasEdge b)

/-- Of two known elements, each has an edge to the other or neither has. -/
def Symmetric (t : Topology) : Prop :=
  ∀ a b, t.knows a = true → t.knows b = true → t.leads a b = t.leads b a

/-- Whether an element has an edge to another known element that has none to its name, or the other way
round. -/
def Clashes (t : Topology) (e : Element) : Prop :=
  ∃ y, t.knows y = true ∧ y ≠ e.id ∧ e.hasEdge y ≠ t.leads y e.id

/-- Whether an operation leaves one half of an edge behind. -/
def Halves (t : Topology) : TopologyOp → Prop
  | .insert id blocked devices => t.Clashes (.new id blocked devices)
  | .putBack element => t.Clashes element
  | .disconnect a b =>
    t.leads a b = true ∧ t.knows b = true ∧ t.loaded.contains a ≠ t.loaded.contains b
  | _ => False

variable {t t' t'' : Topology} {a b x y : ElementId}

theorem leads_of_known? {e : Element} (h : t.known? a = some e) (b : ElementId) :
    t.leads a b = e.hasEdge b := by
  unfold leads
  rw [h]
  rfl

theorem knows_of_leads (h : t.leads a b = true) : t.knows a = true := by
  obtain ⟨e, he, -⟩ := (Option.any_eq_true _ _).1 h
  rw [← known?_isSome, he]
  rfl

/-! ### Look-ups in changed tables -/

/-- An element that is brought in is known, and the others are as before. -/
theorem known?_bringIn (t : Topology) (x : ElementId) (e : Element) (y : ElementId) :
    { t with loaded := t.loaded.insert x e, unloaded := t.unloaded.erase x : Topology }.known? y =
      if x = y then some e else t.known? y := by
  unfold known?
  rw [Table.get?_insert, Table.get?_erase]
  simp only [ElementId.index_eq_iff]
  split <;> rfl

/-- An element that is set aside is still known, and the others are as before. -/
theorem known?_setAside (t : Topology) (x : ElementId) (e : Element) (y : ElementId) :
    { t with loaded := t.loaded.erase x, unloaded := t.unloaded.insert x e : Topology }.known? y =
      if x = y then some e else t.known? y := by
  unfold known?
  rw [Table.get?_insert, Table.get?_erase]
  simp only [ElementId.index_eq_iff]
  split <;> rfl

/-- A loaded element is put in the place of another. -/
theorem known?_replace (t : Topology) (x : ElementId) (e : Element) (y : ElementId) :
    { t with loaded := t.loaded.insert x e : Topology }.known? y =
      if x = y then some e else t.known? y := by
  unfold known?
  rw [Table.get?_insert]
  simp only [ElementId.index_eq_iff]
  split <;> rfl

/-- Elements are changed where they are loaded. -/
theorem known?_modifyLoaded (t : Topology) (x : ElementId) (f : Element → Element) (y : ElementId) :
    { t with loaded := t.loaded.modify x f : Topology }.known? y =
      if x = y ∧ t.loaded.contains x = true then (t.known? y).map f else t.known? y := by
  unfold known? Table.contains
  rw [Table.get?_modify]
  simp only [ElementId.index_eq_iff]
  by_cases hxy : x = y
  · subst hxy
    cases t.loaded.get? x <;> simp
  · simp [hxy]

/-- Elements are changed wherever they are. -/
theorem known?_modifyKnown (t : Topology) (x : ElementId) (f : Element → Element) (y : ElementId) :
    (t.modifyKnown x f).known? y = if x = y then (t.known? y).map f else t.known? y := by
  unfold modifyKnown
  split
  · next h =>
    rw [known?_modifyLoaded]
    simp only [h, and_true]
  · next h =>
    unfold known?
    rw [Table.get?_modify]
    simp only [ElementId.index_eq_iff]
    split
    · next hxy =>
      have hnone : t.loaded.get? y = none := by
        rw [← hxy]
        exact Option.not_isSome_iff_eq_none.1 h
      rw [hnone]
      rfl
    · rfl

/-! ## Operations that leave the edges alone -/

/-- The same elements are loaded and set aside, and they have the same edges. -/
structure SameEdges (t t' : Topology) : Prop where
  loaded : ∀ a, (t'.loaded.get? a).map Element.edges = (t.loaded.get? a).map Element.edges
  unloaded : t'.unloaded = t.unloaded

theorem SameEdges.of_tables (hloaded : t'.loaded = t.loaded) (hunloaded : t'.unloaded = t.unloaded) :
    t.SameEdges t' := ⟨fun _ => by rw [hloaded], hunloaded⟩

theorem SameEdges.refl (t : Topology) : t.SameEdges t := ⟨fun _ => rfl, rfl⟩

theorem SameEdges.trans (h : t.SameEdges t') (h' : t'.SameEdges t'') : t.SameEdges t'' :=
  ⟨fun a => (h'.loaded a).trans (h.loaded a), h'.unloaded.trans h.unloaded⟩

theorem SameEdges.contains (h : t.SameEdges t') (a : ElementId) :
    t'.loaded.contains a = t.loaded.contains a := by
  have hsome := congrArg Option.isSome (h.loaded a)
  rwa [Option.isSome_map, Option.isSome_map] at hsome

theorem SameEdges.known? (h : t.SameEdges t') (a : ElementId) :
    (t'.known? a).map Element.edges = (t.known? a).map Element.edges := by
  unfold Topology.known?
  have hloaded := h.loaded a
  rw [h.unloaded]
  cases hget : t.loaded.get? a with
  | none =>
    rw [hget] at hloaded
    rw [Option.map_eq_none_iff.1 hloaded]
  | some e =>
    rw [hget] at hloaded
    obtain ⟨e', he', hedges⟩ := Option.map_eq_some_iff.1 hloaded
    rw [he']
    exact congrArg some hedges

theorem SameEdges.knows (h : t.SameEdges t') (a : ElementId) : t'.knows a = t.knows a := by
  have hsome := congrArg Option.isSome (h.known? a)
  rwa [Option.isSome_map, Option.isSome_map, known?_isSome, known?_isSome] at hsome

theorem SameEdges.leads (h : t.SameEdges t') (a b : ElementId) : t'.leads a b = t.leads a b := by
  have hknown := congrArg (Option.any fun edges : List Edge => edges.any (·.target = b)) (h.known? a)
  rw [Option.any_map, Option.any_map] at hknown
  exact hknown

/-- A loaded element is changed otherwise than in its edges. -/
theorem modify_sameEdges (t : Topology) (x : ElementId) {f : Element → Element}
    (hf : ∀ e, (f e).edges = e.edges) : t.SameEdges { t with loaded := t.loaded.modify x f } := by
  refine ⟨fun a => ?_, rfl⟩
  show ((t.loaded.modify x f).get? a).map _ = _
  rw [Table.get?_modify]
  split
  · rw [Option.map_map]
    congr 1
    exact funext hf
  · rfl

/-- A loaded element is replaced by one with the same edges. -/
theorem replace_sameEdges {e e' : Element} (he : t.loaded.get? x = some e) (hedges : e'.edges = e.edges) :
    t.SameEdges { t with loaded := t.loaded.insert x e' } := by
  refine ⟨fun a => ?_, rfl⟩
  show ((t.loaded.insert x e').get? a).map _ = _
  rw [Table.get?_insert]
  split
  · next hindex =>
    rw [← Key.index_inj hindex, he]
    exact congrArg some hedges
  · rfl

theorem foldl_sameEdges {α : Type} {f : Topology → α → Topology}
    (hf : ∀ (t : Topology) (a : α), t.SameEdges (f t a)) (as : List α) (t : Topology) :
    t.SameEdges (as.foldl f t) := by
  induction as generalizing t with
  | nil => exact .refl t
  | cons a as ih => exact (hf t a).trans (ih (f t a))

theorem requestOwnerScan_sameEdges (t : Topology) (x : ElementId) :
    t.SameEdges (t.requestOwnerScan x) := .of_tables rfl rfl

theorem markDirty_sameEdges (t : Topology) (x : ElementId) : t.SameEdges (t.markDirty x) :=
  (t.modify_sameEdges x (f := (·.setScanPending true)) fun _ => rfl).trans
    (requestOwnerScan_sameEdges _ x)

theorem addDevice_sameEdges (t : Topology) (x : ElementId) (d : DeviceRef) :
    t.SameEdges (t.addDevice x d).2 := by
  unfold addDevice
  split
  · exact .refl t
  · next e he =>
    have hreplace : t.SameEdges { t with loaded := t.loaded.insert x (e.addDevice d) } :=
      replace_sameEdges he rfl
    exact hreplace.trans (markDirty_sameEdges _ x)

theorem removeDevice_sameEdges (t : Topology) (x : ElementId) (device : DeviceId) :
    t.SameEdges (t.removeDevice x device).2 := by
  unfold removeDevice
  split
  · exact .refl t
  · next e he =>
    split
    · exact .refl t
    · next d e' hremoved =>
      have hedges : e'.edges = e.edges := (congrArg (fun r => r.2.edges) hremoved).symm
      have hreplace : t.SameEdges { t with loaded := t.loaded.insert x e' } :=
        replace_sameEdges he hedges
      exact hreplace.trans (markDirty_sameEdges _ x)

theorem setProvider_sameEdges (t : Topology) (provider : Provider) :
    t.SameEdges (t.setProvider provider) := by
  have hprovider : t.SameEdges { t with provider := some provider } := .of_tables rfl rfl
  exact hprovider.trans (foldl_sameEdges markDirty_sameEdges _ _)

theorem unregister_sameEdges (t : Topology) (id : ControllerId) : t.SameEdges (t.unregister id) := by
  unfold unregister
  split
  · exact .of_tables rfl rfl
  · exact .refl t

theorem claimOne_sameEdges (id : ControllerId) (t : Topology) (x : ElementId) :
    t.SameEdges (t.claimOne id x) := by
  have hmark := t.modify_sameEdges x (f := (·.setScanPending false)) fun _ => rfl
  exact hmark.trans (.of_tables rfl rfl)

theorem claim_sameEdges (t : Topology) (id : ControllerId) (es : List ElementId) :
    t.SameEdges (t.claim id es) := by
  have hrivals : t.SameEdges ((t.rivals id es).foldl invalidate t) :=
    foldl_sameEdges (f := invalidate) (fun _ _ => .of_tables rfl rfl) _ t
  unfold claim
  generalize (t.rivals id es).foldl invalidate t = t₁ at hrivals
  have hreleased : t₁.SameEdges (t₁.releaseClaims id) := .of_tables rfl rfl
  have hclaimed := foldl_sameEdges (claimOne_sameEdges id) es (t₁.releaseClaims id)
  exact ((hrivals.trans hreleased).trans hclaimed).trans (.of_tables rfl rfl)

/-! ## Operations on edges -/

/-- No element is loaded and set aside at once. -/
def Apart (t : Topology) : Prop := ∀ a, t.loaded.contains a = true → t.unloaded.contains a = false

theorem SameEdges.apart (h : t.SameEdges t') (hapart : t.Apart) : t'.Apart := by
  intro a ha
  rw [h.contains] at ha
  rw [h.unloaded]
  exact hapart a ha

theorem apart_bringIn (h : t.Apart) (x : ElementId) (e : Element) :
    { t with loaded := t.loaded.insert x e, unloaded := t.unloaded.erase x : Topology }.Apart := by
  intro a ha
  show (t.unloaded.erase x).contains a = false
  rw [Table.contains_erase]
  by_cases hx : Key.index x = Key.index a
  · simp [hx]
  · have hloaded : t.loaded.contains a = true := by
      simpa [Table.contains_insert, hx] using ha
    rw [h a hloaded, Bool.and_false]

theorem apart_setAside (h : t.Apart) (x : ElementId) (e : Element) :
    { t with loaded := t.loaded.erase x, unloaded := t.unloaded.insert x e : Topology }.Apart := by
  intro a ha
  have hloaded : (!decide (Key.index x = Key.index a)) = true ∧ t.loaded.contains a = true := by
    rw [← Bool.and_eq_true, ← Table.contains_erase]
    exact ha
  show (t.unloaded.insert x e).contains a = false
  rw [Table.contains_insert, h a hloaded.2, Bool.or_false]
  simpa using hloaded.1

theorem apart_forget (h : t.Apart) (x : ElementId) : (t.forget x).Apart := by
  intro a
  unfold forget
  split
  · intro ha
    refine h a ?_
    have hboth := (Table.contains_erase t.loaded x a).symm.trans ha
    exact (Bool.and_eq_true _ _ |>.mp hboth).2
  · intro ha
    show (t.unloaded.erase x).contains a = false
    rw [Table.contains_erase, h a ha, Bool.and_false]

/-- An element that goes away is in none of the tables. -/
theorem known?_forget (h : t.Apart) (x y : ElementId) :
    (t.forget x).known? y = if x = y then none else t.known? y := by
  unfold forget
  split
  · next hx =>
    unfold known?
    rw [Table.get?_erase]
    simp only [ElementId.index_eq_iff]
    split
    · next hxy =>
      have hnone : t.unloaded.get? y = none := by
        rw [← hxy]
        exact Option.isSome_eq_false_iff.1 (h x hx) |> Option.isNone_iff_eq_none.1
      rw [hnone]
      rfl
    · rfl
  · next hx =>
    unfold known?
    rw [Table.get?_erase]
    simp only [ElementId.index_eq_iff]
    split
    · next hxy =>
      have hnone : t.loaded.get? y = none := by
        rw [← hxy]
        exact Option.not_isSome_iff_eq_none.1 hx
      rw [hnone]
      rfl
    · rfl

theorem apart_remove (h : t.Apart) (x : ElementId) : (t.remove x).2.Apart := by
  have hdrop (t : Topology) (h : t.Apart) (edge : Edge) : (t.dropEdge x edge).Apart := by
    refine (markDirty_sameEdges _ edge.target).apart ?_
    intro a
    unfold modifyKnown
    split
    · rw [Table.contains_modify]
      exact h a
    · rw [Table.contains_modify]
      exact h a
  have hfold (edges : List Edge) (t : Topology) (h : t.Apart) : (edges.foldl (dropEdge x) t).Apart := by
    induction edges generalizing t with
    | nil => exact h
    | cons edge edges ih => exact ih _ (hdrop t h edge)
  unfold remove
  split
  · exact h
  · next e _ => exact hfold e.edges (t.forget x) (apart_forget h x)

theorem apart_connect (h : t.Apart) (a : ElementId) (aSide : Option Side) (b : ElementId)
    (bSide : Option Side) : (t.connect a aSide b bSide).2.Apart := by
  unfold connect
  split
  · next ea eb ha hb =>
    split
    · exact h
    · refine ((markDirty_sameEdges _ a).trans (markDirty_sameEdges _ b)).apart ?_
      intro x hx
      have hloaded (y : ElementId) (e : Element) (he : t.get? y = some e)
          (hy : Key.index y = Key.index x) : t.loaded.contains x = true := by
        rw [← Key.index_inj hy]
        exact Option.isSome_iff_exists.2 ⟨e, he⟩
      refine h x ?_
      simp only [Table.contains_insert, Bool.or_eq_true, decide_eq_true_iff] at hx
      rcases hx with hx | hx | hx
      · exact hloaded b eb hb hx
      · exact hloaded a ea ha hx
      · exact hx
  · exact h

theorem apart_disconnect (h : t.Apart) (a b : ElementId) : (t.disconnect a b).2.Apart := by
  unfold disconnect
  dsimp only
  split
  · refine ((markDirty_sameEdges _ a).trans (markDirty_sameEdges _ b)).apart ?_
    intro x
    rw [Table.contains_modify, Table.contains_modify]
    exact h x
  · exact h

theorem leads_insert (t : Topology) (e : Element) (x y : ElementId) :
    (t.insert e).2.leads x y = if e.id = x then e.hasEdge y else t.leads x y := by
  have hmark := markDirty_sameEdges
    { t with loaded := t.loaded.insert e.id e, unloaded := t.unloaded.erase e.id } e.id
  refine (hmark.leads x y).trans ?_
  unfold leads
  rw [known?_bringIn]
  split <;> rfl

theorem leads_unload (t : Topology) (x a b : ElementId) : (t.unload x).2.leads a b = t.leads a b := by
  unfold unload
  split
  · rfl
  · next e he =>
    refine ((requestOwnerScan_sameEdges _ x).leads a b).trans ?_
    unfold leads
    rw [known?_setAside]
    split
    · next hx =>
      have hknown : t.known? a = some e := by
        unfold known?
        rw [← hx, show t.loaded.get? x = some e from he]
        rfl
      rw [hknown]
    · rfl

theorem leads_reload (h : t.Apart) (x a b : ElementId) : (t.reload x).2.leads a b = t.leads a b := by
  unfold reload
  split
  · rfl
  · next e he =>
    refine ((markDirty_sameEdges _ x).leads a b).trans ?_
    unfold leads
    rw [known?_bringIn]
    split
    · next hx =>
      have hnone : t.loaded.get? x = none := by
        rw [← Option.not_isSome_iff_eq_none]
        intro hloaded
        have hunloaded := h x hloaded
        unfold Table.contains at hunloaded
        rw [he] at hunloaded
        cases hunloaded
      have hknown : t.known? a = some e := by
        unfold known?
        rw [← hx, hnone]
        exact he
      rw [hknown]
    · rfl

/-- Whether an edge from `x` to `y` is the half of the edge between `a` and `b` that a loaded element
`a` keeps. -/
def severs (t : Topology) (a b x y : ElementId) : Bool :=
  decide (x = a) && decide (y = b) && t.loaded.contains a

theorem severs_eq_true_iff :
    t.severs a b x y = true ↔ (x = a ∧ y = b) ∧ t.loaded.contains a = true := by
  unfold severs
  rw [Bool.and_eq_true, Bool.and_eq_true, decide_eq_true_iff, decide_eq_true_iff]

theorem leads_modify_unlink (t : Topology) (a b x y : ElementId) :
    { t with loaded := t.loaded.modify a (·.unlink b) : Topology }.leads x y =
      (t.leads x y && !t.severs a b x y) := by
  unfold leads
  rw [known?_modifyLoaded]
  split
  · next h =>
    have hsevers : t.severs a b x y = decide (y = b) := by
      rw [Bool.eq_iff_iff, severs_eq_true_iff, decide_eq_true_iff]
      exact ⟨fun hall => hall.1.2, fun hy => ⟨⟨h.1.symm, hy⟩, h.2⟩⟩
    rw [Option.any_map, hsevers]
    cases t.known? x with
    | none => rfl
    | some e => exact e.hasEdge_unlink b y
  · next h =>
    have hsevers : t.severs a b x y = false := by
      rw [Bool.eq_false_iff]
      intro hall
      obtain ⟨⟨hx, -⟩, hloaded⟩ := severs_eq_true_iff.1 hall
      exact h ⟨hx.symm, hloaded⟩
    rw [hsevers, Bool.not_false, Bool.and_true]

theorem any_hasEdge_get? (t : Topology) (a b : ElementId) :
    (t.get? a).any (·.hasEdge b) = (t.loaded.contains a && t.leads a b) := by
  unfold leads known? get? Table.contains
  cases t.loaded.get? a <;> rfl

/-- Of the edge between two elements that are disconnected, the loaded ones lose their halves. -/
theorem leads_disconnect (t : Topology) (a b x y : ElementId) :
    (t.disconnect a b).2.leads x y = (t.leads x y && !t.severs a b x y && !t.severs b a x y) := by
  have hsecond (x y : ElementId) : { t with loaded := t.loaded.modify a (·.unlink b) :
      Topology }.severs b a x y = t.severs b a x y := by
    unfold severs
    rw [Table.contains_modify]
  unfold disconnect
  dsimp only
  split
  · refine ((markDirty_sameEdges _ a).trans (markDirty_sameEdges _ b)).leads x y |>.trans ?_
    refine (leads_modify_unlink { t with loaded := t.loaded.modify a (·.unlink b) } b a x y).trans ?_
    rw [leads_modify_unlink, hsecond]
  · next h =>
    -- no loaded one of the two has an edge to the other, so there is nothing to lose
    have hget := any_hasEdge_get? { t with loaded := t.loaded.modify a (·.unlink b) } b a
    rw [leads_modify_unlink, Table.contains_modify] at hget
    rw [show ((t.loaded.modify a (·.unlink b)).get? b).any (·.hasEdge a) = _ from hget,
      any_hasEdge_get?, Bool.or_eq_true, not_or] at h
    obtain ⟨ha, hb⟩ := h
    cases hleads : t.leads x y with
    | false => rfl
    | true =>
      have hfirst : t.severs a b x y = false := by
        rw [Bool.eq_false_iff]
        intro hsevers
        obtain ⟨⟨rfl, rfl⟩, hloaded⟩ := severs_eq_true_iff.1 hsevers
        rw [hloaded, hleads] at ha
        exact ha rfl
      have hother : t.severs b a x y = false := by
        rw [Bool.eq_false_iff]
        intro hsevers
        obtain ⟨⟨rfl, rfl⟩, hloaded⟩ := severs_eq_true_iff.1 hsevers
        rw [hloaded, hleads, hfirst] at hb
        exact hb rfl
      rw [hfirst, hother]
      rfl

/-- Whether an edge from `x` to `y` is the half of an edge between `a` and `b` that `a` gets when the two
are connected. -/
def joins (t : Topology) (a b x y : ElementId) : Bool :=
  decide (x = a) && decide (y = b) && decide (a ≠ b) && t.loaded.contains a && t.loaded.contains b

theorem joins_eq_true_iff : t.joins a b x y = true ↔
    (x = a ∧ y = b) ∧ a ≠ b ∧ t.loaded.contains a = true ∧ t.loaded.contains b = true := by
  unfold joins
  simp only [Bool.and_eq_true, decide_eq_true_iff, and_assoc]

theorem leads_replace (t : Topology) (a : ElementId) (e : Element) (x y : ElementId) :
    { t with loaded := t.loaded.insert a e : Topology }.leads x y =
      if a = x then e.hasEdge y else t.leads x y := by
  unfold leads
  rw [known?_replace]
  split <;> rfl

/-- Two elements that are connected get the halves of the edge between them, if they are two and both
loaded. -/
theorem leads_connect (t : Topology) (a : ElementId) (aSide : Option Side) (b : ElementId)
    (bSide : Option Side) (x y : ElementId) :
    (t.connect a aSide b bSide).2.leads x y =
      (t.leads x y || t.joins a b x y || t.joins b a x y) := by
  have hidle (h : ∀ x y, t.joins a b x y = true ∨ t.joins b a x y = true → t.leads x y = true) :
      t.leads x y = (t.leads x y || t.joins a b x y || t.joins b a x y) := by
    rw [Bool.or_assoc]
    cases hleads : t.leads x y with
    | true => rfl
    | false =>
      symm
      rw [Bool.false_or, ← Bool.not_eq_true, Bool.or_eq_true]
      intro hjoins
      rw [h x y hjoins] at hleads
      cases hleads
  unfold connect
  split
  · next ea eb ha hb =>
    have hloaded : t.loaded.contains a = true ∧ t.loaded.contains b = true :=
      ⟨Option.isSome_iff_exists.2 ⟨ea, ha⟩, Option.isSome_iff_exists.2 ⟨eb, hb⟩⟩
    have hleads (y : ElementId) : t.leads a y = ea.hasEdge y ∧ t.leads b y = eb.hasEdge y := by
      unfold leads known?
      rw [show t.loaded.get? a = some ea from ha, show t.loaded.get? b = some eb from hb]
      exact ⟨rfl, rfl⟩
    split
    · next hsame =>
      refine hidle ?_
      rintro x y (hjoins | hjoins)
      · obtain ⟨⟨rfl, rfl⟩, hne, -⟩ := joins_eq_true_iff.1 hjoins
        rw [(hleads y).1]
        exact (hsame.resolve_left hne).1
      · obtain ⟨⟨rfl, rfl⟩, hne, -⟩ := joins_eq_true_iff.1 hjoins
        rw [(hleads y).2]
        exact (hsame.resolve_left hne.symm).2
    · next hnew =>
      have hne : a ≠ b := (not_or.1 hnew).1
      refine ((markDirty_sameEdges _ a).trans (markDirty_sameEdges _ b)).leads x y |>.trans ?_
      refine (leads_replace { t with loaded := t.loaded.insert a (ea.link aSide b) } b
        (eb.link bSide a) x y).trans ?_
      rw [leads_replace, Element.hasEdge_link, Element.hasEdge_link, ← (hleads y).1, ← (hleads y).2]
      unfold joins
      rw [hloaded.1, hloaded.2]
      by_cases hxb : b = x
      · subst hxb
        simp [hne, hne.symm]
      · by_cases hxa : a = x
        · subst hxa
          simp [hne, hxb]
        · simp [hxa, hxb, Ne.symm hxa, Ne.symm hxb]
  · next hnone =>
    refine hidle ?_
    have habsent (hloaded : t.loaded.contains a = true ∧ t.loaded.contains b = true) : False := by
      obtain ⟨ea, ha⟩ := Option.isSome_iff_exists.1 hloaded.1
      obtain ⟨eb, hb⟩ := Option.isSome_iff_exists.1 hloaded.2
      exact hnone ea eb ha hb
    rintro x y (hjoins | hjoins)
    · exact (habsent (joins_eq_true_iff.1 hjoins).2.2).elim
    · exact (habsent (joins_eq_true_iff.1 hjoins).2.2.symm).elim

theorem leads_dropEdge (id : ElementId) (t : Topology) (edge : Edge) (x y : ElementId) :
    (t.dropEdge id edge).leads x y = (t.leads x y && !(decide (x = edge.target) && decide (y = id))) := by
  refine ((markDirty_sameEdges _ edge.target).leads x y).trans ?_
  unfold leads
  rw [known?_modifyKnown]
  split
  · next h =>
    rw [Option.any_map, decide_eq_true h.symm, Bool.true_and]
    cases t.known? x with
    | none => rfl
    | some e => exact e.hasEdge_unlink id y
  · next h => rw [decide_eq_false (Ne.symm h), Bool.false_and, Bool.not_false, Bool.and_true]

theorem leads_foldl_dropEdge (id : ElementId) (edges : List Edge) (t : Topology) (x y : ElementId) :
    (edges.foldl (dropEdge id) t).leads x y =
      (t.leads x y && !(edges.any (·.target = x) && decide (y = id))) := by
  induction edges generalizing t with
  | nil => rw [List.foldl_nil, List.any_nil, Bool.false_and, Bool.not_false, Bool.and_true]
  | cons edge edges ih =>
    rw [List.foldl_cons, ih, leads_dropEdge, List.any_cons, Bool.and_or_distrib_right, Bool.not_or,
      Bool.and_assoc]
    congr 4
    exact decide_eq_decide.2 eq_comm

/-- An element that is removed takes its edges along, and of the edges to it those whose other halves it
had. -/
theorem leads_remove (h : t.Apart) (a x y : ElementId) :
    (t.remove a).2.leads x y =
      (t.leads x y && !decide (x = a) && !(t.leads a x && decide (y = a))) := by
  unfold remove
  split
  · next hnone =>
    have hunknown (y : ElementId) : t.leads a y = false := by
      unfold leads
      rw [hnone]
      rfl
    rw [hunknown, Bool.false_and, Bool.not_false, Bool.and_true]
    by_cases hx : x = a
    · rw [hx, hunknown, Bool.false_and]
    · rw [decide_eq_false hx, Bool.not_false, Bool.and_true]
  · next e he =>
    have hdrop := leads_foldl_dropEdge a e.edges (t.forget a) x y
    unfold forget at hdrop
    have hforget : (t.forget a).leads x y = (t.leads x y && !decide (x = a)) := by
      unfold leads
      rw [known?_forget h]
      split
      · next hx => rw [decide_eq_true hx.symm, Bool.not_true, Bool.and_false]; rfl
      · next hx => rw [decide_eq_false (Ne.symm hx), Bool.not_false, Bool.and_true]
    unfold forget at hforget
    rw [leads_of_known? he]
    refine Eq.trans ?_ (hdrop.trans ?_)
    · rfl
    · rw [hforget]
      rfl

/-! ## Known elements -/

theorem knows_of_get? {e : Element} (h : t.get? x = some e) : t.knows x = true := by
  unfold knows Table.contains
  rw [show t.loaded.get? x = some e from h]
  rfl

/-- Elements that are put in the place of known ones make no others known. -/
theorem knows_of_known? {e : Element} (hx : t.knows x = true)
    (h : t'.known? y = if x = y then some e else t.known? y) : t'.knows y = t.knows y := by
  rw [← known?_isSome, h]
  split
  · next hxy =>
    rw [← hxy, hx]
    rfl
  · exact known?_isSome t y

theorem knows_insert_iff (t : Topology) (e : Element) (x : ElementId) :
    (t.insert e).2.knows x = true ↔ e.id = x ∨ t.knows x = true := by
  have hmark := markDirty_sameEdges
    { t with loaded := t.loaded.insert e.id e, unloaded := t.unloaded.erase e.id } e.id
  rw [show (t.insert e).2.knows x = _ from hmark.knows x, ← known?_isSome, known?_bringIn]
  split
  · next hx => exact ⟨fun _ => .inl hx, fun _ => rfl⟩
  · next hx => rw [known?_isSome, or_iff_right hx]

theorem knows_unload (t : Topology) (x y : ElementId) : (t.unload x).2.knows y = t.knows y := by
  unfold unload
  split
  · rfl
  · next e he =>
    exact ((requestOwnerScan_sameEdges _ x).knows y).trans
      (knows_of_known? (knows_of_get? he) (known?_setAside t x e y))

theorem knows_reload (t : Topology) (x y : ElementId) : (t.reload x).2.knows y = t.knows y := by
  unfold reload
  split
  · rfl
  · next e he =>
    have hx : t.knows x = true := by
      unfold knows Table.contains
      rw [he]
      exact Bool.or_true _
    exact ((markDirty_sameEdges _ x).knows y).trans (knows_of_known? hx (known?_bringIn t x e y))

theorem knows_connect (t : Topology) (a : ElementId) (aSide : Option Side) (b : ElementId)
    (bSide : Option Side) (x : ElementId) : (t.connect a aSide b bSide).2.knows x = t.knows x := by
  unfold connect
  split
  · next ea eb ha hb =>
    split
    · rfl
    · have hfirst (y : ElementId) :
          { t with loaded := t.loaded.insert a (ea.link aSide b) : Topology }.knows y = t.knows y :=
        knows_of_known? (knows_of_get? ha) (known?_replace t a (ea.link aSide b) y)
      have hsecond := knows_of_known? ((hfirst b).trans (knows_of_get? hb))
        (known?_replace { t with loaded := t.loaded.insert a (ea.link aSide b) } b (eb.link bSide a) x)
      exact (((markDirty_sameEdges _ a).trans (markDirty_sameEdges _ b)).knows x).trans
        (hsecond.trans (hfirst x))
  · rfl

theorem knows_disconnect (t : Topology) (a b x : ElementId) : (t.disconnect a b).2.knows x = t.knows x := by
  unfold disconnect
  dsimp only
  split
  · refine (((markDirty_sameEdges _ a).trans (markDirty_sameEdges _ b)).knows x).trans ?_
    unfold knows
    rw [Table.contains_modify, Table.contains_modify]
  · rfl

/-- What is known after a removal was known before. -/
theorem knows_of_knows_remove (h : (t.remove a).2.knows x = true) : t.knows x = true := by
  have hforget (h : (t.forget a).knows x = true) : t.knows x = true := by
    unfold forget knows at h
    unfold knows
    split at h
    · rw [Table.contains_erase] at h
      simp only [Bool.or_eq_true, Bool.and_eq_true] at h ⊢
      exact h.imp_left And.right
    · rw [Table.contains_erase] at h
      simp only [Bool.or_eq_true, Bool.and_eq_true] at h ⊢
      exact h.imp_right And.right
  have hdrop (t : Topology) (edge : Edge) : (t.dropEdge a edge).knows x = t.knows x := by
    refine ((markDirty_sameEdges _ edge.target).knows x).trans ?_
    rw [← known?_isSome, known?_modifyKnown, ← known?_isSome]
    split
    · exact Option.isSome_map
    · rfl
  have hfold (edges : List Edge) (t : Topology) : (edges.foldl (dropEdge a) t).knows x = t.knows x := by
    induction edges generalizing t with
    | nil => rfl
    | cons edge edges ih => exact (ih _).trans (hdrop t edge)
  unfold remove at h
  split at h
  · exact h
  · next e _ => exact hforget ((hfold e.edges (t.forget a)).symm.trans h)

/-! ## Both halves together -/

/-- No element is in both tables, and of two known elements each has an edge to the other or neither
has. -/
structure Mutual (t : Topology) : Prop where
  apart : t.Apart
  symmetric : t.Symmetric

theorem empty_mutual : empty.Mutual := ⟨fun _ h => (nomatch h), fun _ _ h => (nomatch h)⟩

theorem Mutual.back (h : t.Mutual) (hleads : t.leads a b = true) (hb : t.knows b = true) :
    t.leads b a = true := (h.symmetric a b (knows_of_leads hleads) hb).symm.trans hleads

theorem Mutual.of_leads (h : t.Mutual) (hapart : t'.Apart) (hknows : ∀ x, t'.knows x = t.knows x)
    (hleads : ∀ x y, t'.leads x y = t.leads x y) : t'.Mutual := by
  refine ⟨hapart, fun x y hx hy => ?_⟩
  rw [hknows] at hx hy
  rw [hleads, hleads]
  exact h.symmetric x y hx hy

theorem Mutual.sameEdges (h : t.Mutual) (hsame : t.SameEdges t') : t'.Mutual :=
  h.of_leads (hsame.apart h.apart) hsame.knows hsame.leads

/-- An element may come in if its edges are those that the others have to it. -/
theorem Mutual.insert (h : t.Mutual) {e : Element} (hnew : ¬t.Clashes e) : (t.insert e).2.Mutual := by
  have hedges (y : ElementId) (hy : t.knows y = true) (hne : e.id ≠ y) : e.hasEdge y = t.leads y e.id :=
    Decidable.byContradiction fun hclash => hnew ⟨y, hy, hne.symm, hclash⟩
  refine ⟨(markDirty_sameEdges _ e.id).apart (apart_bringIn h.apart e.id e), fun x y hx hy => ?_⟩
  rw [knows_insert_iff] at hx hy
  rw [leads_insert, leads_insert]
  split
  · next hex =>
    split
    · next hey => rw [← hex, ← hey]
    · next hey =>
      rw [← hex]
      exact hedges y (hy.resolve_left hey) hey
  · next hex =>
    split
    · next hey =>
      rw [← hey]
      exact (hedges x (hx.resolve_left hex) hex).symm
    · next hey => exact h.symmetric x y (hx.resolve_left hex) (hy.resolve_left hey)

theorem Mutual.unload (h : t.Mutual) (x : ElementId) : (t.unload x).2.Mutual := by
  refine h.of_leads ?_ (t.knows_unload x) (t.leads_unload x)
  unfold Topology.unload
  split
  · exact h.apart
  · next e _ => exact (requestOwnerScan_sameEdges _ x).apart (apart_setAside h.apart x e)

theorem Mutual.reload (h : t.Mutual) (x : ElementId) : (t.reload x).2.Mutual := by
  refine h.of_leads ?_ (t.knows_reload x) (leads_reload h.apart x)
  unfold Topology.reload
  split
  · exact h.apart
  · next e _ => exact (markDirty_sameEdges _ x).apart (apart_bringIn h.apart x e)

/-- A known element that is removed takes both halves of all its edges along. -/
theorem Mutual.leads_remove (h : t.Mutual) (ha : t.knows a = true) (x y : ElementId) :
    (t.remove a).2.leads x y = (t.leads x y && !decide (x = a) && !decide (y = a)) := by
  rw [Topology.leads_remove h.apart]
  by_cases hy : y = a
  · rw [hy]
    cases hleads : t.leads x a with
    | false => rfl
    | true => rw [h.back hleads ha, Bool.true_and, Bool.true_and]
  · rw [decide_eq_false hy, Bool.and_false]

theorem Mutual.remove (h : t.Mutual) (a : ElementId) : (t.remove a).2.Mutual := by
  refine ⟨apart_remove h.apart a, fun x y hx hy => ?_⟩
  replace hx := knows_of_knows_remove hx
  replace hy := knows_of_knows_remove hy
  cases ha : t.knows a with
  | true =>
    rw [h.leads_remove ha, h.leads_remove ha, h.symmetric x y hx hy, Bool.and_right_comm]
  | false =>
    have hne {z : ElementId} (hz : t.knows z = true) : decide (z = a) = false := by
      refine decide_eq_false fun heq => ?_
      rw [heq, ha] at hz
      cases hz
    rw [Topology.leads_remove h.apart, Topology.leads_remove h.apart, hne hx, hne hy, h.symmetric x y hx hy,
      Bool.and_false, Bool.and_false]

theorem Mutual.connect (h : t.Mutual) (a : ElementId) (aSide : Option Side) (b : ElementId)
    (bSide : Option Side) : (t.connect a aSide b bSide).2.Mutual := by
  have hflip (a b x y : ElementId) : t.joins a b x y = t.joins b a y x := by
    rw [Bool.eq_iff_iff, joins_eq_true_iff, joins_eq_true_iff]
    constructor
    · rintro ⟨⟨hx, hy⟩, hne, ha, hb⟩
      exact ⟨⟨hy, hx⟩, hne.symm, hb, ha⟩
    · rintro ⟨⟨hx, hy⟩, hne, ha, hb⟩
      exact ⟨⟨hy, hx⟩, hne.symm, hb, ha⟩
  refine ⟨apart_connect h.apart a aSide b bSide, fun x y hx hy => ?_⟩
  rw [knows_connect] at hx hy
  rw [leads_connect, leads_connect, h.symmetric x y hx hy, hflip a b x y, hflip b a x y, Bool.or_right_comm]

/-- Two elements that are both loaded or both set aside lose both halves of the edge between them, or
none. -/
theorem Mutual.disconnect (h : t.Mutual) (a b : ElementId)
    (hboth : t.leads a b = true → t.knows b = true → t.loaded.contains a = t.loaded.contains b) :
    (t.disconnect a b).2.Mutual := by
  refine ⟨apart_disconnect h.apart a b, fun x y hx hy => ?_⟩
  rw [knows_disconnect] at hx hy
  rw [leads_disconnect, leads_disconnect, h.symmetric x y hx hy]
  cases hleads : t.leads y x with
  | false => rfl
  | true =>
    have hflip {a b : ElementId} (hboth : x = a → y = b → t.loaded.contains a = t.loaded.contains b) :
        t.severs a b x y = t.severs b a y x := by
      rw [Bool.eq_iff_iff, severs_eq_true_iff, severs_eq_true_iff]
      constructor
      · rintro ⟨⟨hxa, hyb⟩, hloaded⟩
        exact ⟨⟨hyb, hxa⟩, hboth hxa hyb ▸ hloaded⟩
      · rintro ⟨⟨hyb, hxa⟩, hloaded⟩
        exact ⟨⟨hxa, hyb⟩, (hboth hxa hyb).symm ▸ hloaded⟩
    have hfirst : t.severs a b x y = t.severs b a y x := hflip fun hxa hyb => by
      subst hxa hyb
      exact hboth (h.back hleads hx) hy
    have hsecond : t.severs b a x y = t.severs a b y x := hflip fun hxb hya => by
      subst hxb hya
      exact (hboth hleads hx).symm
    rw [hfirst, hsecond, Bool.and_right_comm]

/-- An operation that leaves no half of an edge behind keeps the halves of all edges together. -/
theorem Mutual.step (h : t.Mutual) {op : TopologyOp} (hop : ¬ t.Halves op) : (t.step op).2.Mutual := by
  cases op with
  | insert e blocked devices => exact Mutual.insert (e := .new e blocked devices) h hop
  | putBack element => exact h.insert hop
  | unload e => exact h.unload e
  | reload e => exact h.reload e
  | remove e => exact h.remove e
  | connect a aSide b bSide => exact h.connect a aSide b bSide
  | disconnect a b =>
    refine h.disconnect a b fun hleads hb => ?_
    exact Decidable.byContradiction fun hloaded => hop ⟨hleads, hb, hloaded⟩
  | addDevice e d => exact h.sameEdges (t.addDevice_sameEdges e d)
  | removeDevice e device => exact h.sameEdges (t.removeDevice_sameEdges e device)
  | markDirty e => exact h.sameEdges (t.markDirty_sameEdges e)
  | setProvider provider => exact h.sameEdges (t.setProvider_sameEdges provider)

theorem not_symmetric_insert {e : Element} (hclashes : t.Clashes e) : ¬ (t.insert e).2.Symmetric := by
  intro hsymmetric
  obtain ⟨y, hy, hne, hclash⟩ := hclashes
  have hsame := hsymmetric e.id y ((t.knows_insert_iff e _).2 (.inl rfl)) ((t.knows_insert_iff e _).2 (.inr hy))
  rw [leads_insert, leads_insert, if_pos rfl, if_neg hne.symm] at hsame
  exact hclash hsame

/-- An operation that leaves half of an edge behind leaves two known elements of which one has an edge to
the other only. -/
theorem Mutual.not_symmetric (h : t.Mutual) {op : TopologyOp} (hop : t.Halves op) :
    ¬ (t.step op).2.Symmetric := by
  cases op with
  | insert e blocked devices => exact not_symmetric_insert hop
  | putBack element => exact not_symmetric_insert hop
  | disconnect a b =>
    intro hsymmetric
    obtain ⟨hleads, hb, hloaded⟩ := hop
    have hback := h.back hleads hb
    have hne : a ≠ b := fun heq => hloaded (congrArg _ heq)
    have hsame := hsymmetric a b ((t.knows_disconnect a b a).trans (knows_of_leads hleads))
      ((t.knows_disconnect a b b).trans hb)
    -- each of the two keeps its half exactly if it is not loaded
    have hfirst : (t.disconnect a b).2.leads a b = !t.loaded.contains a := by
      rw [leads_disconnect, hleads]
      unfold severs
      simp [hne]
    have hsecond : (t.disconnect a b).2.leads b a = !t.loaded.contains b := by
      rw [leads_disconnect, hback]
      unfold severs
      simp [hne.symm]
    exact hloaded (Bool.not_inj (hfirst.symm.trans (hsame.trans hsecond)))
  | _ => exact hop.elim

end Topology

end DeviceBus
