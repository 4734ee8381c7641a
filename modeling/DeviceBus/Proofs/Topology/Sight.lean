import DeviceBus.Proofs.Topology.Claims

/-!
# What a scan sees

A scan sees whether an element is loaded or set aside, its edges, its blocked sides and its devices,
and the provider; it does not see the mark of a change (`Topology.LooksAlike`).  Whoever owns an
element that an operation on the topology lets look different is asked to scan by the same operation
(`Topology.step_informs`).  What a controller does to the claims changes nothing that a scan sees
(`Topology.claim_looks`).
-/

namespace DeviceBus

/-- An element without the mark of a change. -/
def Element.unmarked (e : Element) : Element := e.setScanPending false

theorem Element.eq_setScanPending {e e' : Element} (h : e'.unmarked = e.unmarked) :
    e' = e.setScanPending e'.scanPending := by
  show e'.unmarked.setScanPending e'.scanPending = e.unmarked.setScanPending e'.scanPending
  rw [h]

namespace Topology

/-! ## One element -/

/-- A scan sees the same of an element. -/
structure LooksAlike (e : ElementId) (t t' : Topology) : Prop where
  loaded : (t'.get? e).map Element.unmarked = (t.get? e).map Element.unmarked
  unloaded : t'.isUnloaded e = t.isUnloaded e

variable {t t' t'' : Topology} {e : ElementId}

theorem LooksAlike.of_tables (hloaded : t'.loaded.get? e = t.loaded.get? e)
    (hunloaded : t'.unloaded.get? e = t.unloaded.get? e) : t.LooksAlike e t' := by
  refine ⟨congrArg (Option.map Element.unmarked) hloaded, ?_⟩
  unfold isUnloaded Table.contains
  rw [hunloaded]

theorem LooksAlike.refl (t : Topology) (e : ElementId) : t.LooksAlike e t := ⟨rfl, rfl⟩

theorem LooksAlike.trans (h : t.LooksAlike e t') (h' : t'.LooksAlike e t'') : t.LooksAlike e t'' :=
  ⟨h'.loaded.trans h.loaded, h'.unloaded.trans h.unloaded⟩

theorem LooksAlike.contains (h : t.LooksAlike e t') : t'.loaded.contains e = t.loaded.contains e := by
  have hsome := congrArg Option.isSome h.loaded
  rwa [Option.isSome_map, Option.isSome_map] at hsome

theorem LooksAlike.get?_eq_none (h : t.LooksAlike e t') (he : t.get? e = none) : t'.get? e = none := by
  have hloaded := h.loaded
  rw [he] at hloaded
  exact Option.map_eq_none_iff.1 hloaded

theorem LooksAlike.get?_eq_some (h : t.LooksAlike e t') {el : Element} (he : t.get? e = some el) :
    ∃ pending, t'.get? e = some (el.setScanPending pending) := by
  have hloaded := h.loaded
  rw [he] at hloaded
  obtain ⟨el', hel', hsame⟩ := Option.map_eq_some_iff.1 hloaded
  exact ⟨el'.scanPending, hel'.trans (congrArg some (Element.eq_setScanPending hsame))⟩

/-- Setting or clearing the mark of an element changes nothing that a scan sees. -/
theorem modify_setScanPending_looksAlike (t : Topology) (x : ElementId) (pending : Bool)
    (e : ElementId) : t.LooksAlike e { t with loaded := t.loaded.modify x (·.setScanPending pending) } := by
  refine ⟨?_, rfl⟩
  show ((t.loaded.modify x _).get? e).map _ = (t.loaded.get? e).map _
  rw [Table.get?_modify]
  split
  · rw [Option.map_map]
    rfl
  · rfl

/-! ## Changes that are told -/

/-- Claims, provider and requests to scan stay, and whoever owns an element that looks different was
asked to scan, except that of some elements the owners are still to be told. -/
structure Tells (untold : List ElementId) (t t' : Topology) : Prop where
  claims : t'.claims = t.claims
  provider : t'.provider = t.provider
  requests : ∀ id ∈ t.scanRequests, id ∈ t'.scanRequests
  element : ∀ e id, e ∉ untold → t.owner? e = some id → id ∉ t'.scanRequests → t.LooksAlike e t'

variable {untold : List ElementId}

theorem Tells.refl (untold : List ElementId) (t : Topology) : t.Tells untold t :=
  ⟨rfl, rfl, fun _ h => h, fun e _ _ _ _ => .refl t e⟩

theorem Tells.owner?_eq (h : t.Tells untold t') (e : ElementId) : t'.owner? e = t.owner? e := by
  unfold owner?
  rw [h.claims]

theorem Tells.trans (h : t.Tells untold t') (h' : t'.Tells untold t'') : t.Tells untold t'' := by
  refine ⟨h'.claims.trans h.claims, h'.provider.trans h.provider,
    fun id hid => h'.requests id (h.requests id hid), ?_⟩
  intro e id hmem howner hrequest
  refine (h.element e id hmem howner (mt (h'.requests id) hrequest)).trans ?_
  exact h'.element e id hmem ((h.owner?_eq e).trans howner) hrequest

theorem Tells.mono {untold' : List ElementId} (h : t.Tells untold t') (hsub : ∀ e ∈ untold, e ∈ untold') :
    t.Tells untold' t' :=
  ⟨h.claims, h.provider, h.requests, fun e id hmem => h.element e id fun he => hmem (hsub e he)⟩

/-- Elements take the place of others; those that may look different are still to be told of. -/
theorem withElements_tells {loaded unloaded : Table ElementId Element}
    (h : ∀ e ∉ untold, loaded.get? e = t.loaded.get? e ∧ unloaded.get? e = t.unloaded.get? e) :
    t.Tells untold { t with loaded, unloaded } :=
  ⟨rfl, rfl, fun _ h => h, fun e _ hmem _ _ => .of_tables (h e hmem).1 (h e hmem).2⟩

theorem mem_scanRequests_requestOwnerScan {id : ControllerId} (h : t.owner? e = some id) :
    id ∈ (t.requestOwnerScan e).scanRequests := by
  refine mem_foldl_enlist.2 (.inr (List.mem_append_left _ ?_))
  rw [h]
  exact List.mem_singleton_self id

/-- After its owner was asked to scan, nothing is to be told of an element. -/
theorem Tells.requestOwnerScan (h : t.Tells (e :: untold) t') :
    t.Tells untold (t'.requestOwnerScan e) := by
  refine ⟨h.claims, h.provider, fun id hid => mem_foldl_enlist.2 (.inl (h.requests id hid)), ?_⟩
  intro e' id hmem howner hrequest
  have hne : e' ≠ e := by
    rintro rfl
    exact hrequest (mem_scanRequests_requestOwnerScan ((h.owner?_eq e').trans howner))
  have hbefore : id ∉ t'.scanRequests := fun hid => hrequest (mem_foldl_enlist.2 (.inl hid))
  refine (h.element e' id ?_ howner hbefore).trans (.of_tables rfl rfl)
  rw [List.mem_cons, not_or]
  exact ⟨hne, hmem⟩

theorem Tells.markDirty (h : t.Tells (e :: untold) t') : t.Tells untold (t'.markDirty e) := by
  have hmark : t'.Tells (e :: untold) { t' with loaded := t'.loaded.modify e (·.setScanPending true) } :=
    ⟨rfl, rfl, fun _ h => h, fun e' _ _ _ _ => t'.modify_setScanPending_looksAlike e true e'⟩
  exact (h.trans hmark).requestOwnerScan

theorem markDirty_tells (t : Topology) (e : ElementId) : t.Tells [] (t.markDirty e) :=
  (Tells.refl [e] t).markDirty

theorem foldl_tells {α : Type} {f : Topology → α → Topology} {untold : List ElementId}
    (hf : ∀ (t : Topology) (a : α), t.Tells untold (f t a)) (as : List α) (t : Topology) :
    t.Tells untold (as.foldl f t) := by
  induction as generalizing t with
  | nil => exact .refl untold t
  | cons a as ih => exact (hf t a).trans (ih (f t a))

/-! ## Operations on the topology -/

theorem get?_insert_of_notMem {loaded : Table ElementId Element} {x : ElementId} (el : Element)
    (h : e ∉ [x]) : (loaded.insert x el).get? e = loaded.get? e :=
  Table.get?_insert_of_ne loaded el fun heq => h (heq ▸ List.mem_singleton_self _)

theorem get?_erase_of_notMem {loaded : Table ElementId Element} {x : ElementId} (h : e ∉ [x]) :
    (loaded.erase x).get? e = loaded.get? e := by
  rw [Table.get?_erase, if_neg]
  rw [ElementId.index_eq_iff]
  exact fun heq => h (heq ▸ List.mem_singleton_self _)

theorem get?_modify_of_notMem {loaded : Table ElementId Element} {x : ElementId}
    (f : Element → Element) (h : e ∉ [x]) : (loaded.modify x f).get? e = loaded.get? e := by
  rw [Table.get?_modify, if_neg]
  rw [ElementId.index_eq_iff]
  exact fun heq => h (heq ▸ List.mem_singleton_self _)

/-- A loaded element is changed, or an element is brought in. -/
theorem replace_tells (t : Topology) (x : ElementId) (el : Element) :
    t.Tells [] ({ t with loaded := t.loaded.insert x el }.markDirty x) :=
  Tells.markDirty (withElements_tells fun _ h => ⟨get?_insert_of_notMem el h, rfl⟩)

theorem insert_tells (t : Topology) (el : Element) : t.Tells [] (t.insert el).2 :=
  Tells.markDirty (withElements_tells fun _ h => ⟨get?_insert_of_notMem el h, get?_erase_of_notMem h⟩)

theorem unload_tells (t : Topology) (x : ElementId) : t.Tells [] (t.unload x).2 := by
  unfold unload
  split
  · exact .refl [] t
  · next el _ =>
    exact Tells.requestOwnerScan
      (withElements_tells fun _ h => ⟨get?_erase_of_notMem h, get?_insert_of_notMem el h⟩)

theorem reload_tells (t : Topology) (x : ElementId) : t.Tells [] (t.reload x).2 := by
  unfold reload
  split
  · exact .refl [] t
  · next el _ =>
    exact Tells.markDirty
      (withElements_tells fun _ h => ⟨get?_insert_of_notMem el h, get?_erase_of_notMem h⟩)

theorem connect_tells (t : Topology) (a : ElementId) (aSide : Option Side) (b : ElementId)
    (bSide : Option Side) : t.Tells [] (t.connect a aSide b bSide).2 := by
  unfold connect
  split
  · split
    · exact .refl [] t
    · refine Tells.markDirty (Tells.markDirty (withElements_tells ?_))
      intro e h
      simp only [List.mem_cons, not_or] at h
      rw [get?_insert_of_notMem _ (by simpa using h.2.1), get?_insert_of_notMem _ (by simpa using h.1)]
      exact ⟨rfl, rfl⟩
  · exact .refl [] t

theorem disconnect_tells (t : Topology) (a b : ElementId) : t.Tells [] (t.disconnect a b).2 := by
  unfold disconnect
  dsimp only
  split
  · refine Tells.markDirty (Tells.markDirty (withElements_tells ?_))
    intro e h
    simp only [List.mem_cons, not_or] at h
    rw [get?_modify_of_notMem _ (by simpa using h.2.1), get?_modify_of_notMem _ (by simpa using h.1)]
    exact ⟨rfl, rfl⟩
  · exact .refl [] t

theorem addDevice_tells (t : Topology) (x : ElementId) (d : DeviceRef) :
    t.Tells [] (t.addDevice x d).2 := by
  unfold addDevice
  split
  · exact .refl [] t
  · exact t.replace_tells x _

theorem removeDevice_tells (t : Topology) (x : ElementId) (device : DeviceId) :
    t.Tells [] (t.removeDevice x device).2 := by
  unfold removeDevice
  split
  · exact .refl [] t
  · split
    · exact .refl [] t
    · exact t.replace_tells x _

theorem dropEdge_tells (id : ElementId) (t : Topology) (edge : Edge) :
    t.Tells [] (t.dropEdge id edge) := by
  refine Tells.markDirty ?_
  unfold modifyKnown
  split
  · exact withElements_tells fun _ h => ⟨get?_modify_of_notMem _ h, rfl⟩
  · exact withElements_tells fun _ h => ⟨rfl, get?_modify_of_notMem _ h⟩

theorem forget_tells (t : Topology) (x : ElementId) : t.Tells [x] (t.forget x) := by
  unfold forget
  split
  · exact withElements_tells fun _ h => ⟨get?_erase_of_notMem h, rfl⟩
  · exact withElements_tells fun _ h => ⟨rfl, get?_erase_of_notMem h⟩

/-! ## Information -/

/-- Whoever owns an element that looks different, or a loaded one while there is another provider, was
asked to scan. -/
structure Informs (t t' : Topology) : Prop where
  element : ∀ e id, t.owner? e = some id → id ∉ t'.scanRequests → t.LooksAlike e t'
  provider : ∀ e id, t.owner? e = some id → t.loaded.contains e = true → id ∉ t'.scanRequests →
    t'.provider = t.provider

theorem Tells.informs (h : t.Tells [] t') : t.Informs t' :=
  ⟨fun e id => h.element e id List.not_mem_nil, fun _ _ _ _ _ => h.provider⟩

theorem remove_informs (t : Topology) (x : ElementId) : t.Informs (t.remove x).2 := by
  unfold remove
  split
  · exact (Tells.refl [] t).informs
  · next el _ =>
    have hforget := t.forget_tells x
    unfold forget at hforget
    have hdrop := foldl_tells (dropEdge_tells x) el.edges (t.forget x)
    unfold forget at hdrop
    have htells : t.Tells [] _ :=
      (hforget.trans (hdrop.mono fun _ h => absurd h List.not_mem_nil)).requestOwnerScan
    -- the claim that is given up last does not concern what a scan sees
    exact ⟨fun e id howner hrequest =>
      (htells.element e id List.not_mem_nil howner hrequest).trans (.of_tables rfl rfl),
      fun _ _ _ _ _ => htells.provider⟩

theorem mem_scanRequests_foldl_markDirty {xs : List ElementId} {id : ControllerId} (hmem : e ∈ xs)
    (howner : t.owner? e = some id) : id ∈ (xs.foldl Topology.markDirty t).scanRequests := by
  induction xs generalizing t with
  | nil => cases hmem
  | cons x xs ih =>
    have hmark := t.markDirty_tells x
    rcases List.mem_cons.1 hmem with rfl | hmem
    · refine (foldl_tells markDirty_tells xs (t.markDirty e)).requests id ?_
      exact mem_scanRequests_requestOwnerScan howner
    · exact ih hmem ((hmark.owner?_eq e).trans howner)

theorem setProvider_informs (t : Topology) (provider : Provider) : t.Informs (t.setProvider provider) := by
  have htells := foldl_tells markDirty_tells t.loaded.keys { t with provider := some provider }
  refine ⟨fun e id howner hrequest => ?_, fun e id howner hloaded hrequest => absurd ?_ hrequest⟩
  · have hlooks : t.LooksAlike e { t with provider := some provider } := .of_tables rfl rfl
    exact hlooks.trans (htells.element e id List.not_mem_nil howner hrequest)
  · obtain ⟨el, hel⟩ := Option.isSome_iff_exists.1 hloaded
    exact mem_scanRequests_foldl_markDirty
      (List.mem_map.2 ⟨(e, el), Table.get?_eq_some_iff.1 hel, rfl⟩) howner

/-- Every operation informs the owners of what it changes. -/
theorem step_informs (t : Topology) (op : TopologyOp) : t.Informs (t.step op).2 := by
  cases op with
  | insert e blocked devices => exact (t.insert_tells (.new e blocked devices)).informs
  | putBack element => exact (t.insert_tells element).informs
  | unload e => exact (t.unload_tells e).informs
  | reload e => exact (t.reload_tells e).informs
  | remove e => exact t.remove_informs e
  | connect a aSide b bSide => exact (t.connect_tells a aSide b bSide).informs
  | disconnect a b => exact (t.disconnect_tells a b).informs
  | addDevice e d => exact (t.addDevice_tells e d).informs
  | removeDevice e device => exact (t.removeDevice_tells e device).informs
  | markDirty e => exact (t.markDirty_tells e).informs
  | setProvider provider => exact t.setProvider_informs provider

/-! ## Operations of controllers -/

/-- A scan sees the same everywhere. -/
structure Looks (t t' : Topology) : Prop where
  element : ∀ e, t.LooksAlike e t'
  provider : t'.provider = t.provider

theorem Looks.of_elements (hloaded : t'.loaded = t.loaded) (hunloaded : t'.unloaded = t.unloaded)
    (hprovider : t'.provider = t.provider) : t.Looks t' :=
  ⟨fun _ => .of_tables (by rw [hloaded]) (by rw [hunloaded]), hprovider⟩

theorem Looks.trans (h : t.Looks t') (h' : t'.Looks t'') : t.Looks t'' :=
  ⟨fun e => (h.element e).trans (h'.element e), h'.provider.trans h.provider⟩

theorem unregister_looks (t : Topology) (id : ControllerId) : t.Looks (t.unregister id) := by
  unfold unregister
  split
  · exact .of_elements rfl rfl rfl
  · exact .of_elements rfl rfl rfl

theorem claimOne_looks (id : ControllerId) (t : Topology) (x : ElementId) :
    t.Looks (t.claimOne id x) :=
  ⟨fun e => (t.modify_setScanPending_looksAlike x false e).trans (.of_tables rfl rfl), rfl⟩

theorem foldl_looks {α : Type} {f : Topology → α → Topology} (hf : ∀ (t : Topology) (a : α), t.Looks (f t a))
    (as : List α) (t : Topology) : t.Looks (as.foldl f t) := by
  induction as generalizing t with
  | nil => exact .of_elements rfl rfl rfl
  | cons a as ih => exact (hf t a).trans (ih (f t a))

/-- A scan that completes changes nothing that a scan sees. -/
theorem claim_looks (t : Topology) (id : ControllerId) (es : List ElementId) :
    t.Looks (t.claim id es) := by
  have hrivals : t.Looks ((t.rivals id es).foldl invalidate t) :=
    foldl_looks (f := invalidate) (fun t id => .of_elements rfl rfl rfl) _ t
  unfold claim
  generalize (t.rivals id es).foldl invalidate t = t₁ at hrivals
  have hreleased : t₁.Looks (t₁.releaseClaims id) := .of_elements rfl rfl rfl
  have hclaimed := foldl_looks (claimOne_looks id) es (t₁.releaseClaims id)
  exact ((hrivals.trans hreleased).trans hclaimed).trans (.of_elements rfl rfl rfl)

end Topology

end DeviceBus
