import DeviceBus.World

/-!
# Claims and notices

What each operation of the topology does to the claims, the registrations, and the two lists of
notices.  Operations on elements are calm: they leave the claims and registrations alone, lose no
element but the one that is removed, and take back no request to scan (`Topology.Calm`).

    id' ∈ t.rivals id es ↔ id' ≠ id, is registered, and owns one of es      (mem_rivals)

A controller that completes a scan then owns exactly what it found, and its rivals own nothing
(`Topology.Claims`).
-/

namespace DeviceBus

namespace Table

variable {κ ν : Type} [Key κ]

theorem contains_insert (t : Table κ ν) (k k' : κ) (v : ν) :
    (t.insert k v).contains k' = (decide (Key.index k = Key.index k') || t.contains k') := by
  unfold contains
  rw [get?_insert]
  split
  · next h => simp [h]
  · next h => simp [h]

theorem contains_modify (t : Table κ ν) (k k' : κ) (f : ν → ν) :
    (t.modify k f).contains k' = t.contains k' := by
  unfold contains
  rw [get?_modify]
  split
  · exact Option.isSome_map
  · rfl

theorem contains_erase (t : Table κ ν) (k k' : κ) :
    (t.erase k).contains k' = (!decide (Key.index k = Key.index k') && t.contains k') := by
  unfold contains
  rw [get?_erase]
  split
  · next h => simp [h]
  · next h => simp [h]

end Table

theorem ElementId.index_eq_iff {a b : ElementId} : Key.index a = Key.index b ↔ a = b :=
  ⟨Key.index_inj, congrArg Key.index⟩

theorem ControllerId.index_eq_iff {a b : ControllerId} : Key.index a = Key.index b ↔ a = b :=
  ⟨Key.index_inj, congrArg Key.index⟩

namespace Topology

/-! ## What there is to know of a topology -/

/-- Whether an element is known, loaded or not. -/
def knows (t : Topology) (e : ElementId) : Bool := t.loaded.contains e || t.unloaded.contains e

theorem known?_isSome (t : Topology) (e : ElementId) : (t.known? e).isSome = t.knows e := by
  unfold known? knows Table.contains
  cases t.loaded.get? e <;> rfl

/-- Whether a controller is registered. -/
def isRegistered (t : Topology) (id : ControllerId) : Bool := t.controllers.contains id

/-- Whether a registered controller lost its bus to another and did not complete a scan since. -/
def isLost (t : Topology) (id : ControllerId) : Bool := (t.controllers.get? id).any (·.invalidated)

/-! ## Sets of controllers -/

theorem mem_enlist {ids : List ControllerId} {id id' : ControllerId} :
    id' ∈ enlist ids id ↔ id' ∈ ids ∨ id' = id := by
  unfold enlist
  split
  · next h =>
    constructor
    · exact .inl
    · rintro (h' | rfl)
      · exact h'
      · exact h
  · rw [List.mem_append, List.mem_singleton]

theorem mem_foldl_enlist {ids more : List ControllerId} {id : ControllerId} :
    id ∈ more.foldl enlist ids ↔ id ∈ ids ∨ id ∈ more := by
  induction more generalizing ids with
  | nil => simp
  | cons m more ih =>
    rw [List.foldl_cons, ih, mem_enlist, List.mem_cons, or_assoc]

theorem mem_strike {ids : List ControllerId} {id id' : ControllerId} :
    id' ∈ strike ids id ↔ id' ∈ ids ∧ id' ≠ id := by
  unfold strike
  rw [List.mem_filter, decide_eq_true_iff]

/-! ## Calm operations -/

/-- Claims, registrations and notices of lost buses are the same, no element is forgotten, and no
request to scan is taken back. -/
structure Calm (t t' : Topology) : Prop where
  claims : t'.claims = t.claims
  controllers : t'.controllers = t.controllers
  invalidations : t'.invalidations = t.invalidations
  lastSerial : t'.lastSerial = t.lastSerial
  knows : ∀ e, t.knows e = true → t'.knows e = true
  requests : ∀ id ∈ t.scanRequests, id ∈ t'.scanRequests

theorem Calm.refl (t : Topology) : t.Calm t := ⟨rfl, rfl, rfl, rfl, fun _ h => h, fun _ h => h⟩

theorem Calm.trans {t t' t'' : Topology} (h₁ : t.Calm t') (h₂ : t'.Calm t'') : t.Calm t'' :=
  ⟨h₂.claims.trans h₁.claims, h₂.controllers.trans h₁.controllers,
    h₂.invalidations.trans h₁.invalidations, h₂.lastSerial.trans h₁.lastSerial,
    fun e h => h₂.knows e (h₁.knows e h), fun id h => h₂.requests id (h₁.requests id h)⟩

theorem requestScans_calm (t : Topology) (ids : List ControllerId) : t.Calm (t.requestScans ids) :=
  ⟨rfl, rfl, rfl, rfl, fun _ h => h, fun _ h => mem_foldl_enlist.2 (.inl h)⟩

/-- Elements take the place of others, and none is forgotten. -/
theorem withElements_calm {t : Topology} {loaded unloaded : Table ElementId Element}
    (h : ∀ e, t.knows e = true → (loaded.contains e || unloaded.contains e) = true) :
    t.Calm { t with loaded, unloaded } := ⟨rfl, rfl, rfl, rfl, h, fun _ h => h⟩

theorem markDirty_calm (t : Topology) (e : ElementId) : t.Calm (t.markDirty e) := by
  refine Calm.trans (withElements_calm ?_) (requestScans_calm _ _)
  intro e' h
  rw [Table.contains_modify]
  exact h

theorem foldl_calm {α : Type} {f : Topology → α → Topology} (hf : ∀ (t : Topology) (a : α), t.Calm (f t a))
    (as : List α) (t : Topology) : t.Calm (as.foldl f t) := by
  induction as generalizing t with
  | nil => exact .refl t
  | cons a as ih => exact (hf t a).trans (ih (f t a))

theorem dropEdge_calm (id : ElementId) (t : Topology) (edge : Edge) : t.Calm (t.dropEdge id edge) := by
  refine Calm.trans ?_ (markDirty_calm _ edge.target)
  unfold modifyKnown
  split
  · refine withElements_calm fun e h => ?_
    rw [Table.contains_modify]
    exact h
  · refine withElements_calm fun e h => ?_
    rw [Table.contains_modify]
    exact h

/-- An element that is loaded anew was known before, or is known now. -/
theorem knows_insert {t : Topology} {e e' : ElementId} (el : Element) (h : t.knows e' = true) :
    ((t.loaded.insert e el).contains e' || (t.unloaded.erase e).contains e') = true := by
  rw [Table.contains_insert, Table.contains_erase]
  unfold knows at h
  by_cases heq : Key.index e = Key.index e'
  · simp [heq]
  · simpa [heq] using h

theorem knows_replace {t : Topology} {loaded : Table ElementId Element} {e : ElementId}
    (hloaded : t.loaded.contains e = true → loaded.contains e = true) (h : t.knows e = true) :
    (loaded.contains e || t.unloaded.contains e) = true := by
  unfold knows at h
  rw [Bool.or_eq_true] at h ⊢
  exact h.imp_left hloaded

theorem contains_insert_of_contains {loaded : Table ElementId Element} {e e' : ElementId} (el : Element)
    (h : loaded.contains e' = true) : (loaded.insert e el).contains e' = true := by
  rw [Table.contains_insert, h, Bool.or_true]

theorem insert_calm (t : Topology) (e : Element) : t.Calm (t.insert e).2 :=
  (withElements_calm fun _ h => knows_insert e h).trans (markDirty_calm _ e.id)

theorem unload_calm (t : Topology) (e : ElementId) : t.Calm (t.unload e).2 := by
  unfold unload
  split
  · exact .refl t
  · next el _ =>
    refine Calm.trans (withElements_calm ?_) (requestScans_calm _ _)
    intro e' h
    rw [Table.contains_insert, Table.contains_erase]
    unfold knows at h
    by_cases heq : Key.index e = Key.index e'
    · simp [heq]
    · simpa [heq] using h

theorem reload_calm (t : Topology) (e : ElementId) : t.Calm (t.reload e).2 := by
  unfold reload
  split
  · exact .refl t
  · next el _ => exact (withElements_calm fun _ h => knows_insert el h).trans (markDirty_calm _ e)

theorem connect_calm (t : Topology) (a : ElementId) (aSide : Option Side) (b : ElementId)
    (bSide : Option Side) : t.Calm (t.connect a aSide b bSide).2 := by
  unfold connect
  split
  · split
    · exact .refl t
    · refine Calm.trans (Calm.trans (withElements_calm ?_) (markDirty_calm _ a)) (markDirty_calm _ b)
      intro e h
      refine knows_replace (fun hloaded => ?_) h
      exact contains_insert_of_contains _ (contains_insert_of_contains _ hloaded)
  · exact .refl t

theorem disconnect_calm (t : Topology) (a b : ElementId) : t.Calm (t.disconnect a b).2 := by
  unfold disconnect
  dsimp only
  split
  · refine Calm.trans (Calm.trans (withElements_calm ?_) (markDirty_calm _ a)) (markDirty_calm _ b)
    intro e h
    refine knows_replace (fun hloaded => ?_) h
    rw [Table.contains_modify, Table.contains_modify]
    exact hloaded
  · exact .refl t

/-- A loaded element is changed. -/
theorem replace_calm (t : Topology) (e : ElementId) (el : Element) :
    t.Calm ({ t with loaded := t.loaded.insert e el }.markDirty e) := by
  refine Calm.trans (withElements_calm ?_) (markDirty_calm _ e)
  intro e' h
  exact knows_replace (contains_insert_of_contains el) h

theorem addDevice_calm (t : Topology) (e : ElementId) (d : DeviceRef) :
    t.Calm (t.addDevice e d).2 := by
  unfold addDevice
  split
  · exact .refl t
  · exact t.replace_calm e _

theorem removeDevice_calm (t : Topology) (e : ElementId) (device : DeviceId) :
    t.Calm (t.removeDevice e device).2 := by
  unfold removeDevice
  split
  · exact .refl t
  · split
    · exact .refl t
    · exact t.replace_calm e _

theorem setProvider_calm (t : Topology) (provider : Provider) : t.Calm (t.setProvider provider) := by
  have hprovider : t.Calm { t with provider := some provider } :=
    ⟨rfl, rfl, rfl, rfl, fun _ h => h, fun _ h => h⟩
  exact hprovider.trans (foldl_calm markDirty_calm _ _)

/-- Every operation is calm, except that a removal forgets its element. -/
theorem step_calm (t : Topology) {op : TopologyOp} (hop : ∀ e, op ≠ .remove e) :
    t.Calm (t.step op).2 := by
  cases op with
  | insert e blocked devices => exact t.insert_calm (.new e blocked devices)
  | putBack element => exact t.insert_calm element
  | unload e => exact t.unload_calm e
  | reload e => exact t.reload_calm e
  | remove e => exact absurd rfl (hop e)
  | connect a aSide b bSide => exact t.connect_calm a aSide b bSide
  | disconnect a b => exact t.disconnect_calm a b
  | addDevice e d => exact t.addDevice_calm e d
  | removeDevice e device => exact t.removeDevice_calm e device
  | markDirty e => exact t.markDirty_calm e
  | setProvider provider => exact t.setProvider_calm provider

/-- An element and the claim on it are gone, its owner has to scan again, and the rest is calm. -/
structure Drops (e : ElementId) (t t' : Topology) : Prop where
  claims : t'.claims = t.claims.erase e
  controllers : t'.controllers = t.controllers
  invalidations : t'.invalidations = t.invalidations
  lastSerial : t'.lastSerial = t.lastSerial
  knows : ∀ e', e' ≠ e → t.knows e' = true → t'.knows e' = true
  requests : ∀ id ∈ t.scanRequests, id ∈ t'.scanRequests
  owner : ∀ id, t.owner? e = some id → id ∈ t'.scanRequests

/-- The topology without an element; the edges to it and the claim on it are still there. -/
def forget (t : Topology) (e : ElementId) : Topology :=
  if t.loaded.contains e then { t with loaded := t.loaded.erase e }
  else { t with unloaded := t.unloaded.erase e }

theorem forget_knows {t : Topology} {e e' : ElementId} (hne : e' ≠ e) (h : t.knows e' = true) :
    (t.forget e).knows e' = true := by
  have hindex : Key.index e ≠ Key.index e' := fun heq => hne (Key.index_inj heq).symm
  unfold knows at h
  unfold forget
  split <;>
  · unfold knows
    simpa [Table.contains_erase, hindex] using h

/-- Forgetting an element concerns the elements only. -/
theorem forget_same (t : Topology) (e : ElementId) :
    (t.forget e).claims = t.claims ∧ (t.forget e).controllers = t.controllers ∧
      (t.forget e).invalidations = t.invalidations ∧ (t.forget e).lastSerial = t.lastSerial ∧
      (t.forget e).scanRequests = t.scanRequests := by
  unfold forget
  split <;> exact ⟨rfl, rfl, rfl, rfl, rfl⟩

/-- Removing an element that is not known does nothing. -/
theorem remove_drops (t : Topology) (e : ElementId) :
    (t.remove e).2 = t ∨ t.Drops e (t.remove e).2 := by
  unfold remove
  split
  · exact .inl rfl
  · next el _ =>
    right
    have hknows (e' : ElementId) (hne : e' ≠ e) (h : t.knows e' = true) := forget_knows hne h
    obtain ⟨hclaims, hcontrollers, hinvalidations, hserial, hrequests⟩ := t.forget_same e
    unfold forget at hknows hclaims hcontrollers hinvalidations hserial hrequests
    generalize (if t.loaded.contains e then { t with loaded := t.loaded.erase e }
      else { t with unloaded := t.unloaded.erase e }) = t₁ at *
    have hedges := foldl_calm (dropEdge_calm e) el.edges t₁
    dsimp only
    generalize el.edges.foldl (dropEdge e) t₁ = t₂ at hedges ⊢
    have hcalm := hedges.trans (requestScans_calm t₂ ((t₂.owner? e).toList ++ t₂.rootedAt e))
    refine ⟨?_, ?_, ?_, ?_, ?_, ?_, ?_⟩
    · exact congrArg (·.erase e) (hcalm.claims.trans hclaims)
    · exact hcalm.controllers.trans hcontrollers
    · exact hcalm.invalidations.trans hinvalidations
    · exact hcalm.lastSerial.trans hserial
    · intro e' hne h
      exact hcalm.knows e' (hknows e' hne h)
    · intro id h
      rw [← hrequests] at h
      exact hcalm.requests id h
    · intro id h
      refine mem_foldl_enlist.2 (.inr (List.mem_append_left _ ?_))
      have howner : t₂.owner? e = some id := by
        unfold owner?
        rw [hedges.claims, hclaims]
        exact h
      rw [howner]
      exact List.mem_singleton_self _

/-! ## Registrations -/

theorem owner?_releaseClaims {t : Topology} {id id' : ControllerId} {e : ElementId} :
    (t.releaseClaims id).owner? e = some id' ↔ t.owner? e = some id' ∧ id' ≠ id := by
  show (t.claims.filter _).get? e = _ ↔ _
  rw [Table.get?_filter, Option.filter_eq_some_iff, decide_eq_true_iff]
  rfl

theorem isRegistered_register (t : Topology) (root : ElementId) (id : ControllerId) :
    (t.register root).2.isRegistered id =
      (decide (id = ⟨t.lastSerial + 1⟩) || t.isRegistered id) := by
  show (t.controllers.insert _ _).contains id = _
  rw [Table.contains_insert]
  congr 1
  rw [decide_eq_decide, ControllerId.index_eq_iff]
  exact eq_comm

/-- What unregistering a registered controller leaves. -/
structure Leaves (id : ControllerId) (t t' : Topology) : Prop where
  owner : ∀ e id', t'.owner? e = some id' ↔ t.owner? e = some id' ∧ id' ≠ id
  registered : ∀ id', t'.isRegistered id' = (decide (id' ≠ id) && t.isRegistered id')
  lost : ∀ id', id' ≠ id → t'.isLost id' = t.isLost id'
  invalidations : ∀ id', id' ∈ t'.invalidations ↔ id' ∈ t.invalidations ∧ id' ≠ id
  requests : ∀ id' ∈ t.scanRequests, id' ≠ id → id' ∈ t'.scanRequests
  lastSerial : t'.lastSerial = t.lastSerial
  knows : ∀ e, t'.knows e = t.knows e

theorem unregister_leaves {t : Topology} {id : ControllerId} (h : t.isRegistered id = true) :
    t.Leaves id (t.unregister id) := by
  unfold unregister
  rw [if_pos (show t.controllers.contains id = true from h)]
  refine ⟨fun _ _ => owner?_releaseClaims, ?_, ?_, fun _ => mem_strike, ?_, rfl, fun _ => rfl⟩
  · intro id'
    show (t.controllers.erase id).contains id' = _
    rw [Table.contains_erase, ← decide_not]
    congr 1
    rw [decide_eq_decide, ControllerId.index_eq_iff]
    exact not_congr eq_comm
  · intro id' hne
    show ((t.controllers.erase id).get? id').any _ = _
    rw [Table.get?_erase, if_neg fun heq => hne (Key.index_inj heq).symm]
    rfl
  · intro id' hmem hne
    exact mem_foldl_enlist.2 (.inl (mem_strike.2 ⟨hmem, hne⟩))

/-! ## Claiming -/

theorem isRegistered_invalidate (t : Topology) (id id' : ControllerId) :
    (t.invalidate id).isRegistered id' = t.isRegistered id' := Table.contains_modify _ _ _ _

theorem isLost_invalidate {t : Topology} {id : ControllerId} (h : t.isRegistered id = true)
    (id' : ControllerId) : (t.invalidate id).isLost id' = (decide (id' = id) || t.isLost id') := by
  show ((t.controllers.modify id _).get? id').any _ = _
  rw [Table.get?_modify]
  by_cases heq : id' = id
  · subst heq
    rw [if_pos rfl, decide_eq_true rfl, Bool.true_or]
    obtain ⟨r, hr⟩ := Option.isSome_iff_exists.1 h
    rw [hr]
    rfl
  · rw [if_neg fun hindex => heq (Key.index_inj hindex).symm, decide_eq_false heq, Bool.false_or]
    rfl

/-- What is left of a bus after some controllers lost theirs. -/
structure Evicts (ids : List ControllerId) (t t' : Topology) : Prop where
  owner : ∀ e id, t'.owner? e = some id ↔ t.owner? e = some id ∧ id ∉ ids
  registered : ∀ id, t'.isRegistered id = t.isRegistered id
  lost : ∀ id, t'.isLost id = (decide (id ∈ ids) || t.isLost id)
  invalidations : ∀ id, id ∈ t'.invalidations ↔ id ∈ t.invalidations ∨ id ∈ ids
  requests : ∀ id, id ∈ t'.scanRequests ↔ id ∈ t.scanRequests ∧ id ∉ ids
  lastSerial : t'.lastSerial = t.lastSerial
  knows : ∀ e, t'.knows e = t.knows e

theorem foldl_invalidate_evicts (ids : List ControllerId) {t : Topology}
    (h : ∀ id ∈ ids, t.isRegistered id = true) : t.Evicts ids (ids.foldl invalidate t) := by
  induction ids generalizing t with
  | nil =>
    refine ⟨?_, fun _ => rfl, ?_, ?_, ?_, rfl, fun _ => rfl⟩
    · intro e id
      simp
    · intro id
      rfl
    · intro id
      simp
    · intro id
      simp
  | cons first rest ih =>
    have hfirst := h first List.mem_cons_self
    have hrest := ih (t := t.invalidate first) fun id hid => by
      rw [isRegistered_invalidate]
      exact h id (List.mem_cons_of_mem _ hid)
    refine ⟨?_, ?_, ?_, ?_, ?_, hrest.lastSerial, hrest.knows⟩
    · intro e id
      rw [List.foldl_cons, hrest.owner, show (t.invalidate first).owner? e = some id ↔
        t.owner? e = some id ∧ id ≠ first from owner?_releaseClaims, List.mem_cons, not_or, and_assoc]
    · intro id
      rw [List.foldl_cons, hrest.registered, isRegistered_invalidate]
    · intro id
      rw [List.foldl_cons, hrest.lost, isLost_invalidate hfirst, ← Bool.or_assoc]
      congr 1
      simp [Bool.or_comm]
    · intro id
      rw [List.foldl_cons, hrest.invalidations, show id ∈ (t.invalidate first).invalidations ↔
        id ∈ t.invalidations ∨ id = first from mem_enlist, List.mem_cons, or_assoc]
    · intro id
      rw [List.foldl_cons, hrest.requests, show id ∈ (t.invalidate first).scanRequests ↔
        id ∈ t.scanRequests ∧ id ≠ first from mem_strike, List.mem_cons, not_or, and_assoc]

theorem mem_rivals {t : Topology} {id id' : ControllerId} {es : List ElementId} :
    id' ∈ t.rivals id es ↔
      id' ≠ id ∧ t.isRegistered id' = true ∧ ∃ e ∈ es, t.owner? e = some id' := by
  have hfold (owners ids : List ControllerId) :
      id' ∈ owners.foldl (fun ids owner => if owner ≠ id ∧ t.controllers.contains owner then
        enlist ids owner else ids) ids ↔
        id' ∈ ids ∨ id' ≠ id ∧ t.isRegistered id' = true ∧ id' ∈ owners := by
    induction owners generalizing ids with
    | nil => simp
    | cons owner owners ih =>
      rw [List.foldl_cons, ih, List.mem_cons]
      split
      · next hc =>
        rw [mem_enlist]
        constructor
        · rintro ((hmem | rfl) | ⟨hne, hreg, hmem⟩)
          · exact .inl hmem
          · exact .inr ⟨hc.1, hc.2, .inl rfl⟩
          · exact .inr ⟨hne, hreg, .inr hmem⟩
        · rintro (hmem | ⟨hne, hreg, rfl | hmem⟩)
          · exact .inl (.inl hmem)
          · exact .inl (.inr rfl)
          · exact .inr ⟨hne, hreg, hmem⟩
      · next hc =>
        constructor
        · rintro (hmem | ⟨hne, hreg, hmem⟩)
          · exact .inl hmem
          · exact .inr ⟨hne, hreg, .inr hmem⟩
        · rintro (hmem | ⟨hne, hreg, rfl | hmem⟩)
          · exact .inl hmem
          · exact absurd ⟨hne, hreg⟩ hc
          · exact .inr ⟨hne, hreg, hmem⟩
  unfold rivals
  rw [hfold]
  simp [List.mem_filterMap]

/-- What a completed scan makes of the topology: the controller owns exactly what it found, and
whoever owned some of that lost all of its bus. -/
structure Claims (id : ControllerId) (es : List ElementId) (t t' : Topology) : Prop where
  owner : ∀ e id', t'.owner? e = some id' ↔
    if e ∈ es then id = id' else t.owner? e = some id' ∧ id' ≠ id ∧ id' ∉ t.rivals id es
  registered : ∀ id', t'.isRegistered id' = t.isRegistered id'
  lost : ∀ id', t'.isLost id' = (decide (id' ≠ id) && (decide (id' ∈ t.rivals id es) || t.isLost id'))
  invalidations : ∀ id', id' ∈ t'.invalidations ↔ id' ∈ t.invalidations ∨ id' ∈ t.rivals id es
  requests : ∀ id', id' ∈ t'.scanRequests ↔ id' ∈ t.scanRequests ∧ id' ∉ t.rivals id es
  lastSerial : t'.lastSerial = t.lastSerial
  knows : ∀ e, t'.knows e = t.knows e

/-- Claiming elements one after the other. -/
theorem foldl_claimOne_owner? (id : ControllerId) (es : List ElementId) (t : Topology) (e : ElementId) :
    (es.foldl (claimOne id) t).owner? e = if e ∈ es then some id else t.owner? e := by
  induction es generalizing t with
  | nil => rfl
  | cons first rest ih =>
    rw [List.foldl_cons, ih]
    have hfirst : (t.claimOne id first).owner? e = if first = e then some id else t.owner? e := by
      show (t.claims.insert first id).get? e = _
      rw [Table.get?_insert]
      simp only [ElementId.index_eq_iff]
      rfl
    rw [hfirst]
    by_cases hmem : e ∈ rest
    · simp [hmem]
    · by_cases heq : first = e
      · simp [heq]
      · simp [hmem, heq, Ne.symm heq]

/-- Claiming elements concerns, besides the claims, the marks of the elements only. -/
theorem foldl_claimOne_same (id : ControllerId) (es : List ElementId) (t : Topology) :
    (es.foldl (claimOne id) t).controllers = t.controllers ∧
      (es.foldl (claimOne id) t).invalidations = t.invalidations ∧
      (es.foldl (claimOne id) t).scanRequests = t.scanRequests ∧
      (es.foldl (claimOne id) t).lastSerial = t.lastSerial ∧
      ∀ e, (es.foldl (claimOne id) t).knows e = t.knows e := by
  induction es generalizing t with
  | nil => exact ⟨rfl, rfl, rfl, rfl, fun _ => rfl⟩
  | cons first rest ih =>
    obtain ⟨hcontrollers, hinvalidations, hrequests, hserial, hknows⟩ := ih (t.claimOne id first)
    refine ⟨hcontrollers, hinvalidations, hrequests, hserial, ?_⟩
    intro e
    rw [List.foldl_cons, hknows]
    show ((t.loaded.modify first _).contains e || t.unloaded.contains e) = _
    rw [Table.contains_modify]
    rfl

theorem claim_claims (t : Topology) (id : ControllerId) (es : List ElementId) :
    t.Claims id es (t.claim id es) := by
  have hevicts := foldl_invalidate_evicts (t.rivals id es) (t := t) fun id' h => (mem_rivals.1 h).2.1
  unfold claim
  generalize (t.rivals id es).foldl invalidate t = t₁ at hevicts
  obtain ⟨hcontrollers, hinvalidations, hrequests, hserial, hknows⟩ :=
    foldl_claimOne_same id es (t₁.releaseClaims id)
  have howner := foldl_claimOne_owner? id es (t₁.releaseClaims id)
  dsimp only
  generalize es.foldl (claimOne id) (t₁.releaseClaims id) = t₂ at *
  refine ⟨?_, ?_, ?_, ?_, ?_, ?_, ?_⟩
  · intro e id'
    show t₂.owner? e = some id' ↔ _
    rw [howner]
    split
    · exact Option.some_inj
    · rw [owner?_releaseClaims, hevicts.owner, and_assoc, and_comm (a := id' ∉ _)]
  · intro id'
    show (t₂.controllers.modify id _).contains id' = _
    rw [Table.contains_modify, hcontrollers]
    exact hevicts.registered id'
  · intro id'
    show ((t₂.controllers.modify id _).get? id').any _ = _
    rw [Table.get?_modify, hcontrollers]
    by_cases heq : id' = id
    · subst heq
      rw [if_pos rfl, decide_eq_false (not_not_intro rfl), Bool.false_and]
      cases (t₁.releaseClaims id').controllers.get? id' <;> rfl
    · rw [if_neg fun hindex => heq (Key.index_inj hindex).symm, decide_eq_true heq, Bool.true_and]
      exact hevicts.lost id'
  · intro id'
    rw [← hevicts.invalidations]
    exact Iff.of_eq (congrArg _ hinvalidations)
  · intro id'
    rw [← hevicts.requests]
    exact Iff.of_eq (congrArg _ hrequests)
  · exact hserial.trans hevicts.lastSerial
  · intro e
    exact (hknows e).trans (hevicts.knows e)

/-- Who claims elements owns exactly these. -/
theorem owner?_claim (t : Topology) (id : ControllerId) (es : List ElementId) (e : ElementId) :
    (t.claim id es).owner? e = some id ↔ e ∈ es := by
  rw [(t.claim_claims id es).owner]
  split
  · next hmem => exact iff_of_true rfl hmem
  · next hmem => exact iff_of_false (fun howner => howner.2.1 rfl) hmem

end Topology

end DeviceBus
