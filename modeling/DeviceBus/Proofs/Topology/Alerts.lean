import DeviceBus.Proofs.Topology.Claims

/-!
# Who is asked to scan

An operation on elements touches a few of them, and asks their owners and the controllers rooted at
them to scan again, and nobody else:

    id ∈ (t.step op).2.scanRequests ↔ id ∈ t.scanRequests ∨ ∃ e ∈ t.touched op, t.Concerns e id
                                                                        (mem_scanRequests_step)

A controller that goes asks those that lost their bus (`Topology.mem_scanRequests_unregister`), and no
other operation of a controller asks anybody.  What one operation means for a controller that it does
not belong to is told by `Topology.Rouses`.
-/

namespace DeviceBus

namespace Topology

/-- The root under which a controller is registered. -/
def rootOf? (t : Topology) (id : ControllerId) : Option ElementId :=
  (t.controllers.get? id).map Registration.root

/-- Whether a controller owns an element or is rooted at it. -/
def Concerns (t : Topology) (e : ElementId) (id : ControllerId) : Prop :=
  t.owner? e = some id ∨ t.rootOf? id = some e

instance (t : Topology) (e : ElementId) (id : ControllerId) : Decidable (t.Concerns e id) :=
  inferInstanceAs (Decidable (_ ∨ _))

/-- The elements whose owners and roots an operation asks for. -/
def touched (t : Topology) : TopologyOp → List ElementId
  | .insert e _ _ => [e]
  | .putBack element => [element.id]
  | .unload e => if t.loaded.contains e then [e] else []
  | .reload e => if t.isUnloaded e then [e] else []
  | .remove e =>
    match t.known? e with
    | none => []
    | some el => el.edges.map Edge.target ++ [e]
  | .connect a aSide b bSide => if (t.connect a aSide b bSide).1 then [a, b] else []
  | .disconnect a b => if (t.disconnect a b).1 then [a, b] else []
  | .addDevice e _ => if t.loaded.contains e then [e] else []
  | .removeDevice e device => if (t.removeDevice e device).1.isSome then [e] else []
  | .markDirty e => [e]
  | .setProvider _ => t.loaded.keys

variable {t t' t'' : Topology} {id id' : ControllerId}

theorem isRegistered_eq_isSome (t : Topology) (id : ControllerId) :
    t.isRegistered id = (t.rootOf? id).isSome := Option.isSome_map.symm

theorem rootOf?_eq_none_iff : t.rootOf? id = none ↔ t.isRegistered id = false := by
  rw [isRegistered_eq_isSome, Option.isSome_eq_false_iff, Option.isNone_iff_eq_none]

theorem isRegistered_of_isLost (h : t.isLost id = true) : t.isRegistered id = true := by
  obtain ⟨r, hr, -⟩ := (Option.any_eq_true _ _).1 h
  exact Option.isSome_iff_exists.2 ⟨r, hr⟩

/-! ## Operations on elements -/

theorem mem_rootedAt {e : ElementId} : id ∈ t.rootedAt e ↔ t.rootOf? id = some e := by
  unfold rootedAt rootOf?
  rw [Option.map_eq_some_iff]
  constructor
  · intro h
    obtain ⟨⟨id', r⟩, hmem, rfl⟩ := List.mem_map.1 h
    have hget := Table.get?_eq_some_iff.2 hmem
    rw [Table.get?_filter, Option.filter_eq_some_iff, decide_eq_true_iff] at hget
    exact ⟨r, hget⟩
  · rintro ⟨r, hr, rfl⟩
    refine List.mem_map.2 ⟨(id, r), Table.get?_eq_some_iff.1 ?_, rfl⟩
    rw [Table.get?_filter, hr]
    exact Option.filter_eq_some_iff.2 ⟨rfl, decide_eq_true rfl⟩

/-- Claims and registrations stay, and exactly those that some elements concern are asked to scan. -/
structure Asks (es : List ElementId) (t t' : Topology) : Prop where
  claims : t'.claims = t.claims
  controllers : t'.controllers = t.controllers
  requests : ∀ id, id ∈ t'.scanRequests ↔ id ∈ t.scanRequests ∨ ∃ e ∈ es, t.Concerns e id

variable {es es' : List ElementId}

theorem Asks.refl (t : Topology) : t.Asks [] t :=
  ⟨rfl, rfl, fun _ => by simp⟩

theorem concerns_congr (hclaims : t'.claims = t.claims) (hcontrollers : t'.controllers = t.controllers)
    (e : ElementId) (id : ControllerId) : t'.Concerns e id ↔ t.Concerns e id := by
  unfold Concerns owner? rootOf?
  rw [hclaims, hcontrollers]

theorem Asks.trans (h : t.Asks es t') (h' : t'.Asks es' t'') : t.Asks (es ++ es') t'' := by
  refine ⟨h'.claims.trans h.claims, h'.controllers.trans h.controllers, fun id => ?_⟩
  rw [h'.requests, h.requests, or_assoc]
  refine or_congr_right ?_
  simp only [concerns_congr h.claims h.controllers, List.mem_append, or_and_right, exists_or]

/-- What is not a claim, a registration or a request plays no part. -/
theorem Asks.after (h : t'.Asks es t'') (hclaims : t'.claims = t.claims)
    (hcontrollers : t'.controllers = t.controllers) (hrequests : t'.scanRequests = t.scanRequests) :
    t.Asks es t'' := by
  refine ⟨h.claims.trans hclaims, h.controllers.trans hcontrollers, fun id => ?_⟩
  rw [h.requests, hrequests]
  simp only [concerns_congr hclaims hcontrollers]

theorem requestOwnerScan_asks (t : Topology) (e : ElementId) : t.Asks [e] (t.requestOwnerScan e) := by
  refine ⟨rfl, rfl, fun id => ?_⟩
  show id ∈ List.foldl enlist _ _ ↔ _
  rw [mem_foldl_enlist, List.mem_append, Option.mem_toList, mem_rootedAt]
  simp only [List.mem_singleton, exists_eq_left]
  rfl

theorem markDirty_asks (t : Topology) (e : ElementId) : t.Asks [e] (t.markDirty e) :=
  (requestOwnerScan_asks _ e).after rfl rfl rfl

/-- Elements take the place of others, and one of them is marked. -/
theorem withElements_asks (t : Topology) (loaded unloaded : Table ElementId Element) (e : ElementId) :
    t.Asks [e] ({ t with loaded, unloaded }.markDirty e) :=
  (markDirty_asks _ e).after rfl rfl rfl

theorem foldl_asks {α : Type} {f : Topology → α → Topology} {g : α → ElementId}
    (hf : ∀ (t : Topology) (a : α), t.Asks [g a] (f t a)) (as : List α) (t : Topology) :
    t.Asks (as.map g) (as.foldl f t) := by
  induction as generalizing t with
  | nil => exact .refl t
  | cons a as ih => exact (hf t a).trans (ih (f t a))

theorem dropEdge_asks (e : ElementId) (t : Topology) (edge : Edge) :
    t.Asks [edge.target] (t.dropEdge e edge) := by
  refine (markDirty_asks (t.modifyKnown edge.target (·.unlink e)) edge.target).after ?_ ?_ ?_ <;>
  · unfold modifyKnown
    split <;> rfl

theorem unload_asks (t : Topology) (e : ElementId) :
    t.Asks (if t.loaded.contains e then [e] else []) (t.unload e).2 := by
  unfold unload Table.contains get?
  cases t.loaded.get? e with
  | none => exact .refl t
  | some el => exact (requestOwnerScan_asks _ e).after rfl rfl rfl

theorem reload_asks (t : Topology) (e : ElementId) :
    t.Asks (if t.isUnloaded e then [e] else []) (t.reload e).2 := by
  unfold reload isUnloaded Table.contains
  cases t.unloaded.get? e with
  | none => exact .refl t
  | some el => exact t.withElements_asks _ _ e

theorem addDevice_asks (t : Topology) (e : ElementId) (d : DeviceRef) :
    t.Asks (if t.loaded.contains e then [e] else []) (t.addDevice e d).2 := by
  unfold addDevice Table.contains get?
  cases t.loaded.get? e with
  | none => exact .refl t
  | some el => exact t.withElements_asks _ _ e

theorem removeDevice_asks (t : Topology) (e : ElementId) (device : DeviceId) :
    t.Asks (if (t.removeDevice e device).1.isSome then [e] else []) (t.removeDevice e device).2 := by
  cases h : t.get? e with
  | none =>
    simp only [removeDevice, h]
    exact .refl t
  | some el =>
    simp only [removeDevice, h]
    rcases el.removeDevice device with ⟨_ | d, el'⟩
    · exact .refl t
    · exact t.withElements_asks _ _ e

theorem connect_asks (t : Topology) (a : ElementId) (aSide : Option Side) (b : ElementId)
    (bSide : Option Side) : t.Asks (if (t.connect a aSide b bSide).1 then [a, b] else [])
      (t.connect a aSide b bSide).2 := by
  unfold connect
  split
  · split
    · exact .refl t
    · exact (t.withElements_asks _ _ a).trans (markDirty_asks _ b)
  · exact .refl t

theorem disconnect_asks (t : Topology) (a b : ElementId) :
    t.Asks (if (t.disconnect a b).1 then [a, b] else []) (t.disconnect a b).2 := by
  unfold disconnect
  dsimp only
  split
  · exact (t.withElements_asks _ _ a).trans (markDirty_asks _ b)
  · exact .refl t

/-- The claim on an element that is removed goes after its owner was asked. -/
theorem remove_asks {t : Topology} {e : ElementId} {el : Element} (h : t.known? e = some el) :
    ∃ t', t.Asks (el.edges.map Edge.target ++ [e]) t' ∧
      (t.remove e).2 = { t' with claims := t'.claims.erase e } := by
  obtain ⟨hclaims, hcontrollers, -, -, hrequests⟩ := t.forget_same e
  have hedges := foldl_asks (dropEdge_asks e) el.edges (t.forget e)
  refine ⟨_, (hedges.trans (requestOwnerScan_asks _ e)).after hclaims hcontrollers hrequests, ?_⟩
  unfold remove
  rw [h]
  rfl

theorem setProvider_asks (t : Topology) (provider : Provider) :
    t.Asks t.loaded.keys (t.setProvider provider) := by
  have hkeys := foldl_asks (g := id) markDirty_asks t.loaded.keys { t with provider := some provider }
  rw [List.map_id] at hkeys
  exact hkeys.after rfl rfl rfl

/-- An operation asks exactly those that an element it touches concerns. -/
theorem mem_scanRequests_step (t : Topology) (op : TopologyOp) (id : ControllerId) :
    id ∈ (t.step op).2.scanRequests ↔
      id ∈ t.scanRequests ∨ ∃ e ∈ t.touched op, t.Concerns e id := by
  cases op with
  | insert e blocked devices => exact (t.withElements_asks _ _ e).requests id
  | putBack element => exact (t.withElements_asks _ _ element.id).requests id
  | unload e => exact (t.unload_asks e).requests id
  | reload e => exact (t.reload_asks e).requests id
  | remove e =>
    show id ∈ (t.remove e).2.scanRequests ↔ id ∈ t.scanRequests ∨ ∃ e' ∈ (match t.known? e with
      | none => []
      | some el => el.edges.map Edge.target ++ [e]), t.Concerns e' id
    cases h : t.known? e with
    | none =>
      have hsame : (t.remove e).2 = t := by
        unfold remove
        rw [h]
      rw [hsame]
      exact (Asks.refl t).requests id
    | some el =>
      obtain ⟨t', hasks, heq⟩ := remove_asks h
      rw [heq]
      exact hasks.requests id
  | connect a aSide b bSide => exact (t.connect_asks a aSide b bSide).requests id
  | disconnect a b => exact (t.disconnect_asks a b).requests id
  | addDevice e d => exact (t.addDevice_asks e d).requests id
  | removeDevice e device => exact (t.removeDevice_asks e device).requests id
  | markDirty e => exact (t.markDirty_asks e).requests id
  | setProvider provider => exact (t.setProvider_asks provider).requests id

/-! ## Registrations -/

theorem rootOf?_register (t : Topology) (root : ElementId) (id : ControllerId) :
    (t.register root).2.rootOf? id =
      if id = ⟨t.lastSerial + 1⟩ then some root else t.rootOf? id := by
  show ((t.controllers.insert _ _).get? id).map _ = _
  rw [Table.get?_insert]
  by_cases heq : id = ⟨t.lastSerial + 1⟩
  · rw [if_pos heq, if_pos (congrArg Key.index heq.symm)]
    rfl
  · rw [if_neg heq, if_neg fun hindex => heq (Key.index_inj hindex).symm]
    rfl

/-- Whether a controller lost its bus has no part in where it is rooted. -/
theorem map_root_modify (controllers : Table ControllerId Registration) (id id' : ControllerId)
    (invalidated : Bool) :
    ((controllers.modify id fun r => { r with invalidated }).get? id').map Registration.root =
      (controllers.get? id').map Registration.root := by
  rw [Table.get?_modify]
  split
  · rw [Option.map_map]
    rfl
  · rfl

theorem rootOf?_claim (t : Topology) (id : ControllerId) (es : List ElementId) (id' : ControllerId) :
    (t.claim id es).rootOf? id' = t.rootOf? id' := by
  have hrivals (ids : List ControllerId) (t : Topology) :
      (ids.foldl invalidate t).rootOf? id' = t.rootOf? id' := by
    induction ids generalizing t with
    | nil => rfl
    | cons first rest ih => exact (ih _).trans (map_root_modify _ _ _ _)
  refine (map_root_modify _ _ _ _).trans ?_
  rw [(foldl_claimOne_same id es _).1]
  exact hrivals _ t

theorem rootOf?_unregister (h : t.isRegistered id = true) (id' : ControllerId) :
    (t.unregister id).rootOf? id' = if id' = id then none else t.rootOf? id' := by
  unfold unregister
  rw [if_pos (show t.controllers.contains id = true from h)]
  show ((t.controllers.erase id).get? id').map _ = _
  rw [Table.get?_erase]
  by_cases heq : id' = id
  · rw [if_pos heq, if_pos (congrArg Key.index heq.symm)]
    rfl
  · rw [if_neg heq, if_neg fun hindex => heq (Key.index_inj hindex).symm]
    rfl

/-- A controller that goes asks those that lost their bus, and nobody else. -/
theorem mem_scanRequests_unregister (h : t.isRegistered id = true) (hne : id' ≠ id) :
    id' ∈ (t.unregister id).scanRequests ↔ id' ∈ t.scanRequests ∨ t.isLost id' = true := by
  unfold unregister
  rw [if_pos (show t.controllers.contains id = true from h)]
  show id' ∈ List.foldl enlist (strike t.scanRequests id) _ ↔ _
  rw [mem_foldl_enlist, mem_strike, and_iff_left hne]
  refine or_congr_right ?_
  have hindex : Key.index id ≠ Key.index id' := fun hindex => hne (Key.index_inj hindex).symm
  unfold isLost
  rw [Option.any_eq_true]
  constructor
  · intro hmem
    obtain ⟨⟨id'', r⟩, hentry, rfl⟩ := List.mem_map.1 hmem
    have hget := Table.get?_eq_some_iff.2 hentry
    rw [Table.get?_filter, Option.filter_eq_some_iff] at hget
    obtain ⟨hget, hlost⟩ := hget
    refine ⟨r, ?_, hlost⟩
    have hget : (t.controllers.erase id).get? id'' = some r := hget
    rwa [Table.get?_erase, if_neg hindex] at hget
  · rintro ⟨r, hr, hlost⟩
    refine List.mem_map.2 ⟨(id', r), Table.get?_eq_some_iff.1 ?_, rfl⟩
    rw [Table.get?_filter, Option.filter_eq_some_iff]
    refine ⟨?_, hlost⟩
    show (t.controllers.erase id).get? id' = some r
    rw [Table.get?_erase, if_neg hindex, hr]

/-! ## What operations mean for others -/

/-- What an operation means for a controller that it does not belong to: it comes to own nothing more,
and stays registered as it is.  If it owns nothing, it loses nothing, and only an alert asks it to
scan. -/
structure Rouses (id : ControllerId) (alert : Prop) (t t' : Topology) : Prop where
  lastSerial : t.lastSerial ≤ t'.lastSerial
  owner : ∀ e, t'.owner? e = some id → t.owner? e = some id
  root : t'.rootOf? id = t.rootOf? id
  notices : (∀ e, t.owner? e ≠ some id) → (id ∈ t'.invalidations ↔ id ∈ t.invalidations)
  requests : (∀ e, t.owner? e ≠ some id) → (id ∈ t'.scanRequests ↔ id ∈ t.scanRequests ∨ alert)

/-- It is no concern of a controller. -/
abbrev Ignores (id : ControllerId) (t t' : Topology) : Prop := Rouses id False t t'

theorem Ignores.of_same (hlastSerial : t.lastSerial ≤ t'.lastSerial)
    (howner : ∀ e, t'.owner? e = some id → t.owner? e = some id)
    (hroot : t'.rootOf? id = t.rootOf? id) (hnotices : id ∈ t'.invalidations ↔ id ∈ t.invalidations)
    (hrequests : id ∈ t'.scanRequests ↔ id ∈ t.scanRequests) : t.Ignores id t' :=
  ⟨hlastSerial, howner, hroot, fun _ => hnotices, fun _ => by rw [hrequests, or_false]⟩

theorem Ignores.refl (t : Topology) (id : ControllerId) : t.Ignores id t :=
  .of_same (Nat.le_refl _) (fun _ h => h) rfl .rfl .rfl

theorem Ignores.trans (h : t.Ignores id t') (h' : t'.Ignores id t'') : t.Ignores id t'' := by
  refine ⟨Nat.le_trans h.lastSerial h'.lastSerial, fun e => h.owner e ∘ h'.owner e,
    h'.root.trans h.root, ?_, ?_⟩
  · intro hnone
    exact (h'.notices fun e => hnone e ∘ h.owner e).trans (h.notices hnone)
  · intro hnone
    rw [h'.requests fun e => hnone e ∘ h.owner e, h.requests hnone, or_false]

theorem releaseClaims_ignores (t : Topology) (id id' : ControllerId) :
    t.Ignores id' (t.releaseClaims id) :=
  .of_same (Nat.le_refl _) (fun _ h => (owner?_releaseClaims.1 h).1) rfl .rfl .rfl

theorem takeInvalidation_ignores (t : Topology) (hne : id' ≠ id) :
    t.Ignores id' (t.takeInvalidation id).2 :=
  .of_same (Nat.le_refl _) (fun _ h => h) rfl (mem_strike.trans (and_iff_left hne)) .rfl

theorem takeScanRequest_ignores (t : Topology) (hne : id' ≠ id) :
    t.Ignores id' (t.takeScanRequest id).2 :=
  .of_same (Nat.le_refl _) (fun _ h => h) rfl .rfl (mem_strike.trans (and_iff_left hne))

theorem register_ignores (t : Topology) (root : ElementId) (hne : id ≠ (t.register root).1) :
    t.Ignores id (t.register root).2 :=
  .of_same (Nat.le_succ _) (fun _ h => h) ((rootOf?_register t root id).trans (if_neg hne)) .rfl .rfl

theorem claim_ignores (t : Topology) (hne : id' ≠ id) (es : List ElementId) :
    t.Ignores id' (t.claim id es) := by
  have hclaims := t.claim_claims id es
  -- who owns nothing is no rival
  have hrival (hnone : ∀ e, t.owner? e ≠ some id') : id' ∉ t.rivals id es := by
    intro hmem
    obtain ⟨-, -, e, -, howner⟩ := mem_rivals.1 hmem
    exact hnone e howner
  refine ⟨Nat.le_of_eq hclaims.lastSerial.symm, ?_, t.rootOf?_claim id es id', ?_, ?_⟩
  · intro e howner
    rw [hclaims.owner] at howner
    split at howner
    · exact absurd howner.symm hne
    · exact howner.1
  · intro hnone
    rw [hclaims.invalidations]
    exact or_iff_left (hrival hnone)
  · intro hnone
    rw [hclaims.requests, or_false]
    exact and_iff_left (hrival hnone)

/-- Those that lost their bus are asked to scan when a controller goes. -/
theorem unregister_rouses (h : t.isRegistered id = true) (hne : id' ≠ id) :
    t.Rouses id' (t.isLost id' = true) (t.unregister id) := by
  have hleaves := unregister_leaves h
  refine ⟨Nat.le_of_eq hleaves.lastSerial.symm, fun e howner => ((hleaves.owner e id').1 howner).1, ?_,
    fun _ => (hleaves.invalidations id').trans (and_iff_left hne),
    fun _ => mem_scanRequests_unregister h hne⟩
  rw [rootOf?_unregister h, if_neg hne]

/-- Those rooted at a touched element are asked to scan. -/
theorem step_rouses (t : Topology) (op : TopologyOp) (id : ControllerId) :
    t.Rouses id (∃ e ∈ t.touched op, t.rootOf? id = some e) (t.step op).2 := by
  have hsame : (t.step op).2.lastSerial = t.lastSerial ∧
      (∀ e, (t.step op).2.owner? e = some id → t.owner? e = some id) ∧
      (t.step op).2.controllers = t.controllers ∧ (t.step op).2.invalidations = t.invalidations := by
    by_cases hop : ∃ e, op = .remove e
    · obtain ⟨e, rfl⟩ := hop
      rcases t.remove_drops e with heq | hdrops
      · rw [show (t.step (.remove e)).2 = t from heq]
        exact ⟨rfl, fun _ h => h, rfl, rfl⟩
      · refine ⟨hdrops.lastSerial, fun e' h => ?_, hdrops.controllers, hdrops.invalidations⟩
        have howner : (t.claims.erase e).get? e' = some id := by
          rw [← hdrops.claims]
          exact h
        rw [Table.get?_erase] at howner
        split at howner
        · cases howner
        · exact howner
    · have hcalm := t.step_calm fun e he => hop ⟨e, he⟩
      refine ⟨hcalm.lastSerial, fun e h => ?_, hcalm.controllers, hcalm.invalidations⟩
      unfold owner? at h ⊢
      rwa [hcalm.claims] at h
  obtain ⟨hserial, howner, hcontrollers, hinvalidations⟩ := hsame
  refine ⟨Nat.le_of_eq hserial.symm, howner, ?_, fun _ => by rw [hinvalidations], fun hnone => ?_⟩
  · unfold rootOf?
    rw [hcontrollers]
  · rw [mem_scanRequests_step]
    refine or_congr_right (exists_congr fun e => and_congr_right fun _ => ?_)
    exact or_iff_right (hnone e)

/-! ## Names -/

/-- A name that nothing goes by. -/
structure Unused (t : Topology) (id : ControllerId) : Prop where
  owner : ∀ e, t.owner? e ≠ some id
  root : t.rootOf? id = none
  notices : id ∉ t.invalidations
  requests : id ∉ t.scanRequests

/-- Names are given in order, and none is used before it is given. -/
def Numbered (t : Topology) : Prop := ∀ id, t.lastSerial < id.serial → t.Unused id

theorem numbered_empty : empty.Numbered :=
  fun _ _ => ⟨fun _ h => (nomatch h), rfl, List.not_mem_nil, List.not_mem_nil⟩

/-- Only registered controllers are alerted. -/
theorem Numbered.rouses (h : t.Numbered) {own : ControllerId} (hown : own.serial ≤ t'.lastSerial)
    (hlastSerial : t.lastSerial ≤ t'.lastSerial)
    (hothers : ∀ id, id ≠ own → ∃ alert, t.Rouses id alert t' ∧ (alert → t.rootOf? id ≠ none)) :
    t'.Numbered := by
  intro id hid
  have hne : id ≠ own := by
    rintro rfl
    omega
  obtain ⟨alert, hrouses, halert⟩ := hothers id hne
  have hunused := h id (Nat.lt_of_le_of_lt hlastSerial hid)
  refine ⟨fun e howner => hunused.owner e (hrouses.owner e howner), hrouses.root.trans hunused.root, ?_, ?_⟩
  · rw [hrouses.notices hunused.owner]
    exact hunused.notices
  · rw [hrouses.requests hunused.owner, not_or]
    exact ⟨hunused.requests, fun hasked => halert hasked hunused.root⟩

end Topology

end DeviceBus
