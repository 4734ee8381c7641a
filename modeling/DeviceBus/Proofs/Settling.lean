import DeviceBus.Proofs.Alerts

/-!
# Polls settle

Controllers over one topology take elements from each other, in an order that the host chooses by its
polls.  A poll never asks anybody to scan, so as long as the host only polls, the first poll of a
controller is the only one that may run a scan which is not deferred, and the only one that takes
anything from others (`Controller.poll_calm`).  The next one takes note of what was lost, and after that
a poll changes nothing (`Controller.AtRest.poll`).

    polls, each controller twice or more   :   no further poll changes the network     (polls_settle)
-/

namespace DeviceBus

/-! ## Walks -/

theorem Table.keys_nodup {κ ν : Type} [Key κ] (t : Table κ ν) : t.keys.Nodup := by
  refine List.Pairwise.map _ ?_ t.ordered
  intro a b hlt heq
  rw [heq] at hlt
  exact Nat.lt_irrefl _ hlt

theorem Table.contains_of_mem_keys {κ ν : Type} [Key κ] {t : Table κ ν} {k : κ} (h : k ∈ t.keys) :
    t.contains k = true := by
  obtain ⟨⟨k, v⟩, hmem, rfl⟩ := List.mem_map.1 h
  exact Option.isSome_iff_exists.2 ⟨v, Table.get?_eq_some_iff.2 hmem⟩

namespace Scan

variable {t t' : Topology} {limit : Nat}

/-- Where everything looks the same, every step of a walk is the same, also one that ends it. -/
theorem followEdge_looks (h : t.Looks t') (source : Element) (s : Search) (edge : Edge) :
    followEdge t' limit source s edge = followEdge t limit source s edge := by
  have hlike := h.element edge.target
  unfold followEdge
  rw [hlike.unloaded]
  cases htarget : t.get? edge.target with
  | none => rw [hlike.get?_eq_none htarget]
  | some next =>
    obtain ⟨pending, htarget'⟩ := hlike.get?_eq_some htarget
    rw [htarget']
    rfl

theorem followEdges_looks (h : t.Looks t') (source : Element) (edges : List Edge) (s : Search) :
    followEdges t' limit source edges s = followEdges t limit source edges s := by
  induction edges generalizing s with
  | nil => rfl
  | cons edge rest ih =>
    unfold followEdges
    rw [followEdge_looks h]
    split
    · rfl
    · exact ih _

theorem followAll_looks (h : t.Looks t') (id : ElementId) (s : Search) :
    followAll t' limit id s = followAll t limit id s := by
  unfold followAll
  cases he : t.get? id with
  | none => rw [(h.element id).get?_eq_none he]
  | some e =>
    obtain ⟨pending, he'⟩ := (h.element id).get?_eq_some he
    rw [he']
    exact (followEdges_setScanPending e pending e.edges s).trans (followEdges_looks h e e.edges s)

theorem explore_looks (h : t.Looks t') (steps : Nat) (s : Search) :
    explore t' limit steps s = explore t limit steps s := by
  induction steps generalizing s with
  | zero => rfl
  | succ steps ih =>
    cases hqueue : s.queue with
    | nil => rw [explore_nil hqueue, explore_nil hqueue]
    | cons id queue =>
      rw [explore_cons hqueue, explore_cons hqueue, followAll_looks h]
      split
      · rfl
      · exact ih _

theorem size_looks (h : t.Looks t') : t'.size = t.size := by
  have hle {t t' : Topology} (hcontains : ∀ e, t'.loaded.contains e = t.loaded.contains e) :
      t.size ≤ t'.size := by
    have hkeys := Table.length_le_size (t := t'.loaded) t.loaded.keys_nodup fun e he =>
      (hcontains e).trans (Table.contains_of_mem_keys he)
    rwa [Table.keys, List.length_map] at hkeys
  exact Nat.le_antisymm (hle fun e => (h.element e).contains.symm) (hle fun e => (h.element e).contains)

/-- A walk ends the same way where everything looks the same. -/
theorem walk_looks (h : t.Looks t') (root : ElementId) : walk t' root limit = walk t root limit := by
  unfold walk
  rw [(h.element root).contains, size_looks h, explore_looks h]

end Scan

/-! ## Controllers -/

namespace Topology

variable {t t' t'' : Topology}

/-- Nothing looks different, and nobody is asked to scan. -/
structure Quiet (t t' : Topology) : Prop where
  looks : t.Looks t'
  requests : ∀ id ∈ t'.scanRequests, id ∈ t.scanRequests

theorem Quiet.of_same (hloaded : t'.loaded = t.loaded) (hunloaded : t'.unloaded = t.unloaded)
    (hprovider : t'.provider = t.provider)
    (hrequests : ∀ id ∈ t'.scanRequests, id ∈ t.scanRequests) : t.Quiet t' :=
  ⟨.of_elements hloaded hunloaded hprovider, hrequests⟩

theorem Quiet.refl (t : Topology) : t.Quiet t := .of_same rfl rfl rfl fun _ h => h

theorem Quiet.trans (h : t.Quiet t') (h' : t'.Quiet t'') : t.Quiet t'' :=
  ⟨h.looks.trans h'.looks, fun id hid => h.requests id (h'.requests id hid)⟩

theorem strike_of_notMem {ids : List ControllerId} {id : ControllerId} (h : id ∉ ids) :
    strike ids id = ids := by
  refine List.filter_eq_self.2 fun id' hid' => decide_eq_true ?_
  rintro rfl
  exact h hid'

end Topology

namespace Controller

variable {c : Controller} {t t' : Topology} {s : Site}

theorem scan_quiet (c : Controller) (s : Site) : s.topology.Quiet (c.scan s).2.topology := by
  rcases c.scan_cases s with he | ⟨_, _, _, he⟩ | ⟨visits, _, _, _, -, -, he⟩
  · rw [he]
    exact .refl _
  · rw [he]
    exact .of_same rfl rfl rfl fun _ h => h
  · rw [he]
    exact ⟨s.topology.claim_looks c.id _, fun id hid =>
      (((s.topology.claim_claims c.id _).requests id).1 hid).1⟩

/-- A poll of one controller asks nobody to scan, itself neither. -/
theorem poll_quiet (c : Controller) (s : Site) : s.topology.Quiet (c.poll s).2.topology := by
  have hrevive (c : Controller) (s : Site) : s.topology.Quiet (c.revive s).2.topology := by
    unfold revive
    split
    · exact .of_same rfl rfl rfl fun _ h => h
    · exact .refl _
  have hnotice (c : Controller) (s : Site) : s.topology.Quiet (c.absorbInvalidation s).2.topology := by
    rcases c.absorbInvalidation_cases s with ⟨-, _, he⟩ | ⟨-, he⟩ <;>
    · rw [he]
      exact .of_same rfl rfl rfl fun _ h => h
  have hrequest (c : Controller) (s : Site) : s.topology.Quiet (c.absorbScanRequest s).2.topology := by
    rcases c.absorbScanRequest_cases s with ⟨-, he⟩ | ⟨-, he⟩ <;>
    · rw [he]
      exact .of_same rfl rfl rfl fun _ h => (Topology.mem_strike.1 h).1
  have hscan (c : Controller) (s : Site) : s.topology.Quiet (c.scanIfDue s).2.topology := by
    unfold scanIfDue
    split
    · exact c.scan_quiet s
    · exact .refl _
  exact (((hrevive c s).trans (hnotice _ _)).trans (hrequest _ _)).trans (hscan _ _)

/-- A controller in office that nobody asked to scan, and whose pending scan, if there is one, is
deferred. -/
structure Calm (c : Controller) (t : Topology) : Prop where
  live : c.disposed = false
  unasked : c.id ∉ t.scanRequests
  deferred : c.scanPending = true → Scan.walk t c.root c.maxElements = .error .deferred

theorem Calm.quiet (h : c.Calm t) (hquiet : t.Quiet t') : c.Calm t' := by
  refine ⟨h.live, fun hid => h.unasked (hquiet.requests c.id hid), fun hpending => ?_⟩
  rw [Scan.walk_looks hquiet.looks]
  exact h.deferred hpending

/-- A scan that is deferred. -/
theorem scan_of_deferred (h : Scan.walk s.topology c.root c.maxElements = .error .deferred) :
    c.scan s = ({ c with state := .scanning, fault := none, scanPending := true }, s) := by
  unfold scan
  dsimp only
  rw [h]

/-- A scan stays pending only if it is deferred, and then it leaves everything as it was. -/
theorem walk_of_scanPending (h : (c.scan s).1.scanPending = true) :
    Scan.walk s.topology c.root c.maxElements = .error .deferred := by
  unfold scan at h
  dsimp only at h
  split at h
  · assumption
  · cases h
  · split at h
    · cases h
    · cases h

/-- Whatever a controller was before, a poll leaves it calm. -/
theorem poll_calm (c : Controller) (s : Site) : (c.poll s).1.Calm (c.poll s).2.topology := by
  refine ⟨c.poll_disposed s, (c.poll_told s).requests, fun hpending => ?_⟩
  rw [poll_eq_absorb] at hpending ⊢
  generalize c.absorb s = p at hpending
  obtain ⟨c₁, s₁⟩ := p
  unfold scanIfDue at hpending ⊢
  dsimp only at hpending ⊢
  split at hpending
  · next hdue =>
    rw [if_pos hdue]
    have hwalk := walk_of_scanPending hpending
    rw [scan_of_deferred hwalk]
    exact hwalk
  · next hidle => exact absurd hpending hidle

/-- A calm controller that has nothing to be told, and whose deferred scan, if there is one, began. -/
structure AtRest (c : Controller) (t : Topology) : Prop extends c.Calm t where
  told : c.id ∉ t.invalidations
  scanning : c.scanPending = true → c.state = .scanning ∧ c.fault = none

/-- A poll changes nothing about a controller at rest. -/
theorem AtRest.poll (h : c.AtRest s.topology) : c.poll s = (c, s) := by
  have htold : s.told c.id = s := by
    show ({ s with topology := { s.topology with
      scanRequests := Topology.strike s.topology.scanRequests c.id
      invalidations := Topology.strike s.topology.invalidations c.id } } : Site) = s
    rw [Topology.strike_of_notMem h.unasked, Topology.strike_of_notMem h.told]
  rw [poll_of_told h.live h.told, htold]
  split
  · next hasked =>
    have hpending := hasked.resolve_right h.unasked
    obtain ⟨hstate, hfault⟩ := h.scanning hpending
    have hwalk : Scan.walk s.topology c.scheduleScan.root c.scheduleScan.maxElements = .error .deferred :=
      h.deferred hpending
    rw [scan_of_deferred hwalk]
    refine congrArg (·, s) ?_
    show { c with state := .scanning, fault := none, scanPending := true } = c
    rw [← hstate, ← hfault, ← hpending]
  · rfl

/-- A calm controller that lost its bus gives up a scan that was pending. -/
theorem Calm.absorb_of_lost (h : c.Calm s.topology) (hlost : c.id ∈ s.topology.invalidations) :
    ∃ changes, c.absorb s = ({ c with
        changes
        members := []
        devices := []
        scanPending := false
        state := .error
        fault := some .invalidated },
      { s with topology := (s.told c.id).topology.releaseClaims c.id }) := by
  obtain ⟨changes, he⟩ := Controller.absorb_of_lost h.live hlost
  rw [decide_eq_false h.unasked] at he
  exact ⟨changes, he⟩

/-- A poll of a calm controller brings it to rest, and claims nothing, so there is no notice for
others. -/
theorem Calm.poll (h : c.Calm s.topology) :
    (c.poll s).1.AtRest (c.poll s).2.topology ∧
      ∀ id ∈ (c.poll s).2.topology.invalidations, id ∈ s.topology.invalidations := by
  have hstruck : c.id ∉ Topology.strike s.topology.invalidations c.id :=
    fun hmem => (Topology.mem_strike.1 hmem).2 rfl
  have hcalm : c.Calm (s.told c.id).topology :=
    h.quiet (.of_same rfl rfl rfl fun _ hid => (Topology.mem_strike.1 hid).1)
  by_cases hlost : c.id ∈ s.topology.invalidations
  · obtain ⟨changes, he⟩ := h.absorb_of_lost hlost
    rw [poll_eq_absorb, he]
    exact ⟨⟨⟨h.live, hcalm.unasked, fun hpending => nomatch hpending⟩, hstruck,
      fun hpending => nomatch hpending⟩, fun id hid => (Topology.mem_strike.1 hid).1⟩
  · rw [poll_of_told h.live hlost]
    split
    · next hasked =>
      have hpending := hasked.resolve_right h.unasked
      have hwalk : Scan.walk (s.told c.id).topology c.scheduleScan.root c.scheduleScan.maxElements =
        .error .deferred := hcalm.deferred hpending
      rw [scan_of_deferred hwalk]
      exact ⟨⟨⟨h.live, hcalm.unasked, fun _ => hwalk⟩, hstruck, fun _ => ⟨rfl, rfl⟩⟩,
        fun id hid => (Topology.mem_strike.1 hid).1⟩
    · next hidle =>
      exact ⟨⟨hcalm, hstruck, fun hpending => absurd (.inl hpending) hidle⟩,
        fun id hid => (Topology.mem_strike.1 hid).1⟩

/-- A calm controller runs no scan but a deferred one. -/
theorem Calm.walk_of_scanAt? (h : c.Calm s.topology) {c' : Controller} {s' : Site}
    (hscan : c.scanAt? s = some (c', s')) :
    Scan.walk s'.topology c'.root c'.maxElements = .error .deferred := by
  by_cases hlost : c.id ∈ s.topology.invalidations
  · obtain ⟨changes, he⟩ := h.absorb_of_lost hlost
    rw [scanAt?, he] at hscan
    cases hscan
  · rw [scanAt?_of_told h.live hlost] at hscan
    split at hscan
    · next hasked =>
      cases hscan
      exact (Scan.walk_looks (s.told_looks c.id) _).trans (h.deferred (hasked.resolve_right h.unasked))
    · cases hscan

end Controller

/-! ## Runs of polls -/

/-- Whether an operation does nothing to the network but poll. -/
def Op.isQuiet : Op → Bool
  | .build _ => true
  | .device .. => true
  | .controller _ op => op = .poll
  | .machine _ .suspend => false
  | .machine _ .finalize => false
  | .machine _ .scheduleScan => false
  | .machine _ (.loadRecord _) => false
  | .machine .. => true
  | _ => false

namespace Network

variable {n n' : Network} {seat : Seat} {c : Controller}

/-- The controller in a seat, if there is one, is calm. -/
def Calms (n : Network) (seat : Seat) : Prop := ∀ c, n.controllers seat = some c → c.Calm n.topology

/-- The controller in a seat, if there is one, is at rest, and a poll takes no changes from it. -/
def Rests (n : Network) (seat : Seat) : Prop :=
  ∀ c, n.controllers seat = some c → c.AtRest n.topology ∧ seat.keep c = c

/-- A controller is polled in its seat. -/
def polled (n : Network) (hw : Hardware) (seat : Seat) (c : Controller) : Network :=
  n.put seat (seat.keep (c.poll ⟨n.topology, hw⟩).1) (c.poll ⟨n.topology, hw⟩).2.topology

variable {hw : Hardware}

theorem polled_calms (n : Network) (hw : Hardware) (seat : Seat) (c : Controller) :
    (n.polled hw seat c).Calms seat := by
  intro d hd
  rw [polled, put_controllers, if_pos rfl] at hd
  cases hd
  have hcalm := c.poll_calm ⟨n.topology, hw⟩
  cases seat with
  | host i => exact hcalm
  | machine i => exact ⟨hcalm.live, hcalm.unasked, hcalm.deferred⟩

theorem Calms.polled {seat' : Seat} (h : n.Calms seat') (hw : Hardware) (seat : Seat) (c : Controller) :
    (n.polled hw seat c).Calms seat' := by
  by_cases heq : seat' = seat
  · rw [heq]
    exact n.polled_calms hw seat c
  · intro d hd
    rw [Network.polled, put_controllers, if_neg heq] at hd
    exact (h d hd).quiet (c.poll_quiet ⟨n.topology, hw⟩)

theorem Calms.polled_rests (h : n.Calms seat) (hc : n.controllers seat = some c) (hw : Hardware) :
    (n.polled hw seat c).Rests seat := by
  intro d hd
  rw [Network.polled, put_controllers, if_pos rfl] at hd
  cases hd
  obtain ⟨hrest, -⟩ := Controller.Calm.poll (s := ⟨n.topology, hw⟩) (h c hc)
  cases seat with
  | host i => exact ⟨hrest, rfl⟩
  | machine i =>
    exact ⟨⟨⟨hrest.live, hrest.unasked, hrest.deferred⟩, hrest.told, hrest.scanning⟩, rfl⟩

theorem Rests.polled {seat' : Seat} (h : n.Rests seat') (hcalm : n.Calms seat)
    (hc : n.controllers seat = some c) (hw : Hardware) : (n.polled hw seat c).Rests seat' := by
  by_cases heq : seat' = seat
  · rw [heq]
    exact hcalm.polled_rests hc hw
  · intro d hd
    rw [Network.polled, put_controllers, if_neg heq] at hd
    obtain ⟨-, hnotices⟩ := Controller.Calm.poll (s := ⟨n.topology, hw⟩) (hcalm c hc)
    obtain ⟨hrest, hkeep⟩ := h d hd
    exact ⟨⟨hrest.toCalm.quiet (c.poll_quiet ⟨n.topology, hw⟩), mt (hnotices d.id) hrest.told,
      hrest.scanning⟩, hkeep⟩

/-- A poll of a controller at rest changes nothing. -/
theorem Rests.polled_eq (h : n.Rests seat) (hc : n.controllers seat = some c) (hw : Hardware) :
    n.polled hw seat c = n := by
  obtain ⟨hrest, hkeep⟩ := h c hc
  unfold Network.polled
  rw [Controller.AtRest.poll (s := ⟨n.topology, hw⟩) hrest, hkeep, put_self hc]

end Network

namespace World

variable {w : World} {op : Op} {ops : List Op} {seat : Seat}

/-- The seats in which an operation runs a scan that is not deferred, as part of a poll. -/
def scans (w : World) (op : Op) : List Seat :=
  match op.polled? with
  | none => []
  | some seat =>
    match (w.controllerAt seat).bind (·.scanAt? w.site) with
    | none => []
    | some (c, s) =>
      match Scan.walk s.topology c.root c.maxElements with
      | .error .deferred => []
      | _ => [seat]

theorem scans_spec (h : seat ∈ w.scans op) : op.polled? = some seat ∧ ¬ w.network.Calms seat := by
  unfold scans at h
  split at h
  · cases h
  · next seat' hop =>
    split at h
    · cases h
    · next c' s' hscan =>
      split at h
      · cases h
      · next hwalk =>
        cases List.mem_singleton.1 h
        obtain ⟨c, hc, hscan⟩ := Option.bind_eq_some_iff.1 hscan
        exact ⟨hop, fun hcalm => hwalk ((hcalm c hc).walk_of_scanAt? hscan)⟩

/-- A quiet operation polls a controller, or leaves the network alone. -/
theorem quiet_cases (h : op.isQuiet = true) (w : World) :
    ((w.step op).2.network = w.network ∧
      ∀ seat, op.polled? = some seat → w.network.controllers seat = none) ∨
    ∃ seat c, op.polled? = some seat ∧ w.network.controllers seat = some c ∧
      (w.step op).2.network = w.network.polled w.site.hardware seat c := by
  cases hop : op.polled? with
  | none =>
    have hactions : w.actions op = [] := by
      cases op with
      | build d => rfl
      | device handle dop => rfl
      | controller i cop =>
        cases cop with
        | poll => cases hop
        | _ => cases h
      | machine i mop =>
        cases mop with
        | tick => cases hop
        | suspend => cases h
        | finalize => cases h
        | scheduleScan => cases h
        | loadRecord r => cases h
        | _ => rfl
      | _ => cases h
    refine .inl ⟨?_, fun seat hseat => nomatch hseat⟩
    rw [network_step, hactions]
    rfl
  | some seat =>
    cases hc : w.controllerAt seat with
    | none =>
      refine .inl ⟨network_step_polled_of_none hop hc, fun seat' hseat' => ?_⟩
      cases hseat'
      exact hc
    | some c => exact .inr ⟨seat, c, rfl, hc, network_step_polled hop hc⟩

theorem step_calms (hop : op.isQuiet = true) (h : w.network.Calms seat ∨ op.polled? = some seat) :
    (w.step op).2.network.Calms seat := by
  rcases quiet_cases hop w with ⟨hsame, hempty⟩ | ⟨seat', c, hpolled, hc, hstep⟩
  · rw [hsame]
    rcases h with h | h
    · exact h
    · intro d hd
      cases (hempty seat h).symm.trans hd
  · rw [hstep]
    rcases h with h | h
    · exact h.polled _ _ _
    · cases h.symm.trans hpolled
      exact w.network.polled_calms _ _ _

theorem step_rests (hop : op.isQuiet = true) (hcalm : ∀ s, w.network.Calms s)
    (h : w.network.Rests seat ∨ op.polled? = some seat) : (w.step op).2.network.Rests seat := by
  rcases quiet_cases hop w with ⟨hsame, hempty⟩ | ⟨seat', c, hpolled, hc, hstep⟩
  · rw [hsame]
    rcases h with h | h
    · exact h
    · intro d hd
      cases (hempty seat h).symm.trans hd
  · rw [hstep]
    rcases h with h | h
    · exact h.polled (hcalm seat') hc _
    · cases h.symm.trans hpolled
      exact (hcalm seat).polled_rests hc _

/-- Quiet operations bring no controller to a seat. -/
theorem step_empty (hop : op.isQuiet = true) (h : w.network.controllers seat = none) :
    (w.step op).2.network.controllers seat = none := by
  rcases quiet_cases hop w with ⟨hsame, -⟩ | ⟨seat', c, -, hc, hstep⟩
  · rw [hsame, h]
  · rw [hstep, Network.polled, Network.put_controllers, if_neg, h]
    rintro rfl
    cases h.symm.trans hc

theorem step_of_rests (hop : op.isQuiet = true) (h : ∀ s, w.network.Rests s) :
    (w.step op).2.network = w.network := by
  rcases quiet_cases hop w with ⟨hsame, -⟩ | ⟨seat', c, -, hc, hstep⟩
  · exact hsame
  · rw [hstep, (h seat').polled_eq hc]

/-- After its first poll a controller stays calm. -/
theorem run_calms (hops : ∀ op ∈ ops, op.isQuiet = true)
    (h : w.network.Calms seat ∨ ∃ op ∈ ops, op.polled? = some seat) :
    (w.run ops).network.Calms seat := by
  induction ops generalizing w with
  | nil => exact h.resolve_right fun ⟨_, hmem, _⟩ => nomatch hmem
  | cons op ops ih =>
    refine ih (fun o ho => hops o (List.mem_cons_of_mem _ ho)) ?_
    have hstep : _ → (w.step op).2.network.Calms seat := step_calms (hops op List.mem_cons_self)
    rcases h with h | ⟨o, ho, hpolled⟩
    · exact .inl (hstep (.inl h))
    · rcases List.mem_cons.1 ho with rfl | ho
      · exact .inl (hstep (.inr hpolled))
      · exact .inr ⟨o, ho, hpolled⟩

/-- Once all are calm, a controller is at rest after its next poll. -/
theorem run_rests (hops : ∀ op ∈ ops, op.isQuiet = true) (hcalm : ∀ s, w.network.Calms s)
    (h : w.network.Rests seat ∨ ∃ op ∈ ops, op.polled? = some seat) :
    (w.run ops).network.Rests seat := by
  induction ops generalizing w with
  | nil => exact h.resolve_right fun ⟨_, hmem, _⟩ => nomatch hmem
  | cons op ops ih =>
    have hop := hops op List.mem_cons_self
    refine ih (fun o ho => hops o (List.mem_cons_of_mem _ ho)) (fun s => step_calms hop (.inl (hcalm s))) ?_
    rcases h with h | ⟨o, ho, hpolled⟩
    · exact .inl (step_rests hop hcalm (.inl h))
    · rcases List.mem_cons.1 ho with rfl | ho
      · exact .inl (step_rests hop hcalm (.inr hpolled))
      · exact .inr ⟨o, ho, hpolled⟩

theorem run_empty (hops : ∀ op ∈ ops, op.isQuiet = true) (h : w.network.controllers seat = none) :
    (w.run ops).network.controllers seat = none := by
  induction ops generalizing w with
  | nil => exact h
  | cons op ops ih =>
    exact ih (fun o ho => hops o (List.mem_cons_of_mem _ ho)) (step_empty (hops op List.mem_cons_self) h)

/-- Once all are at rest, nothing happens to the network anymore. -/
theorem run_of_rests (hops : ∀ op ∈ ops, op.isQuiet = true) (h : ∀ s, w.network.Rests s) :
    (w.run ops).network = w.network := by
  induction ops generalizing w with
  | nil => rfl
  | cons op ops ih =>
    have hstep := step_of_rests (hops op List.mem_cons_self) h
    refine (ih (fun o ho => hops o (List.mem_cons_of_mem _ ho)) ?_).trans hstep
    rw [hstep]
    exact h

/-- A calm controller runs no further scan but deferred ones. -/
theorem notMem_log_scans (hops : ∀ op ∈ ops, op.isQuiet = true) (h : w.network.Calms seat) :
    seat ∉ w.log scans ops := by
  induction ops generalizing w with
  | nil => exact List.not_mem_nil
  | cons op ops ih =>
    rw [log, List.mem_append, not_or]
    refine ⟨fun hmem => (scans_spec hmem).2 h, ?_⟩
    exact ih (fun o ho => hops o (List.mem_cons_of_mem _ ho))
      (step_calms (hops op List.mem_cons_self) (.inl h))

theorem nodup_log_scans (hops : ∀ op ∈ ops, op.isQuiet = true) : (w.log scans ops).Nodup := by
  induction ops generalizing w with
  | nil => exact List.nodup_nil
  | cons op ops ih =>
    have hrest : ∀ o ∈ ops, o.isQuiet = true := fun o ho => hops o (List.mem_cons_of_mem _ ho)
    rw [log, List.nodup_append]
    refine ⟨?_, ih hrest, ?_⟩
    · unfold scans
      split
      · exact List.nodup_nil
      · split
        · exact List.nodup_nil
        · split
          · exact List.nodup_nil
          · exact List.nodup_singleton _
    · rintro s hs s' hs' rfl
      refine notMem_log_scans hrest ?_ hs'
      exact step_calms (hops op List.mem_cons_self) (.inr (scans_spec hs).1)

/-- As long as the host only polls, every controller runs at most one scan that is not deferred; and
once each was polled, and then each again, none has anything to be told, and no further poll changes
anything of the network. -/
theorem polls_settle (w : World) {first second third : List Op}
    (hquiet : ∀ op ∈ first ++ second ++ third, op.isQuiet = true) :
    (w.log scans (first ++ second ++ third)).Nodup ∧
      ((∀ seat c, w.controllerAt seat = some c → (∃ op ∈ first, op.polled? = some seat) ∧
          ∃ op ∈ second, op.polled? = some seat) →
        (∀ seat c, (w.run (first ++ second)).controllerAt seat = some c →
          c.Told (w.run (first ++ second)).site.topology) ∧
        (w.run (first ++ second ++ third)).network = (w.run (first ++ second)).network) := by
  refine ⟨nodup_log_scans hquiet, fun hpolled => ?_⟩
  have hfirst (op : Op) (hop : op ∈ first) :=
    hquiet op (List.mem_append_left _ (List.mem_append_left _ hop))
  have hsecond (op : Op) (hop : op ∈ second) :=
    hquiet op (List.mem_append_left _ (List.mem_append_right _ hop))
  have hthird (op : Op) (hop : op ∈ third) := hquiet op (List.mem_append_right _ hop)
  -- a seat without a controller stays empty, and any other is polled in both rounds
  have hcalm (s : Seat) : (w.run first).network.Calms s := by
    refine run_calms hfirst ?_
    cases hc : w.network.controllers s with
    | none => exact .inl fun c hsome => nomatch hc.symm.trans hsome
    | some c => exact .inr (hpolled s c hc).1
  have hrest (s : Seat) : (w.run (first ++ second)).network.Rests s := by
    rw [run_append]
    refine run_rests hsecond hcalm ?_
    cases hc : w.network.controllers s with
    | none => exact .inl fun c hsome => nomatch (run_empty hfirst hc).symm.trans hsome
    | some c => exact .inr (hpolled s c hc).2
  refine ⟨fun seat c hc => ?_, ?_⟩
  · obtain ⟨hrests, -⟩ := hrest seat c hc
    exact ⟨hrests.told, hrests.unasked⟩
  · rw [run_append]
    exact run_of_rests hthird hrest

/-- Of two controllers over one element the second takes it from the first, which takes note of that at
its next poll, and both stay as they are. -/
theorem rivals_settle :
    let w := empty.run [.topology (.insert ⟨1⟩ [] []), .newController ⟨1⟩ {}, .newController ⟨1⟩ {}]
    let round : List Op := [.controller 0 .poll, .controller 1 .poll]
    w.log scans (round ++ round ++ round) = [.host 0, .host 1] ∧
      (w.log scans (round ++ round ++ round)).Nodup ∧
      ((w.run (round ++ round)).controllerAt (.host 0)).map (·.state) = some .error ∧
      ((w.run (round ++ round)).controllerAt (.host 1)).map (·.state) = some .ready ∧
      (w.run (round ++ round ++ round)).network = (w.run (round ++ round)).network := by
  intro w round
  have hpolled : ∀ seat c, w.controllerAt seat = some c → (∃ op ∈ round, op.polled? = some seat) ∧
      ∃ op ∈ round, op.polled? = some seat := by
    intro seat c hc
    rw [and_self]
    match seat, hc with
    | .host 0, _ => exact ⟨.controller 0 .poll, List.mem_cons_self, rfl⟩
    | .host 1, _ => exact ⟨.controller 1 .poll, List.mem_cons_of_mem _ (List.mem_singleton_self _), rfl⟩
    | .host (_ + 2), hc => cases hc
    | .machine _, hc => cases hc
  have hquiet : ∀ op ∈ round ++ round ++ round, op.isQuiet = true := by decide
  have hsettle := polls_settle w hquiet
  exact ⟨by decide, hsettle.1, by decide, by decide, (hsettle.2 hpolled).2⟩

end World

end DeviceBus
