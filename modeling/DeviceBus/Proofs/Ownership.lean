import DeviceBus.Proofs.Network
import DeviceBus.Proofs.Tenure
import Mathlib.Data.List.Induction

/-!
# Ownership

Over any number of controllers, those of machines among them, the claims follow the scans: what is
claimed is known and owned by a controller in office, a controller owns only members of its bus, and a
ready one that has no notice to take owns all of them (`World.OwnershipLaw`).

A controller can be told to scan after it was disposed, and such a scan claims under a name that is not
registered anymore.  Nothing takes those claims back but another scan.  The law holds at every point of
a run exactly if no such scan completes in it (`World.Orderly`).
-/

namespace DeviceBus

/-! ## Networks -/

/-- The claims follow the scans, and every registered controller has a seat. -/
structure Network.Settled (n : Network) : Prop where
  sound : n.topology.Sound
  distinct : ∀ seat seat' c c', n.controllers seat = some c → n.controllers seat' = some c' →
    c.id = c'.id → seat = seat'
  seated : ∀ id, n.topology.isRegistered id = true → ∃ seat c, n.controllers seat = some c ∧ c.id = id
  controllers : ∀ seat c, n.controllers seat = some c → c.Settled n.topology

namespace Network

/-- Whether an action cannot make a disposed controller claim, and leaves the members alone. -/
def Action.isTame : Action → Bool
  | .control _ .scan => false
  | .restore .. => false
  | _ => true

variable {n : Network}

theorem act_takeChanges_topology (n : Network) (hw : Hardware) (seat : Seat) :
    (n.act hw (.control seat .takeChanges)).topology = n.topology := by
  unfold act
  dsimp only
  split <;> rfl

theorem Settled.replace (h : n.Settled) {t : Topology} (hsound : t.Sound)
    (hregistered : ∀ id, t.isRegistered id = n.topology.isRegistered id)
    (hcontrollers : ∀ c : Controller, c.Settled n.topology → c.Settled t) :
    Settled { n with topology := t } := by
  refine ⟨hsound, h.distinct, ?_, fun seat c hc => hcontrollers c (h.controllers seat c hc)⟩
  intro id hid
  exact h.seated id (hregistered id ▸ hid)

theorem Settled.topology_step (h : n.Settled) (op : TopologyOp) :
    Settled { n with topology := (n.topology.step op).2 } := by
  have hcalm {t : Topology} (ht : n.topology.Calm t) : Settled { n with topology := t } :=
    h.replace (h.sound.calm ht) ht.isRegistered_eq fun c hc =>
      hc.treats (.inl (ht.keeps c.id)) (Nat.le_of_eq ht.lastSerial.symm)
  by_cases hop : ∃ e, op = .remove e
  · obtain ⟨e, rfl⟩ := hop
    show Settled { n with topology := (n.topology.remove e).2 }
    rcases n.topology.remove_drops e with heq | hdrops
    · rw [heq]
      exact h
    · exact h.replace (h.sound.drops hdrops) hdrops.isRegistered_eq fun c hc => hc.drops hdrops
  · exact hcalm (n.topology.step_calm fun e he => hop ⟨e, he⟩)

/-- A controller takes a seat under a name that is new or was its own before. -/
theorem Settled.put (h : n.Settled) {seat : Seat} {c : Controller} {t : Topology}
    (hc : c.Enters n.topology t)
    (hname : n.topology.lastSerial < c.id.serial ∨ ∃ c₀, n.controllers seat = some c₀ ∧ c.id = c₀.id)
    (hleft : ∀ c₀, n.controllers seat = some c₀ → c.id = c₀.id ∨ c₀.disposed = true) :
    (n.put seat c t).Settled := by
  have happart := Distinct.apart h.distinct (fun s d hd => (h.controllers s d hd).serial) hname
  refine ⟨hc.sound, Distinct.put h.distinct happart t, ?_, ?_⟩
  · intro id hid
    by_cases hne : id = c.id
    · exact ⟨seat, c, if_pos rfl, hne.symm⟩
    · have hbefore : n.topology.isRegistered id = true := by
        rcases hc.others id hne with hkeeps | hrobs
        · exact hkeeps.registered ▸ hid
        · exact hrobs.registered ▸ hid
      obtain ⟨s, d, hd, rfl⟩ := h.seated id hbefore
      by_cases hs : s = seat
      · subst hs
        rcases hleft d hd with hsame | hdisposed
        · exact absurd hsame.symm hne
        -- a controller takes a new name only after it was disposed, so the old one is not registered
        · have hregistered := (h.controllers s d hd).registered
          rw [hbefore, hdisposed] at hregistered
          exact nomatch hregistered
      · exact ⟨s, d, (if_neg hs).trans hd, rfl⟩
  · intro s d hd
    rw [put_controllers] at hd
    split at hd
    · cases hd
      exact hc.settled
    · next hs => exact (h.controllers s d hd).treats (hc.others d.id (happart s d hd hs)) hc.lastSerial

theorem Settled.act_scan (h : n.Settled) {hw : Hardware} {seat : Seat}
    (hlive : ∀ c, n.controllers seat = some c → c.disposed = true →
      (c.scan ⟨n.topology, hw⟩).1.state ≠ .ready) : (n.act hw (.control seat .scan)).Settled := by
  cases hc : n.controllers seat with
  | none => simpa only [act, hc] using h
  | some c =>
    rw [act_control hc]
    obtain ⟨hturn, hsettled⟩ := Controller.scan_settled (s := ⟨n.topology, hw⟩) h.sound
      (h.controllers seat c hc).toFits (hlive c hc)
    refine h.put (hturn.enters hsettled) (.inr ⟨c, hc, hturn.id⟩) ?_
    intro c₀ hc₀
    cases hc.symm.trans hc₀
    exact .inl hturn.id

theorem Settled.act (h : n.Settled) (hw : Hardware) {a : Action} (ha : a.isTame = true) :
    (n.act hw a).Settled := by
  cases a with
  | topology op => exact h.topology_step op
  | restore seat members => cases ha
  | join seat root config =>
    cases hseat : n.controllers seat with
    | some c => simpa only [Network.act, hseat] using h
    | none =>
      rw [act_join hseat]
      refine h.put (Controller.new_enters h.sound root config) (.inl (Nat.lt_succ_self _)) ?_
      intro c₀ hc₀
      cases hseat.symm.trans hc₀
  | control seat op =>
    cases hc : n.controllers seat with
    | none => simpa only [Network.act, hc] using h
    | some c =>
      have hsettled := h.controllers seat c hc
      have hsame {d : Controller} {t : Topology} (hid : d.id = c.id)
          (henters : d.Enters n.topology t) : (n.put seat d t).Settled := by
        refine h.put henters (.inr ⟨c, hc, hid⟩) ?_
        intro c₀ hc₀
        cases hc.symm.trans hc₀
        exact .inl hid
      have hidle {d : Controller} (hid : d.id = c.id) (hd : d.Settled n.topology) :
          (n.put seat d n.topology).Settled :=
        hsame hid ((Controller.Turn.refl h.sound hid).enters hd)
      rw [act_control hc]
      cases op with
      | scan => cases ha
      | scheduleScan =>
        refine hidle (d := c.scheduleScan) rfl ⟨⟨?_, ?_, ?_, ?_⟩, hsettled.exact⟩
        · exact hsettled.registered
        · exact hsettled.serial
        · exact hsettled.idle
        · exact hsettled.within
      | takeChanges =>
        refine hidle (d := c.takeChanges.2) rfl ⟨⟨?_, ?_, ?_, ?_⟩, hsettled.exact⟩
        · exact hsettled.registered
        · exact hsettled.serial
        · exact hsettled.idle
        · exact hsettled.within
      | dispose => exact hsame (c.dispose_id n.topology) (Controller.dispose_enters h.sound hsettled)
      | poll =>
        have hid := Controller.poll_id (s := ⟨n.topology, hw⟩) h.sound hsettled
        refine h.put (Controller.poll_enters (s := ⟨n.topology, hw⟩) h.sound hsettled) ?_ ?_
        · rcases hid with hid | ⟨-, hfresh⟩
          · exact .inr ⟨c, hc, hid⟩
          · exact .inl hfresh
        · intro c₀ hc₀
          cases hc.symm.trans hc₀
          exact hid.imp_right And.left

end Network

/-! ## Notices -/

/-- Nothing that a controller owns was given to another, and there is no new notice that it lost its
bus. -/
structure Topology.Spares (id : ControllerId) (t t' : Topology) : Prop where
  owner : ∀ e, t'.owner? e = some id → t.owner? e = some id
  notice : id ∈ t'.invalidations → id ∈ t.invalidations
  kept : ∀ e id', t.owner? e = some id → t'.owner? e = some id' → id' = id

namespace Topology

variable {t t' : Topology} {id : ControllerId}

theorem spares_of_owner (howner : ∀ e id', t'.owner? e = some id' → t.owner? e = some id')
    (hnotice : t'.invalidations = t.invalidations) : t.Spares id t' := by
  refine ⟨fun e => howner e id, ?_, ?_⟩
  · rw [hnotice]
    intro h
    exact h
  · intro e id' hid hid'
    exact Option.some.inj ((howner e id' hid').symm.trans hid)

theorem Spares.refl (t : Topology) (id : ControllerId) : t.Spares id t :=
  spares_of_owner (fun _ _ h => h) rfl

theorem step_spares (t : Topology) (op : TopologyOp) (id : ControllerId) :
    t.Spares id (t.step op).2 := by
  by_cases hop : ∃ e, op = .remove e
  · obtain ⟨e, rfl⟩ := hop
    show t.Spares id (t.remove e).2
    rcases t.remove_drops e with heq | hdrops
    · rw [heq]
      exact .refl t id
    · exact spares_of_owner (fun e' id' h => (hdrops.owner?_eq_some h).2) hdrops.invalidations
  · have hcalm := t.step_calm fun e he => hop ⟨e, he⟩
    exact spares_of_owner (fun e id' h => hcalm.owner?_eq e ▸ h) hcalm.invalidations

/-- Another controller either spares all that a controller owns or takes all of it. -/
theorem Treats.spares (h : t.Treats id t') {e : ElementId} (howner : t'.owner? e = some id) :
    t.Spares id t' := by
  rcases h with hkeeps | hrobs
  · refine ⟨fun e => (hkeeps.owner e).1, hkeeps.invalidations.1, ?_⟩
    intro e id' hid hid'
    exact Option.some.inj (hid'.symm.trans ((hkeeps.owner e).2 hid))
  · exact absurd howner (hrobs.owner e)

end Topology

namespace Controller

variable {c : Controller} {s : Site}

/-- A poll takes the notice that the bus was lost. -/
theorem poll_invalidations (ht : s.topology.Sound) (h : c.Settled s.topology) :
    (c.poll s).1.id ∉ (c.poll s).2.topology.invalidations := by
  have hrevive := revive_enters ht h
  rw [poll_eq]
  generalize c.revive s = p at hrevive
  obtain ⟨c₁, s₁⟩ := p
  dsimp only at hrevive ⊢
  have hnotice := absorbInvalidation_settled hrevive.sound hrevive.settled
  unfold pollRegistered
  generalize c₁.absorbInvalidation s₁ = p at hnotice
  obtain ⟨c₂, s₂⟩ := p
  obtain ⟨hturn, -, htaken⟩ := hnotice
  have htaken : c₂.id ∉ s₂.topology.invalidations := hturn.id ▸ htaken
  have hrequest : (c₂.absorbScanRequest s₂).1.id ∉ (c₂.absorbScanRequest s₂).2.topology.invalidations := by
    rcases c₂.absorbScanRequest_cases s₂ with ⟨-, he⟩ | ⟨-, he⟩
    · rw [he]
      exact htaken
    · rw [he]
      exact htaken
  dsimp only
  generalize c₂.absorbScanRequest s₂ = p at hrequest
  obtain ⟨c₃, s₃⟩ := p
  dsimp only at hrequest ⊢
  unfold scanIfDue
  split
  · rw [scan_id, scan_invalidations]
    exact hrequest
  · exact hrequest

theorem dispose_invalidations (h : c.Settled s.topology) (hlive : c.disposed = false) :
    c.id ∉ (c.dispose s.topology).2.invalidations := by
  have hregistered : s.topology.isRegistered c.id = true := by
    rw [h.registered, hlive]
    rfl
  unfold dispose
  rw [hlive]
  intro hmem
  exact ((Topology.unregister_leaves hregistered).invalidations c.id).1 hmem |>.2 rfl

/-- A controller that still owns something after it took a notice is another one. -/
theorem poll_spares (ht : s.topology.Sound) (h : c.Settled s.topology) {id : ControllerId}
    (hnotice : id ∈ (c.poll s).2.topology.invalidations) {e : ElementId}
    (howner : (c.poll s).2.topology.owner? e = some id) :
    s.topology.Spares id (c.poll s).2.topology := by
  refine ((poll_enters ht h).others id ?_).spares howner
  rintro rfl
  exact poll_invalidations ht h hnotice

theorem dispose_spares (ht : s.topology.Sound) (h : c.Settled s.topology) {id : ControllerId}
    (hnotice : id ∈ (c.dispose s.topology).2.invalidations) {e : ElementId}
    (howner : (c.dispose s.topology).2.owner? e = some id) :
    s.topology.Spares id (c.dispose s.topology).2 := by
  by_cases hdisposed : c.disposed = true
  · have hsame : c.dispose s.topology = (c, s.topology) := if_pos hdisposed
    rw [hsame]
    exact .refl _ _
  · refine ((dispose_enters ht h).others id ?_).spares howner
    rintro rfl
    rw [dispose_id] at hnotice
    exact dispose_invalidations h (eq_false_of_ne_true hdisposed) hnotice

/-- A scan gives its controller something only if it completes. -/
theorem scan_spares (ht : s.topology.Sound) {id : ControllerId}
    (hscan : c.id = id → (c.scan s).1.state ≠ .ready) {e : ElementId}
    (howner : (c.scan s).2.topology.owner? e = some id) :
    s.topology.Spares id (c.scan s).2.topology := by
  rcases c.scan_cases s with he | ⟨_, _, _, he⟩ | ⟨visits, _, _, _, -, -, he⟩
  · rw [he]
    exact .refl _ _
  · rw [he] at howner ⊢
    have hne := (Topology.owner?_releaseClaims.1 howner).2
    exact Topology.Treats.spares (.inl (Topology.releaseClaims_keeps hne)) howner
  · rw [he] at howner hscan ⊢
    exact (Topology.claim_treats (fun e => ht.registered e id) (fun heq => hscan heq.symm rfl) _).spares
      howner

end Controller

namespace Network

variable {n : Network} {id : ControllerId}

/-- A controller with a notice that it lost its bus comes to own something only if it scans before it
takes the notice. -/
theorem act_spares (h : n.Settled) {hw : Hardware} {a : Action} (ha : ∀ seat es, a ≠ .restore seat es)
    (hscan : ∀ seat c, a = .control seat .scan → (n.act hw a).controllers seat = some c → c.id = id →
      c.state ≠ .ready)
    (hnotice : id ∈ (n.act hw a).topology.invalidations) {e : ElementId}
    (howner : (n.act hw a).topology.owner? e = some id) : n.topology.Spares id (n.act hw a).topology := by
  cases a with
  | topology op => exact n.topology.step_spares op id
  | restore seat members => exact absurd rfl (ha seat members)
  | join seat root config =>
    cases hseat : n.controllers seat with
    | some c =>
      simp only [act, hseat]
      exact .refl _ _
    | none =>
      rw [act_join hseat]
      exact Topology.spares_of_owner (fun _ _ h => h) rfl
  | control seat op =>
    cases hc : n.controllers seat with
    | none =>
      simp only [act, hc]
      exact .refl _ _
    | some c =>
      have hsettled := h.controllers seat c hc
      rw [act_control hc] at hnotice howner hscan ⊢
      rw [put_topology] at hnotice howner ⊢
      cases op with
      | scheduleScan => exact .refl _ _
      | takeChanges => exact .refl _ _
      | poll => exact Controller.poll_spares h.sound hsettled hnotice howner
      | dispose =>
        exact Controller.dispose_spares (s := ⟨n.topology, hw⟩) h.sound hsettled hnotice howner
      | scan =>
        refine Controller.scan_spares h.sound ?_ howner
        intro hid
        refine hscan seat _ rfl (if_pos rfl) ?_
        exact (c.scan_id _).trans hid

end Network

/-! ## Runs -/

/-- Whether the members of a record stand in for those of a controller. -/
def Op.loadsRecord : Op → Bool
  | .machine _ (.loadRecord _) => true
  | _ => false

namespace World

open Network (Action)

variable {w : World} {op : Op} {ops : List Op} {id : ControllerId}

/-- What an operation other than a scan by the host does to the network is tame. -/
theorem isTame_of_mem_actions (hop : op.loadsRecord = false) (hscan : ∀ i, op ≠ .controller i .scan)
    {a : Action} (ha : a ∈ w.actions op) : a.isTame = true := by
  cases op with
  | machine i mop =>
    cases mop with
    | loadRecord r => cases hop
    | tick =>
      rcases List.mem_cons.1 ha with rfl | ha
      · rfl
      · cases List.mem_singleton.1 ha
        rfl
    | suspend =>
      cases List.mem_singleton.1 ha
      rfl
    | finalize =>
      cases List.mem_singleton.1 ha
      rfl
    | scheduleScan =>
      cases List.mem_singleton.1 ha
      rfl
    | _ => cases ha
  | controller i cop =>
    cases List.mem_singleton.1 ha
    cases cop with
    | scan => exact absurd rfl (hscan i)
    | _ => rfl
  | topology top =>
    cases List.mem_singleton.1 ha
    rfl
  | newController root config =>
    cases List.mem_singleton.1 ha
    rfl
  | newMachine root emulator config sink energy =>
    cases List.mem_singleton.1 ha
    rfl
  | build d => cases ha
  | device h dop => cases ha

/-- An operation changes the topology by one action at most. -/
theorem step_topology_cases (w : World) (op : Op) :
    (w.step op).2.network.topology = w.network.topology ∨
      ∃ a ∈ w.actions op,
        (w.step op).2.network.topology = (w.network.act w.site.hardware a).topology := by
  rw [network_step]
  cases op with
  | machine i mop =>
    cases mop with
    | tick =>
      refine .inr ⟨.control (.machine i) .poll, List.mem_cons_self, ?_⟩
      exact Network.act_takeChanges_topology _ _ _
    | suspend => exact .inr ⟨_, List.mem_singleton_self _, rfl⟩
    | finalize => exact .inr ⟨_, List.mem_singleton_self _, rfl⟩
    | scheduleScan => exact .inr ⟨_, List.mem_singleton_self _, rfl⟩
    | loadRecord r => exact .inr ⟨_, List.mem_singleton_self _, rfl⟩
    | _ => exact .inl rfl
  | build d => exact .inl rfl
  | device h dop => exact .inl rfl
  | _ => exact .inr ⟨_, List.mem_singleton_self _, rfl⟩

/-- The controller was disposed, and a scan would complete now. -/
def ScansDisposed (w : World) (i : Nat) : Prop :=
  ∃ c, w.controllers[i]? = some c ∧ c.disposed = true ∧ (c.scan w.site).1.state = .ready

theorem step_settled (h : w.network.Settled) (hop : op.loadsRecord = false)
    (hscan : ∀ i, op = .controller i .scan → ¬ w.ScansDisposed i) : (w.step op).2.network.Settled := by
  by_cases hex : ∃ i, op = .controller i .scan
  · obtain ⟨i, rfl⟩ := hex
    rw [network_step]
    refine h.act_scan fun c hc hdisposed hready => hscan i rfl ⟨c, hc, hdisposed, hready⟩
  · exact w.step_induction
      (fun n a ha hn => hn.act _ (isTame_of_mem_actions hop (fun i hi => hex ⟨i, hi⟩) ha)) h

/-- The host has a controller of that name scan, and the scan completes. -/
def Completes (w : World) (op : Op) (id : ControllerId) : Prop :=
  ∃ i c, op = .controller i .scan ∧ (w.step op).2.controllers[i]? = some c ∧ c.id = id ∧
    c.state = .ready

/-- Another controller gets an element of this one. -/
def Takes (w : World) (op : Op) (id : ControllerId) : Prop :=
  ∃ e id', w.site.topology.owner? e = some id ∧ (w.step op).2.site.topology.owner? e = some id' ∧
    id' ≠ id

/-- The controller completed a scan in the run, and lost nothing to another since. -/
inductive ScannedSince (id : ControllerId) : List Op → Prop
  | completed {ops : List Op} {op : Op} :
    (empty.run ops).Completes op id → ScannedSince id (ops ++ [op])
  | later {ops : List Op} {op : Op} :
    ScannedSince id ops → ¬ (empty.run ops).Takes op id → ScannedSince id (ops ++ [op])

theorem step_spares (h : w.network.Settled) (hop : op.loadsRecord = false)
    (hscan : ¬ w.Completes op id) (hnotice : id ∈ (w.step op).2.site.topology.invalidations)
    {e : ElementId} (howner : (w.step op).2.site.topology.owner? e = some id) :
    w.site.topology.Spares id (w.step op).2.site.topology := by
  change id ∈ (w.step op).2.network.topology.invalidations at hnotice
  change (w.step op).2.network.topology.owner? e = some id at howner
  show w.network.topology.Spares id (w.step op).2.network.topology
  rcases w.step_topology_cases op with heq | ⟨a, ha, heq⟩
  · rw [heq]
    exact .refl _ _
  · rw [heq] at hnotice howner ⊢
    refine Network.act_spares h ?_ ?_ hnotice howner
    · rintro seat es rfl
      by_cases hex : ∃ i, op = .controller i .scan
      · obtain ⟨i, rfl⟩ := hex
        cases List.mem_singleton.1 ha
      · exact nomatch isTame_of_mem_actions hop (fun i hi => hex ⟨i, hi⟩) ha
    · rintro seat c rfl hc hid hready
      by_cases hex : ∃ i, op = .controller i .scan
      · obtain ⟨i, rfl⟩ := hex
        cases List.mem_singleton.1 ha
        refine hscan ⟨i, c, rfl, ?_, hid, hready⟩
        show (w.step (.controller i .scan)).2.network.controllers (.host i) = some c
        rw [network_step]
        exact hc
      · exact nomatch isTame_of_mem_actions hop (fun i hi => hex ⟨i, hi⟩) ha

/-- No scan of a disposed controller completes in the run. -/
def Orderly (ops : List Op) : Prop :=
  ∀ pre i, pre ++ [.controller i .scan] <+: ops → ¬ (empty.run pre).ScansDisposed i

theorem Orderly.of_append {ops' : List Op} (h : Orderly (ops ++ ops')) : Orderly ops :=
  fun pre i hpre => h pre i (hpre.trans (List.prefix_append ops ops'))

theorem run_settled (hops : ∀ op ∈ ops, op.loadsRecord = false) (h : Orderly ops) :
    (empty.run ops).network.Settled := by
  induction ops using List.reverseRecOn with
  | nil =>
    refine ⟨Topology.sound_empty, ?_, ?_, ?_⟩
    · intro seat seat' c c' hc
      cases seat <;> cases hc
    · intro id hid
      cases hid
    · intro seat c hc
      cases seat <;> cases hc
  | append_singleton ops op ih =>
    rw [run_snoc]
    refine step_settled (ih (fun op hop => hops op (List.mem_append_left _ hop)) h.of_append)
      (hops op (List.mem_append_right _ (List.mem_singleton_self op))) ?_
    rintro i rfl
    exact h ops i (List.prefix_refl _)

/-- A controller that owns something, and was not told yet that it lost its bus, scanned since. -/
theorem scannedSince_of_owner (hops : ∀ op ∈ ops, op.loadsRecord = false) (h : Orderly ops)
    (hnotice : id ∈ (empty.run ops).site.topology.invalidations) {e : ElementId}
    (howner : (empty.run ops).site.topology.owner? e = some id) : ScannedSince id ops := by
  induction ops using List.reverseRecOn with
  | nil => cases howner
  | append_singleton ops op ih =>
    have hbefore : ∀ op ∈ ops, op.loadsRecord = false :=
      fun op hop => hops op (List.mem_append_left _ hop)
    by_cases hcompletes : (empty.run ops).Completes op id
    · exact .completed hcompletes
    · rw [run_snoc] at hnotice howner
      have hspares := step_spares (run_settled hbefore h.of_append)
        (hops op (List.mem_append_right _ (List.mem_singleton_self op))) hcompletes hnotice howner
      refine .later (ih hbefore h.of_append (hspares.notice hnotice) (hspares.owner e howner)) ?_
      rintro ⟨e', id', hid, hid', hne⟩
      exact hne (hspares.kept e' id' hid hid')

/-- What the claims are at the end of a run. -/
structure OwnershipLaw (ops : List Op) : Prop where
  /-- A claimed element is known, and its owner is registered and not disposed. -/
  owners : ∀ e id, (empty.run ops).site.topology.owner? e = some id →
    ((empty.run ops).site.topology.known? e).isSome = true ∧
      (empty.run ops).site.topology.isRegistered id = true ∧
      ∃ seat c, (empty.run ops).controllerAt seat = some c ∧ c.id = id ∧ c.disposed = false
  /-- A controller without a notice that it lost its bus owns members only. -/
  within : ∀ seat c, (empty.run ops).controllerAt seat = some c →
    c.id ∉ (empty.run ops).site.topology.invalidations →
    ∀ e, (empty.run ops).site.topology.owner? e = some c.id → e ∈ c.members
  /-- A ready one that was not asked to scan either owns every member. -/
  exact : ∀ seat c, (empty.run ops).controllerAt seat = some c → c.state = .ready →
    c.id ∉ (empty.run ops).site.topology.invalidations →
    c.id ∉ (empty.run ops).site.topology.scanRequests →
    ∀ e ∈ c.members, (empty.run ops).site.topology.owner? e = some c.id
  /-- A controller with a notice that did not complete a scan since owns nothing. -/
  evicted : ∀ id ∈ (empty.run ops).site.topology.invalidations, ¬ ScannedSince id ops →
    ∀ e, (empty.run ops).site.topology.owner? e ≠ some id
  /-- Ready controllers that have nothing to be told share no member. -/
  disjoint : ∀ seat seat' c c', seat ≠ seat' →
    (empty.run ops).controllerAt seat = some c → (empty.run ops).controllerAt seat' = some c' →
    c.state = .ready → c'.state = .ready →
    c.id ∉ (empty.run ops).site.topology.invalidations →
    c'.id ∉ (empty.run ops).site.topology.invalidations →
    c.id ∉ (empty.run ops).site.topology.scanRequests →
    c'.id ∉ (empty.run ops).site.topology.scanRequests → c.members.Disjoint c'.members

theorem Orderly.ownershipLaw (h : Orderly ops) (hops : ∀ op ∈ ops, op.loadsRecord = false) :
    OwnershipLaw ops := by
  have hsettled := run_settled hops h
  refine ⟨?_, ?_, ?_, ?_, ?_⟩
  · intro e id howner
    have hregistered := hsettled.sound.registered e id howner
    have hknown := hsettled.sound.knows e id howner
    rw [← Topology.known?_isSome] at hknown
    refine ⟨hknown, hregistered, ?_⟩
    obtain ⟨seat, c, hc, rfl⟩ := hsettled.seated id hregistered
    refine ⟨seat, c, hc, rfl, ?_⟩
    simpa [hregistered] using (hsettled.controllers seat c hc).registered
  · intro seat c hc
    exact (hsettled.controllers seat c hc).within
  · intro seat c hc
    exact (hsettled.controllers seat c hc).exact
  · intro id hid hscan e howner
    exact hscan (scannedSince_of_owner hops h hid howner)
  · intro seat seat' c c' hne hc hc' hready hready' hnotice hnotice' hrequest hrequest' e hmem hmem'
    have howner := (hsettled.controllers seat c hc).exact hready hnotice hrequest e hmem
    have howner' := (hsettled.controllers seat' c' hc').exact hready' hnotice' hrequest' e hmem'
    exact hne (hsettled.distinct seat seat' c c' hc hc' (Option.some.inj (howner.symm.trans howner')))

/-- A disposed controller that completes a scan owns what it visits, under a name that is not
registered. -/
theorem ScansDisposed.owner (h : w.network.Settled) {i : Nat} (hscan : w.ScansDisposed i) :
    ∃ e id, (w.step (.controller i .scan)).2.site.topology.owner? e = some id ∧
      (w.step (.controller i .scan)).2.site.topology.isRegistered id = false := by
  obtain ⟨c, hc, hdisposed, hready⟩ := hscan
  have htopology : (w.step (.controller i .scan)).2.site.topology = (c.scan w.site).2.topology := by
    show (w.stepController i .scan).2.site.topology = _
    unfold stepController
    rw [hc]
    rfl
  have hregistered := (h.controllers (.host i) c hc).registered
  rw [hdisposed] at hregistered
  rw [htopology]
  rcases c.scan_cases w.site with he | ⟨_, _, _, he⟩ | ⟨visits, _, _, _, hwalk, -, he⟩
  · rw [he] at hready
    exact nomatch hready
  · rw [he] at hready
    exact nomatch hready
  · have hclaims := w.site.topology.claim_claims c.id (visits.map Query.element)
    obtain ⟨⟨rest, rfl⟩, -⟩ := Scan.walk_finds hwalk
    rw [he]
    refine ⟨c.root, c.id, ?_, ?_⟩
    · rw [hclaims.owner, if_pos (List.mem_map.2 ⟨_, List.mem_cons_self, rfl⟩)]
    · rw [hclaims.registered]
      exact hregistered

/-- In a run without records taken over, the claims follow the scans at every point exactly if no scan
of a disposed controller completes. -/
theorem ownershipLaw_iff_orderly (hops : ∀ op ∈ ops, op.loadsRecord = false) :
    (∀ pre, pre <+: ops → OwnershipLaw pre) ↔ Orderly ops := by
  constructor
  · intro hlaw
    induction ops using List.reverseRecOn with
    | nil =>
      intro pre i hpre
      simp at hpre
    | append_singleton ops op ih =>
      have hbefore : ∀ op ∈ ops, op.loadsRecord = false :=
        fun op hop => hops op (List.mem_append_left _ hop)
      have horderly := ih hbefore fun pre hpre => hlaw pre (hpre.trans (List.prefix_append _ _))
      intro pre i hpre hscan
      rcases List.prefix_concat_iff.1 hpre with heq | hpre
      -- up to the last operation the run is orderly, so its scan is the first to break the law
      · obtain ⟨rfl, hop⟩ := List.append_inj' heq rfl
        cases hop
        have hafter := (hlaw _ (List.prefix_refl _)).owners
        rw [run_snoc] at hafter
        obtain ⟨e, id, howner, hunregistered⟩ := hscan.owner (run_settled hbefore horderly)
        rw [(hafter e id howner).2.1] at hunregistered
        cases hunregistered
      · exact horderly pre i hpre hscan
  · rintro horderly pre ⟨post, rfl⟩
    exact horderly.of_append.ownershipLaw fun op hop => hops op (List.mem_append_left _ hop)

/-- Two controllers that poll over one element follow the law, and the second takes the element. -/
theorem ownershipLaw_of_rivals :
    let ops : List Op := [.topology (.insert ⟨1⟩ [] []), .newController ⟨1⟩ {}, .controller 0 .poll,
      .newController ⟨1⟩ {}, .controller 1 .poll]
    (∀ pre, pre <+: ops → OwnershipLaw pre) ∧
      (empty.run ops).site.topology.owner? ⟨1⟩ = some ⟨2⟩ ∧
      ⟨1⟩ ∈ (empty.run ops).site.topology.invalidations := by
  refine ⟨(ownershipLaw_iff_orderly (by decide)).2 ?_, by decide, by decide⟩
  intro pre i hpre
  have hmem := hpre.subset (List.mem_append_right pre (List.mem_singleton_self _))
  simp at hmem

/-- A controller that scans after it was disposed owns the element, and is not registered. -/
theorem disposed_controller_owns :
    let ops : List Op := [.topology (.insert ⟨1⟩ [] []), .newController ⟨1⟩ {},
      .controller 0 .dispose, .controller 0 .scan]
    (empty.run ops).site.topology.owner? ⟨1⟩ = some ⟨1⟩ ∧
      (empty.run ops).site.topology.isRegistered ⟨1⟩ = false := by
  decide

end World

end DeviceBus
