import DeviceBus.Proofs.Controller
import DeviceBus.Proofs.Topology.Claims
import DeviceBus.Proofs.Topology.Walk

/-!
# Tenure

A controller owns the elements of its last completed scan, except while there is a notice for it that
it lost its bus or has to scan again (`Controller.Settled`).  What one controller does either leaves
another with all that it owns, or takes all of it and leaves a notice (`Topology.Treats`).
-/

namespace DeviceBus

/-! ## Sound claims -/

namespace Topology

/-- Every claimed element is known, and its owner is registered. -/
structure Sound (t : Topology) : Prop where
  knows : ∀ e id, t.owner? e = some id → t.knows e = true
  registered : ∀ e id, t.owner? e = some id → t.isRegistered id = true
  serial : ∀ id, t.isRegistered id = true → id.serial ≤ t.lastSerial

theorem sound_empty : empty.Sound := by
  refine ⟨?_, ?_, ?_⟩
  · intro e id h
    cases h
  · intro e id h
    cases h
  · intro id h
    cases h

variable {t t' : Topology}

/-- Claims that are given up do no harm. -/
theorem Sound.of_shrinks (h : t.Sound)
    (howner : ∀ e id, t'.owner? e = some id →
      t.owner? e = some id ∧ t'.knows e = t.knows e ∧ t'.isRegistered id = t.isRegistered id)
    (hregistered : ∀ id, t'.isRegistered id = true → t.isRegistered id = true)
    (hserial : t'.lastSerial = t.lastSerial) : t'.Sound := by
  refine ⟨?_, ?_, ?_⟩
  · intro e id hid
    obtain ⟨hbefore, hknows, -⟩ := howner e id hid
    rw [hknows]
    exact h.knows e id hbefore
  · intro e id hid
    obtain ⟨hbefore, -, hsame⟩ := howner e id hid
    rw [hsame]
    exact h.registered e id hbefore
  · intro id hid
    rw [hserial]
    exact h.serial id (hregistered id hid)

theorem Calm.owner?_eq (h : t.Calm t') (e : ElementId) : t'.owner? e = t.owner? e := by
  unfold owner?
  rw [h.claims]

theorem Calm.isRegistered_eq (h : t.Calm t') (id : ControllerId) :
    t'.isRegistered id = t.isRegistered id := by
  unfold isRegistered
  rw [h.controllers]

theorem Sound.calm (h : t.Sound) (hcalm : t.Calm t') : t'.Sound := by
  refine ⟨?_, ?_, ?_⟩
  · intro e id hid
    rw [hcalm.owner?_eq] at hid
    exact hcalm.knows e (h.knows e id hid)
  · intro e id hid
    rw [hcalm.owner?_eq] at hid
    rw [hcalm.isRegistered_eq]
    exact h.registered e id hid
  · intro id hid
    rw [hcalm.isRegistered_eq] at hid
    rw [hcalm.lastSerial]
    exact h.serial id hid

theorem Drops.owner?_eq {e : ElementId} (h : t.Drops e t') (e' : ElementId) :
    t'.owner? e' = if e = e' then none else t.owner? e' := by
  unfold owner?
  rw [h.claims, Table.get?_erase]
  simp only [ElementId.index_eq_iff]

theorem Drops.isRegistered_eq {e : ElementId} (h : t.Drops e t') (id : ControllerId) :
    t'.isRegistered id = t.isRegistered id := by
  unfold isRegistered
  rw [h.controllers]

/-- What is owned after an element went away is another element, with the same owner. -/
theorem Drops.owner?_eq_some {e e' : ElementId} {id : ControllerId} (h : t.Drops e t')
    (hid : t'.owner? e' = some id) : e' ≠ e ∧ t.owner? e' = some id := by
  rw [h.owner?_eq] at hid
  split at hid
  · cases hid
  · next hne => exact ⟨Ne.symm hne, hid⟩

theorem Sound.drops {e : ElementId} (h : t.Sound) (hdrops : t.Drops e t') : t'.Sound := by
  refine ⟨?_, ?_, ?_⟩
  · intro e' id hid
    obtain ⟨hne, hbefore⟩ := hdrops.owner?_eq_some hid
    exact hdrops.knows e' hne (h.knows e' id hbefore)
  · intro e' id hid
    rw [hdrops.isRegistered_eq]
    exact h.registered e' id (hdrops.owner?_eq_some hid).2
  · intro id hid
    rw [hdrops.isRegistered_eq] at hid
    rw [hdrops.lastSerial]
    exact h.serial id hid

theorem Sound.releaseClaims (h : t.Sound) (id : ControllerId) : (t.releaseClaims id).Sound := by
  refine h.of_shrinks (fun e id' hid => ⟨?_, rfl, rfl⟩) (fun _ hid => hid) rfl
  exact (owner?_releaseClaims.1 hid).1

theorem Sound.takeInvalidation (h : t.Sound) (id : ControllerId) : (t.takeInvalidation id).2.Sound :=
  ⟨h.knows, h.registered, h.serial⟩

theorem Sound.takeScanRequest (h : t.Sound) (id : ControllerId) : (t.takeScanRequest id).2.Sound :=
  ⟨h.knows, h.registered, h.serial⟩

theorem Sound.register (h : t.Sound) (root : ElementId) : (t.register root).2.Sound := by
  refine ⟨h.knows, ?_, ?_⟩
  · intro e id hid
    rw [isRegistered_register, h.registered e id hid, Bool.or_true]
  · intro id hid
    rw [isRegistered_register, Bool.or_eq_true, decide_eq_true_iff] at hid
    show id.serial ≤ t.lastSerial + 1
    rcases hid with rfl | hid
    · exact Nat.le_refl _
    · exact Nat.le_succ_of_le (h.serial id hid)

theorem Sound.unregister (h : t.Sound) {id : ControllerId} (hid : t.isRegistered id = true) :
    (t.unregister id).Sound := by
  have hleaves := unregister_leaves hid
  refine h.of_shrinks ?_ ?_ hleaves.lastSerial
  · intro e id' howner
    rw [hleaves.owner] at howner
    refine ⟨howner.1, hleaves.knows e, ?_⟩
    rw [hleaves.registered, decide_eq_true howner.2, Bool.true_and]
  · intro id' hregistered
    rw [hleaves.registered, Bool.and_eq_true] at hregistered
    exact hregistered.2

theorem Sound.claim (h : t.Sound) {id : ControllerId} {es : List ElementId}
    (hid : t.isRegistered id = true) (hes : ∀ e ∈ es, t.knows e = true) : (t.claim id es).Sound := by
  have hclaims := t.claim_claims id es
  have howner {e : ElementId} {id' : ControllerId} (ho : (t.claim id es).owner? e = some id') :
      e ∈ es ∧ id' = id ∨ t.owner? e = some id' := by
    rw [hclaims.owner] at ho
    split at ho
    · next hmem => exact .inl ⟨hmem, ho.symm⟩
    · exact .inr ho.1
  refine ⟨?_, ?_, ?_⟩
  · intro e id' ho
    rw [hclaims.knows]
    rcases howner ho with ⟨hmem, -⟩ | hbefore
    · exact hes e hmem
    · exact h.knows e id' hbefore
  · intro e id' ho
    rw [hclaims.registered]
    rcases howner ho with ⟨-, rfl⟩ | hbefore
    · exact hid
    · exact h.registered e id' hbefore
  · intro id' hregistered
    rw [hclaims.registered] at hregistered
    rw [hclaims.lastSerial]
    exact h.serial id' hregistered

/-! ## Other controllers -/

/-- A controller keeps what it owns, and no notice to it is added or lost, but it may be asked to
scan. -/
structure Keeps (id : ControllerId) (t t' : Topology) : Prop where
  owner : ∀ e, t'.owner? e = some id ↔ t.owner? e = some id
  registered : t'.isRegistered id = t.isRegistered id
  invalidations : id ∈ t'.invalidations ↔ id ∈ t.invalidations
  requests : id ∈ t.scanRequests → id ∈ t'.scanRequests

/-- A controller loses all that it owns, and there is a notice of that. -/
structure Robs (id : ControllerId) (t t' : Topology) : Prop where
  owner : ∀ e, t'.owner? e ≠ some id
  registered : t'.isRegistered id = t.isRegistered id
  invalidations : id ∈ t'.invalidations

/-- What a controller may do to another one. -/
def Treats (id : ControllerId) (t t' : Topology) : Prop := t.Keeps id t' ∨ t.Robs id t'

variable {id : ControllerId}

theorem Keeps.trans {t'' : Topology} (h : t.Keeps id t') (h' : t'.Keeps id t'') : t.Keeps id t'' :=
  ⟨fun e => (h'.owner e).trans (h.owner e), h'.registered.trans h.registered,
    h'.invalidations.trans h.invalidations, h'.requests ∘ h.requests⟩

theorem Treats.trans {t'' : Topology} (h : t.Treats id t') (h' : t'.Treats id t'') :
    t.Treats id t'' := by
  rcases h with h | h
  · rcases h' with h' | h'
    · exact .inl (h.trans h')
    · exact .inr ⟨h'.owner, h'.registered.trans h.registered, h'.invalidations⟩
  · rcases h' with h' | h'
    · refine .inr ⟨?_, h'.registered.trans h.registered, h'.invalidations.2 h.invalidations⟩
      intro e he
      exact h.owner e ((h'.owner e).1 he)
    · exact .inr ⟨h'.owner, h'.registered.trans h.registered, h'.invalidations⟩

theorem Calm.keeps (h : t.Calm t') (id : ControllerId) : t.Keeps id t' := by
  refine ⟨?_, h.isRegistered_eq id, ?_, h.requests id⟩
  · intro e
    rw [h.owner?_eq]
  · rw [h.invalidations]

theorem releaseClaims_keeps {id' : ControllerId} (hne : id' ≠ id) :
    t.Keeps id' (t.releaseClaims id) := by
  refine ⟨?_, rfl, .rfl, fun h => h⟩
  intro e
  rw [owner?_releaseClaims]
  exact and_iff_left hne

theorem takeInvalidation_keeps {id' : ControllerId} (hne : id' ≠ id) :
    t.Keeps id' (t.takeInvalidation id).2 :=
  ⟨fun _ => .rfl, rfl, mem_strike.trans (and_iff_left hne), fun h => h⟩

theorem takeScanRequest_keeps {id' : ControllerId} (hne : id' ≠ id) :
    t.Keeps id' (t.takeScanRequest id).2 :=
  ⟨fun _ => .rfl, rfl, .rfl, fun h => mem_strike.2 ⟨h, hne⟩⟩

theorem register_keeps {root : ElementId} (hne : id ≠ (t.register root).1) :
    t.Keeps id (t.register root).2 := by
  refine ⟨fun _ => .rfl, ?_, .rfl, fun h => h⟩
  rw [isRegistered_register, decide_eq_false (show id ≠ ⟨t.lastSerial + 1⟩ from hne), Bool.false_or]

theorem unregister_keeps {id' : ControllerId} (hid : t.isRegistered id = true) (hne : id' ≠ id) :
    t.Keeps id' (t.unregister id) := by
  have hleaves := unregister_leaves hid
  refine ⟨?_, ?_, (hleaves.invalidations id').trans (and_iff_left hne), ?_⟩
  · intro e
    rw [hleaves.owner]
    exact and_iff_left hne
  · rw [hleaves.registered, decide_eq_true hne, Bool.true_and]
  · intro h
    exact hleaves.requests id' h hne

/-- A registered controller that owns none of the claimed elements keeps all that it owns, and any other
loses all of it. -/
theorem claim_treats {id' : ControllerId} (h : ∀ e, t.owner? e = some id' → t.isRegistered id' = true)
    (hne : id' ≠ id) (es : List ElementId) : t.Treats id' (t.claim id es) := by
  have hclaims := t.claim_claims id es
  by_cases hrival : id' ∈ t.rivals id es
  · refine .inr ⟨?_, hclaims.registered id', (hclaims.invalidations id').2 (.inr hrival)⟩
    intro e he
    rw [hclaims.owner] at he
    split at he
    · exact hne he.symm
    · exact he.2.2 hrival
  · refine .inl ⟨?_, hclaims.registered id', ?_, ?_⟩
    · intro e
      rw [hclaims.owner]
      split
      · next hmem =>
        constructor
        · intro he
          exact absurd he.symm hne
        · intro he
          exact absurd (mem_rivals.2 ⟨hne, h e he, e, hmem, he⟩) hrival
      · exact and_iff_left ⟨hne, hrival⟩
    · rw [hclaims.invalidations]
      exact or_iff_left hrival
    · intro hmem
      exact (hclaims.requests id').2 ⟨hmem, hrival⟩

end Topology

/-- What a completed walk found is known. -/
theorem Scan.walk_knows {t : Topology} {limit : Nat} {root : ElementId} {visits : List Scan.Visit}
    (h : Scan.walk t root limit = .ok visits) : ∀ x ∈ visits.map Query.element, t.knows x = true := by
  intro x hx
  obtain ⟨v, hv, rfl⟩ := List.mem_map.1 hx
  unfold Topology.knows
  rw [(Scan.walk_finds h).2 v hv, Bool.true_or]

/-! ## Tenure of a controller -/

namespace Controller

/-- A controller is registered unless it was disposed, and owns only elements of its last completed
scan unless there is a notice that it lost its bus. -/
structure Fits (c : Controller) (t : Topology) : Prop where
  registered : t.isRegistered c.id = !c.disposed
  serial : c.id.serial ≤ t.lastSerial
  idle : c.disposed = true → c.state ≠ .ready
  within : c.id ∉ t.invalidations → ∀ e, t.owner? e = some c.id → e ∈ c.members

/-- Besides, a ready controller without any notice owns all elements of that scan. -/
structure Settled (c : Controller) (t : Topology) : Prop extends c.Fits t where
  exact : c.state = .ready → c.id ∉ t.invalidations → c.id ∉ t.scanRequests →
    ∀ e ∈ c.members, t.owner? e = some c.id

variable {c c' : Controller} {t t' : Topology} {s : Site}

theorem Settled.treats (h : c.Settled t) (ht : t.Treats c.id t')
    (hserial : t.lastSerial ≤ t'.lastSerial) : c.Settled t' := by
  rcases ht with ht | ht
  · refine ⟨⟨ht.registered.trans h.registered, Nat.le_trans h.serial hserial, h.idle, ?_⟩, ?_⟩
    · intro hnotice e he
      exact h.within (mt ht.invalidations.2 hnotice) e ((ht.owner e).1 he)
    · intro hready hnotice hrequest e he
      refine (ht.owner e).2 (h.exact hready (mt ht.invalidations.2 hnotice) ?_ e he)
      exact mt ht.requests hrequest
  · refine ⟨⟨ht.registered.trans h.registered, Nat.le_trans h.serial hserial, h.idle, ?_⟩, ?_⟩
    · intro hnotice
      exact absurd ht.invalidations hnotice
    · intro _ hnotice
      exact absurd ht.invalidations hnotice

/-- The owner of an element that went away has to scan again. -/
theorem Settled.drops (h : c.Settled t) {e : ElementId} (ht : t.Drops e t') : c.Settled t' := by
  refine ⟨⟨(ht.isRegistered_eq c.id).trans h.registered, ?_, h.idle, ?_⟩, ?_⟩
  · rw [ht.lastSerial]
    exact h.serial
  · rw [ht.invalidations]
    intro hnotice e' he'
    exact h.within hnotice e' (ht.owner?_eq_some he').2
  · rw [ht.invalidations]
    intro hready hnotice hrequest e' he'
    have howner := h.exact hready hnotice (mt (ht.requests c.id) hrequest) e' he'
    rw [ht.owner?_eq, if_neg ?_]
    · exact howner
    · rintro rfl
      exact hrequest (ht.owner c.id howner)

/-- What a registered controller may do. -/
structure Turn (c c' : Controller) (t t' : Topology) : Prop where
  id : c'.id = c.id
  sound : t'.Sound
  lastSerial : t'.lastSerial = t.lastSerial
  others : ∀ id, id ≠ c.id → t.Treats id t'

theorem Turn.trans {c'' : Controller} {t'' : Topology} (h : c.Turn c' t t') (h' : c'.Turn c'' t' t'') :
    c.Turn c'' t t'' := by
  refine ⟨h'.id.trans h.id, h'.sound, h'.lastSerial.trans h.lastSerial, ?_⟩
  intro id hne
  exact (h.others id hne).trans (h'.others id (h.id ▸ hne))

/-- Waiting for nothing but its own next operation. -/
theorem Turn.refl (ht : t.Sound) (h : c'.id = c.id) : c.Turn c' t t :=
  ⟨h, ht, rfl, fun _ _ => .inl ⟨fun _ => .rfl, rfl, .rfl, fun h => h⟩⟩

theorem absorbInvalidation_settled (ht : s.topology.Sound) (h : c.Settled s.topology) :
    c.Turn (c.absorbInvalidation s).1 s.topology (c.absorbInvalidation s).2.topology ∧
      (c.absorbInvalidation s).1.Settled (c.absorbInvalidation s).2.topology ∧
      c.id ∉ (c.absorbInvalidation s).2.topology.invalidations := by
  have htaken := ht.takeInvalidation c.id
  have hstruck : c.id ∉ (s.topology.takeInvalidation c.id).2.invalidations :=
    fun hmem => (Topology.mem_strike.1 hmem).2 rfl
  have hkeeps (id : ControllerId) (hne : id ≠ c.id) :=
    Topology.takeInvalidation_keeps (t := s.topology) hne
  rcases c.absorbInvalidation_cases s with ⟨-, changes, he⟩ | ⟨hnone, he⟩
  · rw [he]
    refine ⟨⟨rfl, htaken.releaseClaims c.id, rfl, ?_⟩, ⟨⟨h.registered, h.serial, ?_, ?_⟩, ?_⟩, hstruck⟩
    · intro id hne
      exact .inl ((hkeeps id hne).trans (Topology.releaseClaims_keeps hne))
    · intro _ hready
      cases hready
    · intro _ e howner
      exact absurd rfl (Topology.owner?_releaseClaims.1 howner).2
    · intro hready
      cases hready
  · rw [he]
    refine ⟨⟨rfl, htaken, rfl, fun id hne => .inl (hkeeps id hne)⟩,
      ⟨⟨h.registered, h.serial, h.idle, ?_⟩, ?_⟩, hstruck⟩
    · intro _
      exact h.within hnone
    · intro hready _
      exact h.exact hready hnone

/-- After a request was taken note of, a scan is due. -/
theorem absorbScanRequest_settled (ht : s.topology.Sound) (h : c.Settled s.topology) :
    c.Turn (c.absorbScanRequest s).1 s.topology (c.absorbScanRequest s).2.topology ∧
      (c.absorbScanRequest s).1.Fits (c.absorbScanRequest s).2.topology ∧
      ((c.absorbScanRequest s).1.scanPending = false →
        (c.absorbScanRequest s).1.Settled (c.absorbScanRequest s).2.topology) := by
  have htaken := ht.takeScanRequest c.id
  have hkeeps (id : ControllerId) (hne : id ≠ c.id) :=
    Topology.takeScanRequest_keeps (t := s.topology) hne
  rcases c.absorbScanRequest_cases s with ⟨-, he⟩ | ⟨hnone, he⟩
  · rw [he]
    refine ⟨⟨rfl, htaken, rfl, fun id hne => .inl (hkeeps id hne)⟩,
      ⟨h.registered, h.serial, h.idle, h.within⟩, ?_⟩
    intro hpending
    cases hpending
  · rw [he]
    refine ⟨⟨rfl, htaken, rfl, fun id hne => .inl (hkeeps id hne)⟩,
      ⟨h.registered, h.serial, h.idle, h.within⟩, fun _ => ?_⟩
    exact ⟨⟨h.registered, h.serial, h.idle, h.within⟩, fun hready hnotice _ => h.exact hready hnotice hnone⟩

/-- A scan that completes for a disposed controller would claim for one that is not registered. -/
theorem scan_settled (ht : s.topology.Sound) (h : c.Fits s.topology)
    (hlive : c.disposed = true → (c.scan s).1.state ≠ .ready) :
    c.Turn (c.scan s).1 s.topology (c.scan s).2.topology ∧
      (c.scan s).1.Settled (c.scan s).2.topology := by
  rcases c.scan_cases s with he | ⟨changes, fault, hw, he⟩ | ⟨visits, devices, changes, hw, hwalk, -, he⟩
  · rw [he]
    refine ⟨.refl ht rfl, ⟨⟨h.registered, h.serial, ?_, h.within⟩, ?_⟩⟩
    · intro _ hready
      cases hready
    · intro hready
      cases hready
  · rw [he]
    refine ⟨⟨rfl, ht.releaseClaims c.id, rfl, ?_⟩, ⟨⟨h.registered, h.serial, ?_, ?_⟩, ?_⟩⟩
    · intro id hne
      exact .inl (Topology.releaseClaims_keeps hne)
    · intro _ hready
      cases hready
    · intro _ e howner
      exact absurd rfl (Topology.owner?_releaseClaims.1 howner).2
    · intro hready
      cases hready
  · rw [he] at hlive ⊢
    -- the scan completes, so the controller is registered and may claim
    have hdisposed : c.disposed = false := eq_false_of_ne_true fun hdisposed => hlive hdisposed rfl
    have hregistered : s.topology.isRegistered c.id = true := by
      rw [h.registered, hdisposed]
      rfl
    have hclaims := s.topology.claim_claims c.id (visits.map Query.element)
    refine ⟨⟨rfl, ht.claim hregistered (Scan.walk_knows hwalk), hclaims.lastSerial, ?_⟩,
      ⟨⟨(hclaims.registered c.id).trans h.registered, ?_, ?_, ?_⟩, ?_⟩⟩
    · intro id hne
      exact Topology.claim_treats (fun e => ht.registered e id) hne _
    · rw [hclaims.lastSerial]
      exact h.serial
    · intro hnow
      exact absurd hnow (by simp [hdisposed])
    · intro _ e howner
      rw [hclaims.owner] at howner
      split at howner
      · next hmem => exact hmem
      · exact absurd rfl howner.2.1
    · intro _ _ _ e hmem
      rw [hclaims.owner, if_pos hmem]

/-- A scan leaves no notice to the controller itself. -/
theorem scan_invalidations (c : Controller) (s : Site) :
    c.id ∈ (c.scan s).2.topology.invalidations ↔ c.id ∈ s.topology.invalidations := by
  rcases c.scan_cases s with he | ⟨_, _, _, he⟩ | ⟨visits, _, _, _, -, -, he⟩
  · rw [he]
  · rw [he]
    rfl
  · rw [he]
    show c.id ∈ (s.topology.claim c.id _).invalidations ↔ _
    rw [(s.topology.claim_claims c.id _).invalidations]
    exact or_iff_left fun hrival => (Topology.mem_rivals.1 hrival).1 rfl

theorem scanIfDue_settled (ht : s.topology.Sound) (h : c.Fits s.topology)
    (hdue : c.scanPending = false → c.Settled s.topology) (hlive : c.disposed = false) :
    c.Turn (c.scanIfDue s).1 s.topology (c.scanIfDue s).2.topology ∧
      (c.scanIfDue s).1.Settled (c.scanIfDue s).2.topology := by
  unfold scanIfDue
  split
  · exact scan_settled ht h fun hdisposed => absurd hdisposed (by simp [hlive])
  · next hpending => exact ⟨.refl ht rfl, hdue (eq_false_of_ne_true hpending)⟩

theorem pollRegistered_settled (ht : s.topology.Sound) (h : c.Settled s.topology)
    (hlive : c.disposed = false) :
    c.Turn (c.pollRegistered s).1 s.topology (c.pollRegistered s).2.topology ∧
      (c.pollRegistered s).1.Settled (c.pollRegistered s).2.topology := by
  obtain ⟨hnotice, hsettled, -⟩ := absorbInvalidation_settled ht h
  obtain ⟨hrequest, hfits, hdue⟩ := absorbScanRequest_settled hnotice.sound hsettled
  have hscan := scanIfDue_settled hrequest.sound hfits hdue (by
    rw [absorbScanRequest_disposed, absorbInvalidation_disposed, hlive])
  exact ⟨(hnotice.trans hrequest).trans hscan.1, hscan.2⟩

/-! ## Names -/

/-- A controller in its place, under a name that may be new. -/
structure Enters (c : Controller) (t t' : Topology) : Prop where
  sound : t'.Sound
  settled : c.Settled t'
  lastSerial : t.lastSerial ≤ t'.lastSerial
  others : ∀ id, id ≠ c.id → t.Treats id t'

theorem Turn.enters (h : c.Turn c' t t') (hsettled : c'.Settled t') : c'.Enters t t' :=
  ⟨h.sound, hsettled, Nat.le_of_eq h.lastSerial.symm, h.id ▸ h.others⟩

theorem Enters.turn {t'' : Topology} (h : c.Enters t t') (h' : c.Turn c' t' t'')
    (hsettled : c'.Settled t'') : c'.Enters t t'' := by
  refine ⟨h'.sound, hsettled, ?_, ?_⟩
  · rw [h'.lastSerial]
    exact h.lastSerial
  · rw [h'.id]
    intro id hne
    exact (h.others id hne).trans (h'.others id hne)

/-- A controller under a name that was not given before owns nothing yet. -/
theorem register_enters (ht : t.Sound) {root : ElementId} (hid : c.id = (t.register root).1)
    (hlive : c.disposed = false) (hstate : c.state ≠ .ready) : c.Enters t (t.register root).2 := by
  have hid : c.id = ⟨t.lastSerial + 1⟩ := hid
  refine ⟨ht.register root, ⟨⟨?_, ?_, ?_, ?_⟩, ?_⟩, Nat.le_succ _, ?_⟩
  · rw [Topology.isRegistered_register, hid, hlive, decide_eq_true rfl]
    rfl
  · rw [hid]
    exact Nat.le_refl _
  · intro _
    exact hstate
  · intro _ e howner
    have hserial := ht.serial _ (ht.registered e c.id howner)
    rw [hid] at hserial
    exact absurd hserial (Nat.not_succ_le_self _)
  · intro hready
    exact absurd hready hstate
  · intro id hne
    rw [hid] at hne
    exact .inl (Topology.register_keeps hne)

theorem new_enters (ht : t.Sound) (root : ElementId) (config : Config) :
    (Controller.new t root config).1.Enters t (Controller.new t root config).2 := by
  show (Controller.new t root config).1.Enters t (t.register root).2
  exact register_enters ht rfl rfl (by simp [Controller.new])

theorem revive_enters (ht : s.topology.Sound) (h : c.Settled s.topology) :
    (c.revive s).1.Enters s.topology (c.revive s).2.topology := by
  unfold revive
  split
  · next hdisposed => exact register_enters ht rfl rfl (h.idle hdisposed)
  · exact (Turn.refl ht rfl).enters h

theorem poll_enters (ht : s.topology.Sound) (h : c.Settled s.topology) :
    (c.poll s).1.Enters s.topology (c.poll s).2.topology := by
  have hrevive := revive_enters ht h
  have hpoll := pollRegistered_settled hrevive.sound hrevive.settled (c.revive_disposed s)
  exact hrevive.turn hpoll.1 hpoll.2

theorem dispose_enters (ht : t.Sound) (h : c.Settled t) :
    (c.dispose t).1.Enters t (c.dispose t).2 := by
  unfold dispose
  split
  · exact (Turn.refl ht rfl).enters h
  · next hlive =>
    have hregistered : t.isRegistered c.id = true := by
      rw [h.registered, eq_false_of_ne_true hlive]
      rfl
    have hleaves := Topology.unregister_leaves hregistered
    refine ⟨ht.unregister hregistered, ⟨⟨?_, ?_, ?_, ?_⟩, ?_⟩, ?_, ?_⟩
    · show (t.unregister c.id).isRegistered c.id = false
      rw [hleaves.registered, decide_eq_false (not_not_intro rfl), Bool.false_and]
    · rw [hleaves.lastSerial]
      exact h.serial
    · intro _ hready
      cases hready
    · intro _ e howner
      exact absurd rfl ((hleaves.owner e c.id).1 howner).2
    · intro hready
      cases hready
    · exact Nat.le_of_eq hleaves.lastSerial.symm
    · intro id hne
      exact .inl (Topology.unregister_keeps hregistered hne)

/-- A poll keeps the name of a controller that was not disposed. -/
theorem poll_id (ht : s.topology.Sound) (h : c.Settled s.topology) :
    (c.poll s).1.id = c.id ∨
      c.disposed = true ∧ s.topology.lastSerial < (c.poll s).1.id.serial := by
  have hrevive := revive_enters ht h
  have hpoll := pollRegistered_settled hrevive.sound hrevive.settled (c.revive_disposed s)
  rw [poll_eq, hpoll.1.id]
  unfold revive
  split
  · next hdisposed => exact .inr ⟨hdisposed, Nat.lt_succ_self _⟩
  · exact .inl rfl

end Controller

end DeviceBus
