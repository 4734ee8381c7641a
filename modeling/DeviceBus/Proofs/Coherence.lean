import DeviceBus.Proofs.Disposal

/-!
# States and faults

A scan or a poll settles the state of a controller together with its fault, members, devices and claims.
A disposal sets the state alone: the fault of a controller that failed outlives it, until the next poll
or scan (`World.DisposedFailed`).  All other operations leave both as they are (`Controller.Carried`).

    c has a fault ↔ c failed                   unless it was disposed of after it failed
    c failed → c has no devices, owns nothing, and has no members but those of a record
                                                                                    (run_coherent_iff)
-/

namespace DeviceBus

/-! ## What an operation leaves -/

/-- What is left of a controller that is not polled, scanned or disposed of. -/
structure Controller.Carried (c c' : Controller) : Prop where
  state : c'.state = c.state
  fault : c'.fault = c.fault
  disposed : c'.disposed = c.disposed
  devices : c'.devices = c.devices
  scanPending : c.scanPending = true → c'.scanPending = true

theorem Controller.Carried.refl (c : Controller) : c.Carried c := ⟨rfl, rfl, rfl, rfl, fun h => h⟩

/-- The seat whose members an operation replaces by those of a record. -/
def Op.restored? : Op → Option Seat
  | .machine i (.loadRecord _) => some (.machine i)
  | _ => none

namespace Network

variable {n : Network} {seat : Seat} {c : Controller} {a : Action}

theorem act_carries (hw : Hardware) (hc : n.controllers seat = some c) (hpoll : a ≠ .control seat .poll)
    (hscan : a ≠ .control seat .scan) (hdispose : a ≠ .control seat .dispose) :
    ∃ c', (n.act hw a).controllers seat = some c' ∧ c.Carried c' ∧
      ((∀ members, a ≠ .restore seat members) → c'.members = c.members) := by
  obtain ⟨c', hc', hcases⟩ := act_seated hw a hc
  refine ⟨c', hc', ?_⟩
  rcases hcases with rfl | ⟨op, rfl, rfl⟩ | ⟨members, rfl, rfl⟩
  · exact ⟨.refl c', fun _ => rfl⟩
  · cases op with
    | poll => exact absurd rfl hpoll
    | scan => exact absurd rfl hscan
    | dispose => exact absurd rfl hdispose
    | scheduleScan => exact ⟨⟨rfl, rfl, rfl, rfl, fun _ => rfl⟩, fun _ => rfl⟩
    | takeChanges => exact ⟨⟨rfl, rfl, rfl, rfl, id⟩, fun _ => rfl⟩
  · exact ⟨⟨rfl, rfl, rfl, rfl, id⟩, fun hnever => absurd rfl (hnever members)⟩

/-- Only a controller that is new takes an empty seat. -/
theorem act_empty (hw : Hardware) (hc : n.controllers seat = none)
    (ha : ∀ root config, a ≠ .join seat root config) : (n.act hw a).controllers seat = none := by
  by_cases hseat : a.seat? = some seat
  · have hact : n.act hw a = n := by
      cases a with
      | topology op => cases hseat
      | join s root config =>
        cases hseat
        exact absurd rfl (ha root config)
      | restore s members =>
        cases hseat
        simp only [act, hc]
      | control s op =>
        cases hseat
        simp only [act, hc]
    rw [hact, hc]
  · rw [act_controllers n hw hseat, hc]

/-- An empty seat stays empty, or is taken by a new controller. -/
theorem act_vacant (hw : Hardware) (a : Action) (hc : n.controllers seat = none) :
    (n.act hw a).controllers seat = none ∨ ∃ root config, (n.act hw a).controllers seat =
      some (Controller.new n.topology root config).1 := by
  by_cases ha : ∃ root config, a = .join seat root config
  · obtain ⟨root, config, rfl⟩ := ha
    rw [act_join hc]
    exact .inr ⟨root, config, if_pos rfl⟩
  · exact .inl (act_empty hw hc fun root config heq => ha ⟨root, config, heq⟩)

end Network

namespace World

open Network (Action)

variable {w : World} {op : Op} {ops : List Op} {seat : Seat} {c : Controller}

theorem disposed?_of_mem_actions (h : .control seat .dispose ∈ w.actions op) :
    op.disposed? = some seat := by
  cases op with
  | machine i mop => cases mop <;> simp_all [actions, MachineOp.actions, Op.disposed?]
  | controller i cop =>
    cases List.mem_singleton.1 h
    rfl
  | _ => simp [actions] at h

theorem restored?_of_mem_actions {members : List ElementId} (h : .restore seat members ∈ w.actions op) :
    op.restored? = some seat := by
  cases op with
  | machine i mop => cases mop <;> simp_all [actions, MachineOp.actions, Op.restored?]
  | _ => simp [actions] at h

/-- A controller that an operation neither polls, scans nor disposes of. -/
theorem step_carries (hc : w.controllerAt seat = some c) (hpoll : op.polled? ≠ some seat)
    (hscan : op.scanned? ≠ some seat) (hdispose : op.disposed? ≠ some seat) :
    ∃ c', (w.step op).2.controllerAt seat = some c' ∧ c.Carried c' ∧
      (op.restored? ≠ some seat → c'.members = c.members) := by
  show ∃ c', (w.step op).2.network.controllers seat = some c' ∧ _
  rw [network_step]
  rcases w.actions_cases op with hactions | ⟨a, hactions⟩ | ⟨s, hs, hactions⟩
  · rw [hactions]
    exact ⟨c, hc, .refl c, fun _ => rfl⟩
  · have ha : a ∈ w.actions op := by
      rw [hactions]
      exact List.mem_singleton_self a
    have hact := Network.act_carries (n := w.network) (a := a) w.site.hardware hc
      (by
        rintro rfl
        exact hpoll (polled?_of_mem_actions ha))
      (by
        rintro rfl
        exact hscan (scanned?_of_mem_actions ha))
      (by
        rintro rfl
        exact hdispose (disposed?_of_mem_actions ha))
    obtain ⟨c', hc', hcarried, hmembers⟩ := hact
    rw [hactions]
    refine ⟨c', hc', hcarried, fun hrestore => hmembers fun members heq => ?_⟩
    rw [heq] at ha
    exact hrestore (restored?_of_mem_actions ha)
  · -- a tick of another machine
    have hne : s ≠ seat := fun heq => hpoll (heq ▸ hs)
    have helsewhere (cop : ControllerOp) : (Action.control s cop).seat? ≠ some seat :=
      fun heq => hne (Option.some.inj heq)
    rw [hactions, List.foldl_cons, List.foldl_cons, List.foldl_nil,
      Network.act_controllers _ _ (helsewhere _), Network.act_controllers _ _ (helsewhere _)]
    exact ⟨c, hc, .refl c, fun _ => rfl⟩

theorem controllerAt_step_scanned (h : op.scanned? = some seat) (hc : w.controllerAt seat = some c) :
    (w.step op).2.controllerAt seat = some (c.scan w.site).1 := by
  show (w.step op).2.network.controllers seat = _
  rw [network_step, scanned_actions h w]
  show (w.network.act w.site.hardware (.control seat .scan)).controllers seat = _
  rw [Network.act_control hc]
  exact if_pos rfl

/-- What an operation makes of the controller in a seat. -/
theorem step_seat (hc : w.controllerAt seat = some c) (op : Op) :
    ∃ c', (w.step op).2.controllerAt seat = some c' ∧
      (op.polled? = some seat ∧ c' = seat.keep (c.poll w.site).1 ∨
        op.scanned? = some seat ∧ c' = (c.scan w.site).1 ∨
        op.disposed? = some seat ∧ c' = (c.dispose w.site.topology).1 ∨
        (op.polled? ≠ some seat ∧ op.scanned? ≠ some seat ∧ op.disposed? ≠ some seat) ∧
          c.Carried c' ∧ (op.restored? ≠ some seat → c'.members = c.members)) := by
  by_cases hpoll : op.polled? = some seat
  · refine ⟨_, ?_, .inl ⟨hpoll, rfl⟩⟩
    exact (congrFun (congrArg Network.controllers (network_step_polled hpoll hc)) seat).trans (if_pos rfl)
  by_cases hscan : op.scanned? = some seat
  · exact ⟨_, controllerAt_step_scanned hscan hc, .inr (.inl ⟨hscan, rfl⟩)⟩
  by_cases hdispose : op.disposed? = some seat
  · refine ⟨_, ?_, .inr (.inr (.inl ⟨hdispose, rfl⟩))⟩
    exact (congrFun (congrArg Network.controllers (network_step_disposed hdispose hc)) seat).trans
      (if_pos rfl)
  · obtain ⟨c', hc', hcarried⟩ := step_carries hc hpoll hscan hdispose
    exact ⟨c', hc', .inr (.inr (.inr ⟨⟨hpoll, hscan, hdispose⟩, hcarried⟩))⟩

/-- An empty seat stays empty, or is taken by a new controller. -/
theorem step_joins (hc : w.controllerAt seat = none) (op : Op) :
    (w.step op).2.controllerAt seat = none ∨ ∃ root config, (w.step op).2.controllerAt seat =
      some (Controller.new w.site.topology root config).1 := by
  show (w.step op).2.network.controllers seat = none ∨ ∃ root config,
    (w.step op).2.network.controllers seat = some (Controller.new w.site.topology root config).1
  rw [network_step]
  rcases w.actions_cases op with hactions | ⟨a, hactions⟩ | ⟨s, -, hactions⟩
  · rw [hactions]
    exact .inl hc
  · rw [hactions]
    exact Network.act_vacant w.site.hardware a hc
  · -- a tick joins nobody
    rw [hactions, List.foldl_cons, List.foldl_cons, List.foldl_nil]
    have hpolled := Network.act_empty (n := w.network) (a := .control s .poll) w.site.hardware hc
      fun _ _ heq => nomatch heq
    exact .inl (Network.act_empty _ hpolled fun _ _ heq => nomatch heq)

end World

/-! ## What a controller settles -/

namespace Controller

/-- A controller has a fault exactly if it failed. -/
def Coherent (c : Controller) : Prop := c.fault.isSome = true ↔ c.state = .error

/-- A controller that failed has no devices, and no members but those of a record. -/
def Bare (c : Controller) (restored : Prop) : Prop :=
  c.state = .error → c.devices = [] ∧ (¬ restored → c.members = [])

variable {c c' : Controller} {restored : Prop}

theorem scan_coherent (c : Controller) (s : Site) : (c.scan s).1.Coherent := by
  unfold Coherent
  rcases c.scan_cases s with he | ⟨_, _, _, he⟩ | ⟨_, _, _, _, -, -, he⟩ <;> rw [he]
  · exact iff_of_false (fun h => nomatch h) fun h => nomatch h
  · exact iff_of_true rfl rfl
  · exact iff_of_false (fun h => nomatch h) fun h => nomatch h

theorem scan_bare (c : Controller) (s : Site) : (c.scan s).1.Bare restored := by
  unfold Bare
  rcases c.scan_cases s with he | ⟨_, _, _, he⟩ | ⟨_, _, _, _, -, -, he⟩
  · rw [he]
    exact fun h => nomatch h
  · rw [he]
    exact fun _ => ⟨rfl, fun _ => rfl⟩
  · rw [he]
    exact fun h => nomatch h

/-- What a poll comes to once the controller took what it has to be told: the scan settles what the
rest of the poll left open. -/
theorem absorb_coherent (h : c.disposed = true ∨ c.Coherent) (s : Site) :
    (c.absorb s).1.scanPending = true ∨ (c.absorb s).1.Coherent := by
  have hrevive : (c.revive s).1.scanPending = true ∨ (c.revive s).1.Coherent := by
    unfold revive
    split
    · exact .inl rfl
    · next hlive => exact .inr (h.resolve_left hlive)
  unfold absorb
  generalize c.revive s = p at hrevive
  obtain ⟨c₁, s₁⟩ := p
  have hnotice : (c₁.absorbInvalidation s₁).1.scanPending = true ∨
      (c₁.absorbInvalidation s₁).1.Coherent := by
    rcases c₁.absorbInvalidation_cases s₁ with ⟨-, _, he⟩ | ⟨-, he⟩
    · rw [he]
      exact .inr (iff_of_true rfl rfl)
    · rw [he]
      exact hrevive
  dsimp only
  generalize c₁.absorbInvalidation s₁ = p at hnotice
  obtain ⟨c₂, s₂⟩ := p
  rcases c₂.absorbScanRequest_cases s₂ with ⟨-, he⟩ | ⟨-, he⟩
  · rw [he]
    exact .inl rfl
  · rw [he]
    exact hnotice

/-- A poll settles state and fault, also of a controller that was disposed of. -/
theorem poll_coherent (h : c.disposed = true ∨ c.Coherent) (s : Site) : (c.poll s).1.Coherent := by
  rw [poll_eq_absorb]
  unfold scanIfDue
  split
  · exact scan_coherent _ _
  · next hidle => exact (absorb_coherent h s).resolve_left hidle

theorem Bare.poll (h : c.Bare restored) (s : Site) : (c.poll s).1.Bare restored := by
  have hrevive : (c.revive s).1.Bare restored := by
    unfold revive
    split
    · exact h
    · exact h
  have hnotice (c : Controller) (s : Site) (h : c.Bare restored) :
      (c.absorbInvalidation s).1.Bare restored := by
    rcases c.absorbInvalidation_cases s with ⟨-, _, he⟩ | ⟨-, he⟩
    · rw [he]
      exact fun _ => ⟨rfl, fun _ => rfl⟩
    · rw [he]
      exact h
  have hrequest (c : Controller) (s : Site) (h : c.Bare restored) :
      (c.absorbScanRequest s).1.Bare restored := by
    rcases c.absorbScanRequest_cases s with ⟨-, he⟩ | ⟨-, he⟩ <;>
    · rw [he]
      exact h
  rw [poll_eq_absorb]
  unfold scanIfDue
  split
  · exact scan_bare _ _
  · exact hrequest _ _ (hnotice _ _ hrevive)

theorem Bare.mono {restored' : Prop} (h : c.Bare restored) (himp : restored → restored') :
    c.Bare restored' := by
  intro hfailed
  obtain ⟨hdevices, hmembers⟩ := h hfailed
  exact ⟨hdevices, fun hnever => hmembers fun h => hnever (himp h)⟩

theorem Bare.dispose (h : c.Bare restored) (t : Topology) : (c.dispose t).1.Bare restored := by
  unfold Controller.dispose
  split
  · exact h
  · exact fun h => nomatch h

theorem Carried.coherent (h : c.Carried c') (hc : c.Coherent) : c'.Coherent := by
  unfold Coherent
  rw [h.fault, h.state]
  exact hc

/-- A controller is coherent, unless it is out of office and its fault outlived its state. -/
structure FaultLaw (c : Controller) (outlived : Prop) : Prop where
  disposed : outlived → c.disposed = true
  lingers : outlived → c.state = .scanning ∧ c.fault.isSome = true
  coherent : ¬ outlived → c.Coherent

theorem FaultLaw.of_coherent {outlived : Prop} (h : c.Coherent) (hnever : ¬ outlived) :
    c.FaultLaw outlived :=
  ⟨fun houtlived => absurd houtlived hnever, fun houtlived => absurd houtlived hnever, fun _ => h⟩

theorem FaultLaw.carried {outlived : Prop} (h : c.FaultLaw outlived) (hcarried : c.Carried c') :
    c'.FaultLaw outlived := by
  refine ⟨fun houtlived => hcarried.disposed.trans (h.disposed houtlived), fun houtlived => ?_,
    fun hnever => hcarried.coherent (h.coherent hnever)⟩
  rw [hcarried.state, hcarried.fault]
  exact h.lingers houtlived

/-- A disposal sets the state alone, so a fault outlives it. -/
theorem FaultLaw.dispose {outlived : Prop} (h : c.FaultLaw outlived) (t : Topology) :
    (c.dispose t).1.FaultLaw ((c.disposed = false ∧ c.state = .error) ∨ outlived) := by
  unfold Controller.dispose
  split
  · next hdisposed =>
    have hlive : ¬ (c.disposed = false ∧ c.state = .error) := fun hlive => by
      rw [hdisposed] at hlive
      cases hlive.1
    rw [or_iff_right hlive]
    exact h
  · next hlive =>
    have hcoherent := h.coherent fun houtlived => hlive (h.disposed houtlived)
    refine ⟨fun _ => rfl, ?_, fun hnever => ?_⟩
    · rintro (⟨-, hfailed⟩ | houtlived)
      · exact ⟨rfl, hcoherent.2 hfailed⟩
      · exact absurd (h.disposed houtlived) hlive
    · have hsound : c.state ≠ .error := fun hfailed =>
        hnever (.inl ⟨eq_false_of_ne_true hlive, hfailed⟩)
      exact iff_of_false (fun hfault => hsound (hcoherent.1 hfault)) fun h => nomatch h

end Controller

/-! ## Runs -/

/-- A machine that takes the changes of its controller leaves the rest. -/
theorem Seat.keep_carried (seat : Seat) (c : Controller) : c.Carried (seat.keep c) := by
  cases seat <;> exact ⟨rfl, rfl, rfl, rfl, fun h => h⟩

theorem Controller.Bare.keep {c : Controller} {restored : Prop} (h : c.Bare restored) (seat : Seat) :
    (seat.keep c).Bare restored := by
  cases seat <;> exact h

theorem Op.disposed?_of_polled {op : Op} {seat : Seat} (h : op.polled? = some seat) :
    op.disposed? = none := by
  cases op with
  | controller i cop => cases cop <;> first | rfl | cases h
  | machine i mop => cases mop <;> first | rfl | cases h
  | _ => rfl

theorem Op.disposed?_of_scanned {op : Op} {seat : Seat} (h : op.scanned? = some seat) :
    op.disposed? = none := by
  cases op with
  | controller i cop => cases cop <;> first | rfl | cases h
  | _ => first | rfl | cases h

namespace World

variable {w : World} {op : Op} {ops : List Op} {seat : Seat} {c : Controller}

/-- A controller that failed was disposed of in office, and not polled or scanned since. -/
def DisposedFailed (seat : Seat) : List Op → Prop :=
  Since (fun before op => op.disposed? = some seat ∧ ∃ c,
      (empty.run before).controllerAt seat = some c ∧ c.disposed = false ∧ c.state = .error)
    fun op => op.polled? ≠ some seat ∧ op.scanned? ≠ some seat

theorem disposedFailed_snoc : DisposedFailed seat (ops ++ [op]) ↔
    (op.disposed? = some seat ∧ ∃ c, (empty.run ops).controllerAt seat = some c ∧
        c.disposed = false ∧ c.state = .error) ∨
      (op.polled? ≠ some seat ∧ op.scanned? ≠ some seat) ∧ DisposedFailed seat ops := since_snoc

/-- A poll or a scan settles the fault. -/
theorem not_disposedFailed (h : op.polled? = some seat ∨ op.scanned? = some seat) :
    ¬ DisposedFailed seat (ops ++ [op]) := by
  rw [disposedFailed_snoc]
  rintro (⟨hdispose, -⟩ | ⟨⟨hpoll, hscan⟩, -⟩)
  · rw [h.elim Op.disposed?_of_polled Op.disposed?_of_scanned] at hdispose
    cases hdispose
  · exact h.elim hpoll hscan

theorem disposedFailed_snoc_of_carried (hpoll : op.polled? ≠ some seat) (hscan : op.scanned? ≠ some seat)
    (hdispose : op.disposed? ≠ some seat) :
    DisposedFailed seat (ops ++ [op]) ↔ DisposedFailed seat ops := by
  rw [disposedFailed_snoc]
  constructor
  · rintro (⟨hop, -⟩ | ⟨-, h⟩)
    · exact absurd hop hdispose
    · exact h
  · exact fun h => .inr ⟨⟨hpoll, hscan⟩, h⟩

/-- What a disposal of the controller in a seat adds. -/
theorem disposedFailed_snoc_of_disposed (hc : (empty.run ops).controllerAt seat = some c)
    (hop : op.disposed? = some seat) : DisposedFailed seat (ops ++ [op]) ↔
      (c.disposed = false ∧ c.state = .error) ∨ DisposedFailed seat ops := by
  have hpoll : op.polled? ≠ some seat := fun h => by
    rw [Op.disposed?_of_polled h] at hop
    cases hop
  have hscan : op.scanned? ≠ some seat := fun h => by
    rw [Op.disposed?_of_scanned h] at hop
    cases hop
  rw [disposedFailed_snoc]
  constructor
  · rintro (⟨-, c', hc', hfailed⟩ | ⟨-, h⟩)
    · cases hc.symm.trans hc'
      exact .inl hfailed
    · exact .inr h
  · rintro (hfailed | h)
    · exact .inl ⟨hop, c, hc, hfailed⟩
    · exact .inr ⟨⟨hpoll, hscan⟩, h⟩

/-- In every run a controller is coherent, unless it was disposed of after it failed. -/
theorem run_faultLaw (ops : List Op) (seat : Seat) :
    (DisposedFailed seat ops → (empty.run ops).controllerAt seat ≠ none) ∧
      ∀ c, (empty.run ops).controllerAt seat = some c → c.FaultLaw (DisposedFailed seat ops) := by
  induction ops using List.reverseRecOn with
  | nil =>
    refine ⟨fun h => absurd h since_nil, fun c hc => ?_⟩
    cases seat <;> cases hc
  | append_singleton ops op ih =>
    obtain ⟨hseated, hlaw⟩ := ih
    rw [run_snoc]
    cases hc : (empty.run ops).controllerAt seat with
    | none =>
      have hnever : ¬ DisposedFailed seat (ops ++ [op]) := by
        rw [disposedFailed_snoc]
        rintro (⟨-, c, hsome, -⟩ | ⟨-, h⟩)
        · cases hc.symm.trans hsome
        · exact hseated h hc
      refine ⟨fun h => absurd h hnever, fun c' hc' => ?_⟩
      rcases step_joins hc op with hnone | ⟨root, config, hnew⟩
      · cases hnone.symm.trans hc'
      · cases hnew.symm.trans hc'
        exact .of_coherent (iff_of_false (fun h => nomatch h) fun h => nomatch h) hnever
    | some c =>
      have hlaw := hlaw c hc
      obtain ⟨c', hc', hfate⟩ := step_seat hc op
      refine ⟨fun _ hnone => (by cases hc'.symm.trans hnone), fun d hd => ?_⟩
      cases hc'.symm.trans hd
      rcases hfate with ⟨hpoll, rfl⟩ | ⟨hscan, rfl⟩ | ⟨hdispose, rfl⟩ | ⟨helse, hcarried, -⟩
      · have hbefore : c.disposed = true ∨ c.Coherent :=
          (Classical.em (DisposedFailed seat ops)).imp hlaw.disposed hlaw.coherent
        have hpolled := Controller.poll_coherent hbefore (empty.run ops).site
        exact .of_coherent ((seat.keep_carried _).coherent hpolled) (not_disposedFailed (.inl hpoll))
      · exact .of_coherent (c.scan_coherent _) (not_disposedFailed (.inr hscan))
      · rw [disposedFailed_snoc_of_disposed hc hdispose]
        exact hlaw.dispose _
      · rw [disposedFailed_snoc_of_carried helse.1 helse.2.1 helse.2.2]
        exact hlaw.carried hcarried

/-- In every run a controller that failed has no devices, and no members but those of a record. -/
theorem run_bare (ops : List Op) (seat : Seat) :
    ∀ c, (empty.run ops).controllerAt seat = some c → c.Bare (∃ op ∈ ops, op.restored? = some seat) := by
  induction ops using List.reverseRecOn with
  | nil =>
    intro c hc
    cases seat <;> cases hc
  | append_singleton ops op ih =>
    rw [run_snoc]
    cases hc : (empty.run ops).controllerAt seat with
    | none =>
      intro c' hc'
      rcases step_joins hc op with hnone | ⟨root, config, hnew⟩
      · cases hnone.symm.trans hc'
      · cases hnew.symm.trans hc'
        exact fun h => nomatch h
    | some c =>
      intro d hd
      have hbare : c.Bare (∃ o ∈ ops ++ [op], o.restored? = some seat) := (ih c hc).mono
        fun ⟨o, ho, hrestored⟩ => ⟨o, List.mem_append_left _ ho, hrestored⟩
      obtain ⟨c', hc', hfate⟩ := step_seat hc op
      cases hc'.symm.trans hd
      rcases hfate with ⟨-, rfl⟩ | ⟨-, rfl⟩ | ⟨-, rfl⟩ | ⟨-, hcarried, hmembers⟩
      · exact (hbare.poll (empty.run ops).site).keep seat
      · exact c.scan_bare _
      · exact hbare.dispose _
      · intro hfailed
        rw [hcarried.state] at hfailed
        obtain ⟨hdevices, hnone⟩ := hbare hfailed
        refine ⟨hcarried.devices.trans hdevices, fun hnever => ?_⟩
        rw [hmembers fun h => hnever ⟨op, List.mem_append_right _ (List.mem_singleton_self op), h⟩]
        exact hnone hnever

/-- In every run a controller has a fault exactly if it failed, unless it failed, was disposed of, and
was not polled or scanned since.  One that failed has no devices and owns nothing, and it has no members
unless a record stands in for them. -/
theorem run_coherent_iff (ops : List Op) {seat : Seat} {c : Controller}
    (hc : (empty.run ops).controllerAt seat = some c) :
    ((c.fault.isSome = true ↔ c.state = .error) ↔ ¬ DisposedFailed seat ops) ∧
      (c.state = .error → c.devices = [] ∧
        (∀ e, (empty.run ops).site.topology.owner? e ≠ some c.id) ∧
        ((∀ op ∈ ops, op.restored? ≠ some seat) → c.members = [])) := by
  have hlaw := (run_faultLaw ops seat).2 c hc
  refine ⟨⟨fun hcoherent houtlived => ?_, hlaw.coherent⟩, fun hfailed => ?_⟩
  · obtain ⟨hstate, hfault⟩ := hlaw.lingers houtlived
    rw [hcoherent.1 hfault] at hstate
    cases hstate
  · obtain ⟨hdevices, hmembers⟩ := run_bare ops seat c hc hfailed
    refine ⟨hdevices, ((run_enrolled ops).controllers seat c hc).failed hfailed, fun hnever => ?_⟩
    exact hmembers fun ⟨op, hop, hrestored⟩ => hnever op hop hrestored

/-- A controller that took note of the loss of its bus. -/
theorem coherent_after_takeover :
    let ops : List Op := [.topology (.insert ⟨1⟩ [] []), .newController ⟨1⟩ {}, .controller 0 .poll,
      .newController ⟨1⟩ {}, .controller 1 .poll, .controller 0 .poll]
    let c : Controller := {
      id := ⟨1⟩, root := ⟨1⟩, state := .error, fault := some .invalidated, scanPending := false
      disposed := false, members := [], devices := [], changes := none, baseDraw := 20
      maxElements := 512 }
    (empty.run ops).controllerAt (.host 0) = some c ∧ ¬ DisposedFailed (.host 0) ops ∧
      ∀ e, (empty.run ops).site.topology.owner? e ≠ some c.id := by
  intro ops c
  have hc : (empty.run ops).controllerAt (.host 0) = some c := by decide
  obtain ⟨hcoherent, hfailed⟩ := run_coherent_iff ops hc
  exact ⟨hc, hcoherent.1 (iff_of_true rfl rfl), (hfailed rfl).2.1⟩

/-- A bus of two elements is more than the one allowed.  Its controller is disposed of, so it is in no
error state, and still has its fault. -/
theorem fault_outlives_error :
    let ops : List Op := [.topology (.insert ⟨1⟩ [] []), .topology (.insert ⟨2⟩ [] []),
      .topology (.connect ⟨1⟩ none ⟨2⟩ none), .newController ⟨1⟩ { maxElements := 1 },
      .controller 0 .poll, .controller 0 .dispose]
    ∃ c, (empty.run ops).controllerAt (.host 0) = some c ∧ c.state = .scanning ∧
      c.fault = some (.tooComplex 1) ∧ ¬ (c.fault.isSome = true ↔ c.state = .error) := by
  intro ops
  exact ⟨{
    id := ⟨1⟩, root := ⟨1⟩, state := .scanning, fault := some (.tooComplex 1), scanPending := false
    disposed := true, members := [], devices := [], changes := none, baseDraw := 20
    maxElements := 1 }, by decide, rfl, rfl, by decide⟩

end World

end DeviceBus
