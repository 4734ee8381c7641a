import DeviceBus.Proofs.RunStates

/-!
# Observers of the states

An observer that starts from a snapshot and applies every update published since has the run state, the
bus state and the boot error of the machine after every operation, as long as the machine takes over no
record; and no update about one of the three tells it what it had already (`World.states_mirrored`).

Other parts of a host may write to the terminal of the machine and take its output, which
`World.mirror_iff` leaves out; the three states are the machine's alone to change.
-/

namespace DeviceBus

namespace RemoteView

/-- The observer has the states of the machine. -/
structure Shows (v : RemoteView) (m : Machine) : Prop where
  runState : v.runState = m.runState
  busState : v.busState = m.busState
  bootError : v.bootError = m.bootError

/-- An update about a state tells the observer of another state than it has. -/
def IsNews (v : RemoteView) : Update → Prop
  | .runState state => v.runState ≠ state
  | .busState state => v.busState ≠ state
  | .bootError error => v.bootError ≠ error
  | _ => True

/-- Every update of a list is news at its turn. -/
def AllNews (v : RemoteView) (us : List Update) : Prop :=
  ∀ before u after, us = before ++ u :: after → (v.applyAll before).IsNews u

variable {v : RemoteView} {us vs : List Update}

theorem allNews_nil : v.AllNews [] := by
  intro before u after h
  cases before <;> cases h

theorem AllNews.append (h : v.AllNews us) (h' : (v.applyAll us).AllNews vs) : v.AllNews (us ++ vs) := by
  intro before u after hsplit
  rcases List.append_eq_append_iff.1 hsplit with ⟨mid, rfl, hmid⟩ | ⟨mid, hus, hmid⟩
  · rw [applyAll_append]
    exact h' mid u after hmid
  · cases mid with
    | nil =>
      rw [List.append_nil] at hus
      rw [← hus]
      exact h' [] u after hmid.symm
    | cons x mid =>
      obtain ⟨rfl, -⟩ := List.cons.inj hmid
      exact h before u mid hus

theorem AllNews.snoc {u : Update} (h : v.AllNews us) (hu : (v.applyAll us).IsNews u) :
    v.AllNews (us ++ [u]) := by
  refine h.append fun before u' after hsplit => ?_
  cases before with
  | nil =>
    obtain ⟨rfl, -⟩ := List.cons.inj hsplit
    exact hu
  | cons x before =>
    have hnone := (List.cons.inj hsplit).2
    cases before <;> cases hnone

theorem shows_ofSnapshot (m : Machine) (config : TerminalConfig) :
    (ofSnapshot m.snapshot config).Shows m := ⟨rfl, rfl, rfl⟩

end RemoteView

/-! ## What a machine tells -/

/-- Each change of a state of an outlook is published as it is made, to an observer that lacks it. -/
theorem Outlook.Reports.states {o p : Outlook} {us : List Update} (h : o.Reports us p) (v : RemoteView)
    (hrun : v.runState = o.runState) (hbus : v.busState = o.busState)
    (herror : v.bootError = o.bootError) :
    (v.applyAll us).runState = p.runState ∧ (v.applyAll us).busState = p.busState ∧
      (v.applyAll us).bootError = p.bootError ∧ v.AllNews us := by
  induction h with
  | refl => exact ⟨hrun, hbus, herror, RemoteView.allNews_nil⟩
  | runState state _ hne ih =>
    obtain ⟨hrun', hbus', herror', hnews⟩ := ih
    rw [RemoteView.applyAll_append]
    exact ⟨rfl, hbus', herror', hnews.snoc (by rwa [RemoteView.IsNews, hrun'])⟩
  | busState state _ hne ih =>
    obtain ⟨hrun', hbus', herror', hnews⟩ := ih
    rw [RemoteView.applyAll_append]
    exact ⟨hrun', rfl, herror', hnews.snoc (by rwa [RemoteView.IsNews, hbus'])⟩
  | bootError error _ hne ih =>
    obtain ⟨hrun', hbus', herror', hnews⟩ := ih
    rw [RemoteView.applyAll_append]
    exact ⟨hrun', hbus', rfl, hnews.snoc (by rwa [RemoteView.IsNews, herror'])⟩
  | write | input => assumption
  | flush | reset | media =>
    rename_i ih
    obtain ⟨hrun', hbus', herror', hnews⟩ := ih
    rw [RemoteView.applyAll_append]
    exact ⟨hrun', hbus', herror', hnews.snoc trivial⟩

/-- The updates tell every observer of the machine of the states that it has afterwards, and of
nothing that the observer knew. -/
def Machine.Tells (m : Machine) (us : List Update) (m' : Machine) : Prop :=
  ∀ v : RemoteView, v.Shows m → (v.applyAll us).Shows m' ∧ v.AllNews us

namespace Machine

variable {m m' m'' : Machine} {us vs : List Update}

/-- Nothing is told of a change of something else. -/
theorem tells_nil (hrun : m'.runState = m.runState) (hbus : m'.busState = m.busState)
    (herror : m'.bootError = m.bootError) : m.Tells [] m' := fun _ h =>
  ⟨⟨h.runState.trans hrun.symm, h.busState.trans hbus.symm, h.bootError.trans herror.symm⟩,
    RemoteView.allNews_nil⟩

theorem Tells.refl (m : Machine) : m.Tells [] m := tells_nil rfl rfl rfl

theorem Tells.trans (h₁ : m.Tells us m') (h₂ : m'.Tells vs m'') : m.Tells (us ++ vs) m'' := by
  intro v hv
  obtain ⟨hv', hus⟩ := h₁ v hv
  obtain ⟨hv'', hvs⟩ := h₂ _ hv'
  rw [RemoteView.applyAll_append]
  exact ⟨hv'', hus.append hvs⟩

end Machine

namespace Station

/-- A machine that publishes to a queue tells its observers of every change of its states, in every
operation that takes over no record. -/
theorem step_tells {station : Station} (s : Site) {op : MachineOp} {waiting : List Update}
    (hsink : station.machine.sink = .queue waiting) (hload : ∀ r, op ≠ .loadRecord r) :
    ∃ us waiting', station.machine.Tells us (station.step s op).2.1.machine ∧
      (station.step s op).2.1.machine.sink = .queue waiting' ∧
      waiting'.drop waiting.length = us := by
  have hspeaks (h : station.machine.Speaks (station.step s op).2.1.machine) :
      ∃ us waiting', station.machine.Tells us (station.step s op).2.1.machine ∧
        (station.step s op).2.1.machine.sink = .queue waiting' ∧ waiting'.drop waiting.length = us := by
    obtain ⟨us, hreports, hus⟩ := h
    rw [hsink, Sink.foldl_publish_queue] at hus
    refine ⟨us, waiting ++ us, fun v hv => ?_, hus, List.drop_left⟩
    obtain ⟨hrun, hbus, herror, hnews⟩ :=
      hreports.states v hv.runState hv.busState hv.bootError
    exact ⟨⟨hrun, hbus, herror⟩, hnews⟩
  cases op with
  | loadRecord r => exact absurd rfl (hload r)
  | drainUpdates =>
    refine ⟨[], [], Machine.tells_nil rfl rfl rfl, ?_, List.drop_nil⟩
    show station.machine.sink.drain.2 = _
    rw [hsink]
    rfl
  | terminal call => exact ⟨[], waiting, Machine.tells_nil rfl rfl rfl, hsink, List.drop_length⟩
  | _ => exact hspeaks (station.step_speaks s rfl (by simp))

/-- An operation brings a machine into the same states wherever the machine publishes. -/
theorem step_listening_outlook (station : Station) (s : Site) (op : MachineOp) :
    ((World.listening station).step s op).2.1.machine.outlook =
      (station.step s op).2.1.machine.outlook := by
  have hlistening := congrArg (fun p => p.1.machine.outlook) ((World.listening station).step_muted s op)
  have hstation := congrArg (fun p => p.1.machine.outlook) (station.step_muted s op)
  exact hlistening.symm.trans hstation

end Station

namespace World

variable {w : World} {i : Nat} {m : Machine}

/-- The updates that the machine at a position publishes in an operation: those that would come to wait
in a queue in the place of its sink. -/
def told (w : World) (i : Nat) (op : Op) : List Update := (w.listen i).published i op

/-- The updates that the machine at a position publishes in a run. -/
def bulletin (w : World) (i : Nat) (ops : List Op) : List Update := w.log (fun w op => w.told i op) ops

/-- What comes to wait in the queue of a machine tells of its states. -/
theorem step_published_tells {waiting : List Update} (hm : w.machine? i = some m)
    (hsink : m.sink = .queue waiting) {op : Op} (hop : op.takesRecord i = false) :
    ∃ m' waiting', (w.step op).2.machine? i = some m' ∧ m.Tells (w.published i op) m' ∧
      m'.sink = .queue waiting' := by
  obtain ⟨station, hs, rfl⟩ := machine?_eq_some hm
  obtain ⟨station', hs', hcases⟩ := step_station hs op
  have hm' := machine?_of_station hs'
  have hown (mop : MachineOp) (hload : ∀ r, mop ≠ .loadRecord r)
      (hstep : station' = (station.step w.site mop).2.1) :
      ∃ waiting', station.machine.Tells (w.published i op) station'.machine ∧
        station'.machine.sink = .queue waiting' := by
    obtain ⟨us, waiting', htells, hsink', hus⟩ := station.step_tells w.site hsink hload
    rw [← hstep] at htells hsink'
    have hpublished : w.published i op = us := by
      rw [published, waiting_of_station hs, waiting_of_station hs', hsink, hsink']
      exact hus
    rw [hpublished]
    exact ⟨waiting', htells, hsink'⟩
  refine ⟨station'.machine, ?_⟩
  rcases hcases with rfl | hwaited | ⟨mop, rfl, hstep⟩
  · have hnone : w.published i op = [] := by
      rw [published, waiting_of_station hs, waiting_of_station hs', List.drop_length]
    rw [hnone]
    exact ⟨waiting, hm', .refl _, hsink⟩
  · obtain ⟨waiting', h⟩ := hown .quiesce (fun r => by simp) hwaited
    exact ⟨waiting', hm', h⟩
  · have hload : ∀ r, mop ≠ .loadRecord r := by
      rintro r rfl
      exact absurd (decide_eq_true rfl) (ne_true_of_eq_false hop)
    obtain ⟨waiting', h⟩ := hown mop hload hstep
    exact ⟨waiting', hm', h⟩

/-- The machine after an operation has the same states if somebody listens to it. -/
theorem step_listen_machine? (hm : w.machine? i = some m) (op : Op) :
    ∃ m' heard, (w.step op).2.machine? i = some m' ∧
      ((w.listen i).step op).2.machine? i = some heard ∧ heard.Tells [] m' := by
  obtain ⟨station, hs, rfl⟩ := machine?_eq_some hm
  have hlisten := listen_stations hs
  cases hown : op.isOf i with
  | true =>
    cases op with
    | machine j mop =>
      obtain rfl : j = i := of_decide_eq_true hown
      have houtlook := station.step_listening_outlook w.site mop
      exact ⟨_, _, machine?_of_station (step_machine? hs mop),
        machine?_of_station (step_machine? hlisten mop),
        Machine.tells_nil (congrArg Outlook.runState houtlook).symm
          (congrArg Outlook.busState houtlook).symm (congrArg Outlook.bootError houtlook).symm⟩
    | _ => cases hown
  | false =>
    -- at most the worker is waited for, and it changes no state
    obtain ⟨station', hs', hcases⟩ := step_station_other hs hown
    obtain ⟨heard, hheard, hcases'⟩ := step_station_other hlisten hown
    refine ⟨_, _, machine?_of_station hs', machine?_of_station hheard, ?_⟩
    rcases hcases with rfl | rfl <;> rcases hcases' with rfl | rfl <;>
      exact Machine.tells_nil rfl rfl rfl

/-- What a machine publishes tells of its states, wherever it is published. -/
theorem step_told_tells (hm : w.machine? i = some m) {op : Op} (hop : op.takesRecord i = false) :
    ∃ m', (w.step op).2.machine? i = some m' ∧ m.Tells (w.told i op) m' := by
  obtain ⟨station, hs, rfl⟩ := machine?_eq_some hm
  obtain ⟨m', heard, hm', hheard, hsame⟩ := step_listen_machine? hm op
  obtain ⟨heard', waiting', hheard', htells, -⟩ :=
    step_published_tells (machine?_of_station (listen_stations hs)) rfl hop
  rw [hheard] at hheard'
  cases hheard'
  have hlistening : station.machine.Tells [] (listening station).machine :=
    Machine.tells_nil rfl rfl rfl
  have hthrough := (hlistening.trans htells).trans hsame
  rw [List.nil_append, List.append_nil] at hthrough
  exact ⟨m', hm', hthrough⟩

/-! ## Any run -/

/-- What a machine publishes in a run that takes over no record tells of its states. -/
theorem run_told_tells (hm : w.machine? i = some m) {ops : List Op}
    (hops : ∀ op ∈ ops, op.takesRecord i = false) :
    ∃ m', (w.run ops).machine? i = some m' ∧ m.Tells (w.bulletin i ops) m' := by
  induction ops generalizing w m with
  | nil => exact ⟨m, hm, .refl m⟩
  | cons op ops ih =>
    obtain ⟨m₁, hm₁, htells⟩ := step_told_tells hm (hops op List.mem_cons_self)
    obtain ⟨m', hm', hlater⟩ := ih hm₁ fun op' h => hops op' (List.mem_cons_of_mem _ h)
    exact ⟨m', hm', htells.trans hlater⟩

/-- What comes to wait in the queue of a machine in such a run tells of its states. -/
theorem run_updates_tells {waiting : List Update} (hm : w.machine? i = some m)
    (hsink : m.sink = .queue waiting) {ops : List Op} (hops : ∀ op ∈ ops, op.takesRecord i = false) :
    ∃ m', (w.run ops).machine? i = some m' ∧ m.Tells (w.updates i ops) m' := by
  induction ops generalizing w m waiting with
  | nil => exact ⟨m, hm, .refl m⟩
  | cons op ops ih =>
    obtain ⟨m₁, waiting₁, hm₁, htells, hsink₁⟩ :=
      step_published_tells hm hsink (hops op List.mem_cons_self)
    obtain ⟨m', hm', hlater⟩ := ih hm₁ hsink₁ fun op' h => hops op' (List.mem_cons_of_mem _ h)
    exact ⟨m', hm', htells.trans hlater⟩

/-- An observer that starts from a snapshot of a machine and applies every update published since has
the run state, the bus state and the boot error of the machine after any run in which the machine takes
over no record, and no update repeats a value that the observer had.  This holds of what the machine
publishes wherever its updates go, and of what was seen to come into its queue if it has one. -/
theorem states_mirrored {pre post : List Op} {i : Nat} {m : Machine}
    (hm : (empty.run pre).machine? i = some m) (config : TerminalConfig)
    (hpost : ∀ op ∈ post, op.takesRecord i = false) :
    let observer := RemoteView.ofSnapshot m.snapshot config
    ∃ m', (empty.run (pre ++ post)).machine? i = some m' ∧
      ((observer.applyAll ((empty.run pre).bulletin i post)).Shows m' ∧
        observer.AllNews ((empty.run pre).bulletin i post)) ∧
      ∀ waiting, m.sink = .queue waiting →
        (observer.applyAll ((empty.run pre).updates i post)).Shows m' ∧
          observer.AllNews ((empty.run pre).updates i post) := by
  intro observer
  have hshows : observer.Shows m := RemoteView.shows_ofSnapshot m config
  rw [run_append]
  obtain ⟨m', hm', htells⟩ := run_told_tells hm hpost
  refine ⟨m', hm', htells observer hshows, fun waiting hsink => ?_⟩
  obtain ⟨m'', hm'', hqueued⟩ := run_updates_tells hm hsink hpost
  rw [hm'] at hm''
  cases hm''
  exact hqueued observer hshows

/-- An observer joins a machine that loads, and follows it while it is stopped, started into a device
that refuses to attach, suspended and finalized, and while somebody else takes its output. -/
theorem states_mirrored_through_failure :
    let pre : List Op := [.build (.ram (.new ⟨10⟩ 4 0)), .topology (.insert ⟨1⟩ [] [⟨⟨0⟩, ⟨10⟩⟩]),
      .newMachine ⟨1⟩ (.scripted { output := [65] }) {} (.queue [])
        .unmetered,
      .machine 0 .start]
    let post : List Op := [.machine 0 .tick, .machine 0 (.terminal .takeOutput), .machine 0 .stop,
      .topology (.unload ⟨1⟩), .machine 0 .drainUpdates, .machine 0 .tick, .topology (.reload ⟨1⟩),
      .machine 0 (.script fun _ => .scripted { installFault := some ⟨"no"⟩ }),
      .machine 0 .tick, .machine 0 .start, .machine 0 .suspend, .machine 0 .finalize]
    ∃ m m', (empty.run pre).machine? 0 = some m ∧ (∀ op ∈ post, op.takesRecord 0 = false) ∧
      (empty.run (pre ++ post)).machine? 0 = some m' ∧
      Update.runStates ((empty.run pre).bulletin 0 post) =
        [.running, .stopping, .stopped, .loading, .error, .stopped] ∧
      ((RemoteView.ofSnapshot m.snapshot {}).applyAll ((empty.run pre).bulletin 0 post)).Shows m' ∧
      (RemoteView.ofSnapshot m.snapshot {}).AllNews ((empty.run pre).bulletin 0 post) := by
  intro pre post
  have hpost : ∀ op ∈ post, op.takesRecord 0 = false := by simp [post, Op.takesRecord]
  obtain ⟨m, hm⟩ : ∃ m, (empty.run pre).machine? 0 = some m :=
    Option.isSome_iff_exists.1 (by decide +kernel)
  obtain ⟨m', hm', ⟨hshows, hnews⟩, -⟩ := states_mirrored hm {} hpost
  exact ⟨m, m', hm, hpost, hm', by decide +kernel, hshows, hnews⟩

end World

end DeviceBus
