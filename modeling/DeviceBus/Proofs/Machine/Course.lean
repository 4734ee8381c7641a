import DeviceBus.Proofs.Machine.Devices

/-!
# The course of the run state

`m.Passes states m'` says of a piece of a machine's program that it published the run states `states`,
in this order, and ended in the last of them.  Most pieces publish none (`Stays`); a load ends in
`running` or in `error`, and publishes that unless it began there.

    m.Passes (m.runState.towards (m.load hw).1.runState) (m.load hw).1                    (load_arrives)

A start and a finalization publish one run state, a stop two, and a tick at most two.  From there it
follows which run state comes after which (`Station.step_follows`), and what a machine says of itself
whenever no operation is going on (`Poised`, `Explained`).
-/

namespace DeviceBus

/-! ## Run states published -/

/-- The run states among updates. -/
def Update.runStates (us : List Update) : List RunState :=
  us.filterMap fun
    | .runState state => some state
    | _ => none

theorem Update.runStates_append (us vs : List Update) :
    runStates (us ++ vs) = runStates us ++ runStates vs := List.filterMap_append ..

theorem getLastD_append {α : Type} (l l' : List α) (a : α) :
    (l ++ l').getLastD a = l'.getLastD (l.getLastD a) := by
  induction l generalizing a with
  | nil => rfl
  | cons b l ih => rw [List.cons_append, List.getLastD_cons, List.getLastD_cons, ih]

namespace RunState

/-- What is published on the way from a run state to another. -/
def towards (before after : RunState) : List RunState := if before = after then [] else [after]

theorem towards_self (s : RunState) : s.towards s = [] := if_pos rfl

theorem towards_of_ne {s s' : RunState} (h : s ≠ s') : s.towards s' = [s'] := if_neg h

/-- The run states that may follow each other. -/
inductive Precedes : RunState → RunState → Prop
  | start : Precedes .stopped .loading
  | retry : Precedes .error .loading
  | enter : Precedes .loading .running
  | fail : Precedes .loading .error
  | giveUp : Precedes .loading .stopping
  | leave : Precedes .running .stopping
  | fault : Precedes .running .error
  | stop : Precedes .stopping .stopped

/-- The run states that a finalization ends at once. -/
inductive Ends : RunState → Prop
  | loading : Ends .loading
  | running : Ends .running
  | error : Ends .error

end RunState

/-- Whether one run state may follow another in an operation of their machine. -/
def MachineOp.Allows (op : MachineOp) (s s' : RunState) : Prop :=
  s.Precedes s' ∨ op = .finalize ∧ s.Ends ∧ s' = .stopped

namespace Machine

/-- The machine published these run states and no others, and is in the last of them. -/
structure Passes (m : Machine) (states : List RunState) (m' : Machine) : Prop where
  runState : m'.runState = states.getLastD m.runState
  publishes : ∃ us, m'.sink = us.foldl Sink.publish m.sink ∧ Update.runStates us = states

/-- No run state was published, and the boot error and what the next load keeps are the same. -/
structure Stays (m m' : Machine) : Prop where
  passes : m.Passes [] m'
  bootError : m'.bootError = m.bootError
  resume : m'.resume = m.resume

section Passes

variable {m m' m'' : Machine} {states states' : List RunState}

theorem Passes.trans (h₁ : m.Passes states m') (h₂ : m'.Passes states' m'') :
    m.Passes (states ++ states') m'' := by
  obtain ⟨us, hs, hus⟩ := h₁.publishes
  obtain ⟨vs, ht, hvs⟩ := h₂.publishes
  refine ⟨?_, us ++ vs, ?_, ?_⟩
  · rw [h₂.runState, h₁.runState, getLastD_append]
  · rw [ht, hs, List.foldl_append]
  · rw [Update.runStates_append, hus, hvs]

/-- Neither the run state nor what was published changed. -/
theorem passes_nil (hrun : m'.runState = m.runState) (hsink : m'.sink = m.sink) : m.Passes [] m' :=
  ⟨hrun, [], hsink, rfl⟩

theorem Stays.runState (h : m.Stays m') : m'.runState = m.runState := h.passes.runState

theorem stays (hrun : m'.runState = m.runState) (hsink : m'.sink = m.sink)
    (herror : m'.bootError = m.bootError) (hresume : m'.resume = m.resume) : m.Stays m' :=
  ⟨passes_nil hrun hsink, herror, hresume⟩

theorem Stays.refl (m : Machine) : m.Stays m := stays rfl rfl rfl rfl

theorem Stays.trans (h₁ : m.Stays m') (h₂ : m'.Stays m'') : m.Stays m'' :=
  ⟨h₁.passes.trans h₂.passes, h₂.bootError.trans h₁.bootError, h₂.resume.trans h₁.resume⟩

theorem Stays.then (h₁ : m.Stays m') (h₂ : m'.Passes states m'') : m.Passes states m'' :=
  h₁.passes.trans h₂

end Passes

/-! ## Updates -/

theorem setRunState_passes (m : Machine) (state : RunState) :
    m.Passes (m.runState.towards state) (m.setRunState state) := by
  unfold setRunState
  split
  · next h =>
    rw [h, RunState.towards_self]
    exact passes_nil rfl rfl
  · next h =>
    rw [RunState.towards_of_ne h]
    exact ⟨rfl, [.runState state], rfl, rfl⟩

/-- Other updates are no run states. -/
theorem publish_stays (m : Machine) {u : Update} (h : Update.runStates [u] = []) :
    m.Stays (m.publish u) :=
  ⟨⟨rfl, [u], rfl, h⟩, rfl, rfl⟩

theorem setBusState_stays (m : Machine) (state : BusState) : m.Stays (m.setBusState state) := by
  have hstate : m.Stays { m with busState := state } := stays rfl rfl rfl rfl
  unfold setBusState
  split
  · exact .refl m
  · exact hstate.trans (publish_stays { m with busState := state } rfl)

theorem setBootError_passes (m : Machine) (error : Option String) :
    m.Passes [] (m.setBootError error) := by
  have herror : m.Passes [] { m with bootError := error } := passes_nil rfl rfl
  unfold setBootError
  split
  · exact passes_nil rfl rfl
  · exact herror.trans (publish_stays { m with bootError := error } rfl).passes

theorem flushTerminal_stays (m : Machine) : m.Stays m.flushTerminal := by
  unfold flushTerminal
  split
  · exact .refl m
  · next chunk terminal _ =>
    have hterminal : m.Stays { m with terminal } := stays rfl rfl rfl rfl
    exact hterminal.trans (publish_stays { m with terminal } rfl)

theorem resetTerminal_stays (m : Machine) : m.Stays m.resetTerminal := by
  have hterminal : m.Stays { m with terminal := m.terminal.reset } := stays rfl rfl rfl rfl
  exact hterminal.trans (publish_stays { m with terminal := m.terminal.reset } rfl)

theorem foldl_publish_stays {us : List Update} (hus : ∀ u ∈ us, ∃ d p, u = .mediaChanged d p)
    (m : Machine) : m.Stays (us.foldl publish m) := by
  induction us generalizing m with
  | nil => exact .refl m
  | cons u us ih =>
    obtain ⟨device, present, rfl⟩ := hus u List.mem_cons_self
    exact (m.publish_stays rfl).trans (ih (fun v hv => hus v (List.mem_cons_of_mem _ hv)) _)

theorem publishMedia_stays (m : Machine) (hw : Hardware) : m.Stays (m.publishMedia hw) := by
  unfold publishMedia
  split
  · exact .refl m
  · next map _ =>
    have hmedia : m.Stays { m with media := (map.mappings.foldl (lookAtMedium hw) (m.media, [])).1 } :=
      stays rfl rfl rfl rfl
    exact hmedia.trans (foldl_publish_stays
      (foldl_lookAtMedium_media hw map.mappings (m.media, []) (by simp)) _)

/-! ## Pieces that publish no run state -/

theorem stepWorker_stays (m : Machine) (step : WorkerStep) (hw : Hardware) :
    m.Stays (m.stepWorker step hw).1 := stays rfl rfl rfl rfl

theorem releaseDevices_stays (m : Machine) (hw : Hardware) : m.Stays (m.releaseDevices hw).1 := by
  unfold releaseDevices
  split <;> exact stays rfl rfl rfl rfl

theorem drift_stays (m : Machine) (slices : Option Nat) (hw : Hardware) :
    m.Stays (m.drift slices hw).1 :=
  drift_cases (P := fun p => m.Stays p.1) (.refl m) (fun _ => m.stepWorker_stays _ hw) slices

theorem grantAtOnce_stays (m : Machine) (energy : EnergySource) : m.Stays (m.grantAtOnce energy).1 := by
  unfold grantAtOnce
  split
  · exact .refl m
  · dsimp only
    split <;> exact stays rfl rfl rfl rfl

theorem grantTick_stays (m : Machine) (energy : EnergySource) (hw : Hardware) :
    m.Stays (m.grantTick energy hw).1 := by
  rw [grantTick_eq]
  exact (m.drift_stays _ hw).trans (grantAtOnce_stays _ energy)

theorem restoreDevice_stays (m : Machine) (entry : BusDevice) (hw : Hardware) :
    m.Stays (m.restoreDevice entry hw).2.1 := by
  unfold restoreDevice
  split
  · exact .refl m
  · dsimp only
    split <;> exact stays rfl rfl rfl rfl

theorem attachEach_stays (entries : List BusDevice) (ctx : AttachContext) (m : Machine)
    (hw : Hardware) : m.Stays (attachEach entries ctx m hw).2.1 := by
  induction entries generalizing ctx m hw with
  | nil => exact .refl m
  | cons entry rest ih =>
    have hrestore := m.restoreDevice_stays entry hw
    unfold attachEach
    split
    · next he => rwa [he] at hrestore
    · next m' hw' he =>
      rw [he] at hrestore
      split
      · exact hrestore
      · exact hrestore.trans (ih _ m' _)

theorem installDevices_stays (m : Machine) (keepState : Bool) (map : DeviceMap) (hw : Hardware) :
    m.Stays (m.installDevices keepState map hw).2.1 := by
  have hreset : m.Stays (if keepState then (m, hw) else m.resetEmulator hw).1 := by
    split <;> exact stays rfl rfl rfl rfl
  unfold installDevices
  generalize (if keepState then (m, hw) else m.resetEmulator hw) = p at hreset
  obtain ⟨m', hw'⟩ := p
  have hinstall : m'.Stays (m'.install map hw').2.1 := stays rfl rfl rfl rfl
  dsimp only
  split <;> next he => rw [he] at hinstall; exact hreset.trans hinstall

theorem attachAll_stays (m : Machine) (keepState : Bool) (hw : Hardware) :
    m.Stays (m.attachAll keepState hw).2.1 := by
  have hattach := attachEach_stays m.controller.devices (.new m.config) m hw
  unfold attachAll
  split
  · next he => rwa [he] at hattach
  · next ctx m' hw' he =>
    rw [he] at hattach
    exact hattach.trans (m'.installDevices_stays keepState ctx.finish hw')

theorem clear_stays (m : Machine) (hw : Hardware) : m.Stays (m.clear hw).1 :=
  (m.stepWorker_stays Worker.quiesce hw).trans ((m.quiesce hw).1.releaseDevices_stays (m.quiesce hw).2)

theorem observe_stays (m : Machine) (s : Site) : m.Stays (m.observe s).1 := by
  have hcontroller : m.Stays { m with controller := (m.controller.poll s).1 } := stays rfl rfl rfl rfl
  exact hcontroller.trans (setBusState_stays _ _)

theorem saveRecord_stays (m : Machine) (hw : Hardware) : m.Stays (m.saveRecord hw).2.1 :=
  m.stepWorker_stays Worker.quiesce hw

/-! ## Loads -/

/-- A machine after a load: it runs without a boot error, or it is in error with one. -/
structure Arrives (m m' : Machine) : Prop where
  outcome : m'.runState = .running ∧ m'.bootError = none ∨
    m'.runState = .error ∧ m'.bootError.isSome = true
  passes : m.Passes (m.runState.towards m'.runState) m'
  resume : m'.resume = false

theorem settle_passes (m : Machine) (error : Option String) (state : RunState) :
    m.Passes (m.runState.towards state) ((m.setBootError error).setRunState state) := by
  have herror := m.setBootError_passes error
  have hstate := (m.setBootError error).setRunState_passes state
  rw [show (m.setBootError error).runState = m.runState from herror.runState] at hstate
  exact herror.trans hstate

theorem settle_bootError (m : Machine) (error : Option String) (state : RunState) :
    ((m.setBootError error).setRunState state).bootError = error :=
  (setRunState_bootError _ _).trans (setBootError_bootError _ _)

theorem halt_arrives (m : Machine) (error : BootError) (hw : Hardware) :
    m.Arrives (m.halt error hw).1 := by
  have hcancel : m.Stays (m.cancel hw).1 := m.stepWorker_stays Worker.cancel hw
  unfold halt
  generalize m.cancel hw = p at hcancel
  obtain ⟨m₁, hw₁⟩ := p
  have hreleased := hcancel.trans (m₁.releaseDevices_stays hw₁)
  dsimp only
  generalize m₁.releaseDevices hw₁ = p at hreleased
  obtain ⟨m₂, hw₂⟩ := p
  have hresume : m₂.Passes [] { m₂ with resume := false } := passes_nil rfl rfl
  have hrun : m₂.runState = m.runState := hreleased.runState
  refine ⟨.inr ⟨setRunState_runState _ _, ?_⟩, ?_, (settle_sameInside _ _ _).resume⟩
  · rw [settle_bootError]
    rfl
  · rw [setRunState_runState, ← hrun]
    exact hreleased.then (hresume.trans (settle_passes _ _ _))

theorem Stays.arrives {m m' m'' : Machine} (h : m.Stays m') (h' : m'.Arrives m'') : m.Arrives m'' := by
  have hpasses := h.then h'.passes
  rw [h.runState] at hpasses
  exact ⟨h'.outcome, hpasses, h'.resume⟩

theorem enter_arrives {m : Machine} (hresume : m.resume = false) (keepState : Bool)
    (map : DeviceMap) (hw : Hardware) : m.Arrives (m.enter keepState map hw).1 := by
  obtain ⟨_, worker, -, ⟨-, -, he⟩ | ⟨reason, -, -, he⟩⟩ := m.enter_cases keepState map hw
  all_goals
    have hseated : m.Stays { m with map := some map, media := .empty, worker } := stays rfl rfl rfl rfl
    rw [he]
  · refine hseated.arrives ⟨.inl ⟨setRunState_runState _ _, settle_bootError _ _ _⟩, ?_,
      (settle_sameInside _ _ _).resume.trans hresume⟩
    rw [setRunState_runState]
    exact settle_passes _ _ _
  · exact hseated.arrives (halt_arrives _ (.io reason) hw)

/-- A load ends in `running` or in `error`, wherever it fails. -/
theorem load_arrives (m : Machine) (hw : Hardware) : m.Arrives (m.load hw).1 := by
  have hresume : m.Passes [] { m with resume := false } := passes_nil rfl rfl
  have hquiesce := ({ m with resume := false } : Machine).stepWorker_stays Worker.quiesce hw
  have hload : ({ m with resume := false } : Machine).Arrives (m.load hw).1 := by
    unfold load
    refine Stays.arrives hquiesce ?_
    generalize hq : ({ m with resume := false } : Machine).stepWorker Worker.quiesce hw = q at hquiesce
    rw [show ({ m with resume := false } : Machine).quiesce hw = q from hq]
    obtain ⟨m₁, hw₁⟩ := q
    have hattach := m₁.attachAll_stays m.resume hw₁
    dsimp only
    generalize m₁.attachAll m.resume hw₁ = r at hattach
    obtain ⟨result, m₂, hw₂⟩ := r
    cases result with
    | ok map => exact hattach.arrives (enter_arrives (hattach.resume.trans hquiesce.resume) _ _ _)
    | error e => exact hattach.arrives (m₂.halt_arrives e hw₂)
  exact ⟨hload.outcome, hresume.trans hload.passes, hload.resume⟩

/-! ## What is kept -/

/-- What holds of the run state whenever no operation is going on. -/
structure Poised (m : Machine) : Prop where
  /-- A stop is over when it returns. -/
  runState : m.runState ≠ .stopping
  /-- A load that is waited for is a boot. -/
  resume : m.runState = .loading → m.resume = false

/-- The boot error is there when it is called for. -/
structure Explained (m : Machine) : Prop where
  error : m.runState = .error → m.bootError.isSome = true
  running : m.runState = .running → m.bootError = none

/-- The run states published from one machine to the other may follow each other in an operation, and
what holds between operations is kept. -/
structure Follows (op : MachineOp) (m m' : Machine) : Prop where
  course : ∃ states, m.Passes states m' ∧ List.IsChain op.Allows (m.runState :: states)
  poised : m.Poised → m'.Poised
  explained : m.Explained → m'.Explained

theorem isChain_append {R : RunState → RunState → Prop} {s : RunState} {states states' : List RunState}
    (h : List.IsChain R (s :: states)) (h' : List.IsChain R (states.getLastD s :: states')) :
    List.IsChain R (s :: (states ++ states')) := by
  induction states generalizing s with
  | nil => exact h'
  | cons t states ih =>
    rw [List.isChain_cons_cons] at h
    rw [List.getLastD_cons] at h'
    exact List.isChain_cons_cons.2 ⟨h.1, ih h.2 h'⟩

section Follows

variable {op : MachineOp} {m m' m'' : Machine}

theorem Follows.trans (h₁ : Follows op m m') (h₂ : Follows op m' m'') : Follows op m m'' := by
  obtain ⟨states, hpasses, hchain⟩ := h₁.course
  obtain ⟨states', hpasses', hchain'⟩ := h₂.course
  rw [hpasses.runState] at hchain'
  exact ⟨⟨states ++ states', hpasses.trans hpasses', isChain_append hchain hchain'⟩,
    fun h => h₂.poised (h₁.poised h), fun h => h₂.explained (h₁.explained h)⟩

theorem Stays.follows (h : m.Stays m') : Follows op m m' where
  course := ⟨[], h.passes, .singleton _⟩
  poised hm := by
    refine ⟨?_, fun hrun => ?_⟩
    · rw [h.runState]
      exact hm.runState
    · rw [h.resume]
      exact hm.resume (h.runState.symm.trans hrun)
  explained hm := by
    refine ⟨fun hrun => ?_, fun hrun => ?_⟩
    · rw [h.bootError]
      exact hm.error (h.runState.symm.trans hrun)
    · rw [h.bootError]
      exact hm.running (h.runState.symm.trans hrun)

theorem Follows.refl (op : MachineOp) (m : Machine) : Follows op m m := (Stays.refl m).follows

theorem resume_follows (hrun : m.runState = .running) : Follows op m { m with resume := true } where
  course := ⟨[], passes_nil rfl rfl, .singleton _⟩
  poised _ := by
    refine ⟨fun hstate => ?_, fun hstate => ?_⟩ <;> cases hrun.symm.trans hstate
  explained hm := ⟨hm.error, hm.running⟩

/-- A machine that waits to be loaded, or runs, may arrive. -/
theorem Arrives.follows (h : m.Arrives m') (hrun : m.runState = .loading ∨ m.runState = .running) :
    Follows op m m' where
  course := by
    refine ⟨_, h.passes, ?_⟩
    have hallowed : m.runState ≠ m'.runState → op.Allows m.runState m'.runState := by
      intro hne
      rcases hrun with hrun | hrun <;> rcases h.outcome with ⟨hout, -⟩ | ⟨hout, -⟩ <;>
        rw [hrun, hout] at hne ⊢
      · exact .inl .enter
      · exact .inl .fail
      · exact absurd rfl hne
      · exact .inl .fault
    by_cases hsame : m.runState = m'.runState
    · rw [hsame, RunState.towards_self]
      exact .singleton _
    · rw [RunState.towards_of_ne hsame]
      exact List.isChain_cons_cons.2 ⟨hallowed hsame, .singleton _⟩
  poised _ := by
    refine ⟨fun hstate => ?_, fun _ => h.resume⟩
    rcases h.outcome with ⟨hout, -⟩ | ⟨hout, -⟩ <;> cases hout.symm.trans hstate
  explained _ := by
    refine ⟨fun hstate => ?_, fun hstate => ?_⟩
    · rcases h.outcome with ⟨hout, -⟩ | ⟨-, herror⟩
      · cases hout.symm.trans hstate
      · exact herror
    · rcases h.outcome with ⟨-, herror⟩ | ⟨hout, -⟩
      · exact herror
      · cases hout.symm.trans hstate

end Follows

/-! ## Starting and stopping -/

theorem accept_follows {m : Machine} (op : MachineOp) (h : m.startable = true) :
    Follows op m m.accept where
  course := by
    have hresume : m.Passes [] { m with resume := false } := passes_nil rfl rfl
    have haccept : m.Passes (m.runState.towards .loading) m.accept :=
      hresume.trans (setRunState_passes _ _)
    have hrun : m.runState = .stopped ∨ m.runState = .error := by simpa [startable] using h
    rcases hrun with hrun | hrun
    · rw [hrun] at haccept ⊢
      exact ⟨_, haccept, List.isChain_cons_cons.2 ⟨.inl .start, .singleton _⟩⟩
    · rw [hrun] at haccept ⊢
      exact ⟨_, haccept, List.isChain_cons_cons.2 ⟨.inl .retry, .singleton _⟩⟩
  poised _ := by
    refine ⟨fun hstate => ?_, fun _ => (setRunState_sameInside _ _).resume⟩
    cases (setRunState_runState { m with resume := false } .loading).symm.trans hstate
  explained _ := by
    refine ⟨fun hstate => ?_, fun hstate => ?_⟩ <;>
      cases (setRunState_runState { m with resume := false } .loading).symm.trans hstate

/-- A start that loads begins the load in `loading`, with nothing to keep. -/
theorem startLoad?_moment {m : Machine} {hw : Hardware} {p : Machine × Hardware}
    (h : m.startLoad? hw = some p) : m.startable = true ∧ p = (m.accept, hw) := by
  unfold startLoad? at h
  split at h
  · next hc =>
    cases h
    exact ⟨hc.1, rfl⟩
  · cases h

theorem start_follows (op : MachineOp) (m : Machine) (hw : Hardware) :
    Follows op m (m.start hw).2.1 := by
  cases hload : m.startLoad? hw with
  | some p =>
    obtain ⟨hstart, rfl⟩ := startLoad?_moment hload
    rw [start_of_some hload]
    exact (accept_follows op hstart).trans
      ((m.accept.load_arrives hw).follows (.inl (setRunState_runState _ _)))
  | none =>
    rw [start_of_none hload]
    dsimp only
    split
    · next hstart => exact accept_follows op hstart
    · exact .refl op m

theorem stop_follows (op : MachineOp) (m : Machine) (hw : Hardware) :
    Follows op m (m.stop hw).1 := by
  unfold stop
  split
  · next hrun =>
    have hstopping := m.setRunState_passes .stopping
    have hwait : (m.setRunState .stopping).Stays ((m.setRunState .stopping).cancel hw).1 :=
      stepWorker_stays _ Worker.cancel hw
    generalize (m.setRunState .stopping).cancel hw = p at hwait
    obtain ⟨m₁, hw₁⟩ := p
    have hreleased := hwait.trans (m₁.releaseDevices_stays hw₁)
    dsimp only
    generalize m₁.releaseDevices hw₁ = p at hreleased
    obtain ⟨m₂, hw₂⟩ := p
    have hresume : m₂.Passes [] { m₂ with resume := false } := passes_nil rfl rfl
    have hreset := hresume.trans (resetTerminal_stays { m₂ with resume := false }).passes
    have hstopped := setRunState_passes ({ m₂ with resume := false } : Machine).resetTerminal .stopped
    have hstate : m₂.runState = .stopping := hreleased.runState.trans (setRunState_runState _ _)
    have hbetween := (hstopping.trans hreleased.passes).trans (hreset.trans hstopped)
    refine ⟨⟨_, hbetween, ?_⟩, fun _ => ?_, fun _ => ?_⟩
    · show List.IsChain op.Allows
        (m.runState :: (m.runState.towards .stopping ++ [] ++ ([] ++ m₂.runState.towards .stopped)))
      rw [hstate]
      rcases hrun with hrun | hrun <;> rw [hrun]
      · exact List.isChain_cons_cons.2 ⟨.inl .leave,
          List.isChain_cons_cons.2 ⟨.inl .stop, .singleton _⟩⟩
      · exact List.isChain_cons_cons.2 ⟨.inl .giveUp,
          List.isChain_cons_cons.2 ⟨.inl .stop, .singleton _⟩⟩
    · refine ⟨fun h => ?_, fun h => ?_⟩ <;> cases (setRunState_runState _ _).symm.trans h
    · refine ⟨fun h => ?_, fun h => ?_⟩ <;> cases (setRunState_runState _ _).symm.trans h
  · exact .refl op m

/-! ## Ticks -/

/-- A swap that loads begins the load in `running`, with all to keep. -/
theorem absorbLoad?_moment {m : Machine} {hw : Hardware} {p : Machine × Hardware}
    (h : m.absorbLoad? hw = some p) :
    ∃ m', m.Stays m' ∧ m'.runState = .running ∧ p.1 = { m' with resume := true } := by
  have hchanges : m.Stays { m with controller := m.controller.takeChanges.2 } := stays rfl rfl rfl rfl
  have hclear := hchanges.trans (clear_stays { m with controller := m.controller.takeChanges.2 } hw)
  unfold absorbLoad? swapLoad? at h
  dsimp only at h
  split at h
  · split at h
    · next hc =>
      cases h
      exact ⟨_, hclear, hc.1, rfl⟩
    · cases h
  · cases h

/-- The rest of a tick begins a load in `loading`, or in `running` with all to keep. -/
theorem proceedLoad?_moment {m : Machine} {hw : Hardware} {p : Machine × Hardware}
    (h : m.proceedLoad? hw = some p) :
    m.runState = .loading ∧ p = (m, hw) ∨
      m.runState = .running ∧ p = ({ m with resume := true }, hw) := by
  unfold proceedLoad? at h
  split at h
  · next hrun _ =>
    cases h
    exact .inl ⟨hrun, rfl⟩
  · next hrun _ =>
    split at h
    · cases h
      exact .inr ⟨hrun, rfl⟩
    · cases h
  · cases h

theorem absorbChanges_follows (op : MachineOp) (m : Machine) (hw : Hardware) :
    Follows op m (m.absorbChanges hw).1 := by
  cases hload : m.absorbLoad? hw with
  | some p =>
    obtain ⟨m', hstays, hrun, hp⟩ := absorbLoad?_moment hload
    have harrives := p.1.load_arrives p.2
    rw [absorbChanges_of_some hload]
    rw [hp] at harrives ⊢
    exact (hstays.follows.trans (resume_follows hrun)).trans (harrives.follows (.inr hrun))
  | none =>
    have hchanges : m.Stays { m with controller := m.controller.takeChanges.2 } :=
      stays rfl rfl rfl rfl
    rw [absorbChanges_of_none hload]
    dsimp only
    split
    · exact (hchanges.trans (clear_stays _ hw)).follows
    · exact hchanges.follows

theorem step_follows (op : MachineOp) {m : Machine} (hrun : m.runState = .running)
    (energy : EnergySource) (hw : Hardware) : Follows op m (m.step energy hw).1 := by
  unfold step
  split
  · next fault worker _ =>
    have hworker : m.Stays { m with worker } := stays rfl rfl rfl rfl
    exact hworker.follows.trans
      ((halt_arrives { m with worker } (.emulation fault) hw).follows (.inr hrun))
  · exact (m.grantTick_stays energy hw).follows

theorem proceed_follows (op : MachineOp) (m : Machine) (energy : EnergySource) (hw : Hardware) :
    Follows op m (m.proceed energy hw).1 := by
  cases hload : m.proceedLoad? hw with
  | some p =>
    rw [proceed_of_some hload]
    rcases proceedLoad?_moment hload with ⟨hrun, rfl⟩ | ⟨hrun, rfl⟩
    · exact (m.load_arrives hw).follows (.inl hrun)
    · exact (resume_follows hrun).trans
        ((load_arrives { m with resume := true } hw).follows (.inr hrun))
  | none =>
    rcases proceed_of_none hload energy with he | ⟨hrun, -, he⟩
    · rw [he]
      exact .refl op m
    · rw [he]
      exact step_follows op hrun energy hw

theorem tick_follows (op : MachineOp) (m : Machine) (energy : EnergySource) (s : Site) :
    Follows op m (m.tick energy s).1 := by
  have hobserve : Follows op m (m.observe s).1 := (m.observe_stays s).follows
  rw [tick_eq]
  generalize m.observe s = p at hobserve
  obtain ⟨m₁, s₁⟩ := p
  have habsorb := hobserve.trans (m₁.absorbChanges_follows op s₁.hardware)
  dsimp only
  generalize m₁.absorbChanges s₁.hardware = p at habsorb
  obtain ⟨m₂, hw₂⟩ := p
  have hproceed := habsorb.trans (m₂.proceed_follows op energy hw₂)
  dsimp only
  generalize m₂.proceed energy hw₂ = p at hproceed
  obtain ⟨m₃, energy₃, hw₃⟩ := p
  exact hproceed.trans (m₃.flushTerminal_stays.trans (publishMedia_stays _ hw₃)).follows

/-! ## Suspension and records -/

theorem suspend_follows (op : MachineOp) (m : Machine) (s : Site) : Follows op m (m.suspend s).1 := by
  have hshutdown : m.Stays (m.shutdown s.hardware).1 := m.stepWorker_stays Worker.shutdown s.hardware
  unfold suspend
  generalize m.shutdown s.hardware = p at hshutdown
  obtain ⟨m₁, hw₁⟩ := p
  have hreleased := hshutdown.trans (m₁.releaseDevices_stays (m₁.noteCall .releaseScratch hw₁))
  dsimp only
  generalize m₁.releaseDevices (m₁.noteCall .releaseScratch hw₁) = p at hreleased
  obtain ⟨m₂, hw₂⟩ := p
  have hresume : Follows op m₂ (if m₂.runState = .running then { m₂ with resume := true } else m₂) := by
    split
    · next hrun => exact resume_follows hrun
    · exact .refl op m₂
  dsimp only
  generalize (if m₂.runState = .running then { m₂ with resume := true } else m₂) = m₃ at hresume
  have hdispose : m₃.Stays { m₃ with controller := (m₃.controller.dispose s.topology).1 } :=
    stays rfl rfl rfl rfl
  exact (hreleased.follows.trans hresume).trans hdispose.follows

theorem finalize_follows (m : Machine) (s : Site) : Follows .finalize m (m.finalize s).1 := by
  have hsuspend := m.suspend_follows .finalize s
  unfold finalize
  generalize m.suspend s = p at hsuspend
  obtain ⟨m₁, s₁⟩ := p
  dsimp only
  generalize m₁.controller.devices.foldl (fun hw d => hw.finalize d.device.handle) s₁.hardware = hw₁
  have hcleared : m₁.Passes [] { (m₁.resetEmulator hw₁).1 with
      pendingStates := .empty, media := .empty, resume := false } := passes_nil rfl rfl
  generalize hm₂ : { (m₁.resetEmulator hw₁).1 with
      pendingStates := .empty, media := .empty, resume := false } = m₂ at hcleared
  have hended : m₁.Passes (m₁.runState.towards .stopped)
      ((m₂.resetTerminal.setBootError none).setRunState .stopped) := by
    have hsettle := m₂.resetTerminal.settle_passes none .stopped
    have hreset := hcleared.trans m₂.resetTerminal_stays.passes
    have hrun : m₂.resetTerminal.runState = m₁.runState := hreset.runState
    rw [← hrun]
    exact hreset.trans hsettle
  refine hsuspend.trans ⟨⟨_, hended, ?_⟩, fun _ => ?_, fun _ => ?_⟩
  · cases hrun : m₁.runState with
    | stopped => exact .singleton _
    | loading => exact List.isChain_cons_cons.2 ⟨.inr ⟨rfl, .loading, rfl⟩, .singleton _⟩
    | running => exact List.isChain_cons_cons.2 ⟨.inr ⟨rfl, .running, rfl⟩, .singleton _⟩
    | stopping => exact List.isChain_cons_cons.2 ⟨.inl .stop, .singleton _⟩
    | error => exact List.isChain_cons_cons.2 ⟨.inr ⟨rfl, .error, rfl⟩, .singleton _⟩
  · refine ⟨fun h => ?_, fun h => ?_⟩ <;> cases (setRunState_runState _ _).symm.trans h
  · refine ⟨fun h => ?_, fun h => ?_⟩ <;> cases (setRunState_runState _ _).symm.trans h

/-- A record puts no machine in `stopping`, and has it keep the state of its emulator only if it is to
run on. -/
theorem adoptRecord_poised (m : Machine) (r : Record) : (m.adoptRecord r).Poised := by
  refine ⟨?_, fun hrun => ?_⟩
  · show recordedRunState r ≠ .stopping
    unfold recordedRunState
    split
    · simp
    · simp
    · next state hne _ => exact hne
  · show decide (recordedRunState r = .running) = false
    rw [show recordedRunState r = .loading from hrun]
    rfl

theorem rejectEmulation_poised {m : Machine} (h : m.Poised) (fault : Fault) :
    (m.rejectEmulation fault).Poised := by
  unfold rejectEmulation
  dsimp only
  split
  · refine ⟨fun hstate => ?_, fun hstate => ?_⟩ <;> cases hstate
  · exact ⟨h.runState, fun _ => rfl⟩

theorem loadRecord_poised (m : Machine) (r : Record) (hw : Hardware) : (m.loadRecord r hw).1.Poised := by
  unfold loadRecord
  dsimp only
  generalize (m.cancel hw).1.releaseDevices (m.cancel hw).2 = p
  have hadopt := p.1.adoptRecord_poised r
  generalize p.1.adoptRecord r = m₁ at hadopt
  split
  · exact hadopt
  · unfold restoreEmulator
    split
    · next m₂ hw₂ he =>
      split at he
      · cases he
        exact ⟨hadopt.runState, hadopt.resume⟩
      · cases he
    · next fault m₂ hw₂ he =>
      split at he
      · cases he
      · cases he
        exact rejectEmulation_poised hadopt fault

end Machine

/-! ## Operations -/

namespace Station

/-- Draining its updates leaves a machine as it was, up to the queue. -/
theorem drainUpdates_machine (station : Station) (s : Site) :
    (station.step s .drainUpdates).2.1.machine =
      { station.machine with sink := station.machine.sink.drain.2 } := rfl

/-- In an operation that takes over no record, run states follow each other as they may. -/
theorem step_follows (station : Station) (s : Site) {op : MachineOp} (hdrain : op ≠ .drainUpdates)
    (hload : ∀ r, op ≠ .loadRecord r) :
    Machine.Follows op station.machine (station.step s op).2.1.machine := by
  have hworker (step : Machine.WorkerStep) := station.machine.stepWorker_stays step s.hardware
  have hcontroller (controller : Controller) : station.machine.Stays { station.machine with controller } :=
    Machine.stays rfl rfl rfl rfl
  have hterminal (terminal : Terminal) : station.machine.Stays { station.machine with terminal } :=
    Machine.stays rfl rfl rfl rfl
  have hemulator (emulator : Emulator) : station.machine.Stays { station.machine with emulator } :=
    Machine.stays rfl rfl rfl rfl
  cases op with
  | start => exact station.machine.start_follows _ s.hardware
  | stop => exact station.machine.stop_follows _ s.hardware
  | tick => exact station.machine.tick_follows _ station.energy s
  | advance slices => exact (hworker (Worker.progress · slices)).follows
  | quiesce => exact (hworker Worker.quiesce).follows
  | suspend => exact station.machine.suspend_follows _ s
  | finalize => exact station.machine.finalize_follows s
  | scheduleScan => exact (hcontroller _).follows
  | recharge amount simulate => exact .refl _ _
  | terminal call => exact (hterminal _).follows
  | script change => exact (hemulator _).follows
  | platform platform => exact Machine.Stays.follows (Machine.stays rfl rfl rfl rfl)
  | readMemory address count =>
    have hread : (readMemory station.machine address count s.hardware).2.1 = station.machine := by
      unfold readMemory
      split <;> rfl
    show Machine.Follows _ station.machine (readMemory station.machine address count s.hardware).2.1
    rw [hread]
    exact .refl _ _
  | writeMemory address data =>
    have hwrite : (writeMemory station.machine address data s.hardware).2.1 = station.machine := by
      unfold writeMemory
      split <;> rfl
    show Machine.Follows _ station.machine (writeMemory station.machine address data s.hardware).2.1
    rw [hwrite]
    exact .refl _ _
  | drainUpdates => exact absurd rfl hdrain
  | saveRecord => exact (station.machine.saveRecord_stays s.hardware).follows
  | loadRecord r => exact absurd rfl (hload r)

theorem step_poised {station : Station} (s : Site) (op : MachineOp) (h : station.machine.Poised) :
    (station.step s op).2.1.machine.Poised := by
  by_cases hdrain : op = .drainUpdates
  · subst hdrain
    rw [drainUpdates_machine]
    exact ⟨h.runState, h.resume⟩
  · by_cases hload : ∃ r, op = .loadRecord r
    · obtain ⟨r, rfl⟩ := hload
      exact station.machine.loadRecord_poised r s.hardware
    · exact (station.step_follows s hdrain fun r hr => hload ⟨r, hr⟩).poised h

end Station

/-- Whatever was done to a machine, it is not in `stopping` when the operation is over, and a load that
it waits for is a boot. -/
theorem World.run_poised (ops : List Op) {i : Nat} {m : Machine}
    (hm : (empty.run ops).machine? i = some m) : m.Poised := by
  refine machine_induction (I := fun _ m => m.Poised) ?_ ?_ ops hm
  · intro i root emulator config sink t
    exact ⟨(fun h => nomatch h), fun _ => rfl⟩
  · intro i station s op h
    exact Station.step_poised s op h

end DeviceBus
