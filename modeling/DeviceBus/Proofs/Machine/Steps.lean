import DeviceBus.Proofs.Journal
import DeviceBus.Proofs.Machine.Outlook
import DeviceBus.Proofs.Worker

/-!
# What the pieces of a machine do

A machine's operations are put together from pieces: waiting for the worker, releasing devices,
loading, halting.  `Machine.Acts P` says of such a piece that it leaves the name, the settings and the
controller alone, publishes what it changes of the outlook, and makes calls of the kind `P` only.
There is one lemma for each piece, and an operation's lemma is composed from those of its pieces.
-/

namespace DeviceBus

open Event (Plain Outside Own)

section

variable {P : Event → Prop} (hread : ∀ h offset count, P (.device h (.readMemory offset count)))
  (hwrite : ∀ h offset data, P (.device h (.writeMemory offset data)))

include hread hwrite

theorem DemoMachine.checkMemory_adds (map : DeviceMap) (hw : Hardware) :
    hw.Adds P (checkMemory map hw).2 := by
  unfold checkMemory
  split
  · exact .refl _ hw
  · next h offset _ =>
    have hwritten : hw.Adds P (hw.writeMemory h offset signature) :=
      Hardware.writeMemory_adds (hwrite h offset signature)
    exact hwritten.trans (Hardware.readMemory_adds (hread h offset _))

theorem DemoMachine.install_adds (m : DemoMachine) (map : DeviceMap) (hw : Hardware) :
    hw.Adds P (m.install map hw).2.2 := by
  have h := checkMemory_adds hread hwrite map hw
  unfold install
  dsimp only
  split <;> next he => rwa [he] at h

/-- An emulator touches the memory of the devices it is given, and nothing else of them. -/
theorem Emulator.install_adds (e : Emulator) (map : DeviceMap) (hw : Hardware) :
    hw.Adds P (e.install map hw).2.2 := by
  unfold install
  cases e with
  | demo m => exact m.install_adds hread hwrite map hw
  | scripted s => exact .refl _ hw

end

namespace Machine

/-! ## Two relations -/

/-- The machine published what changed of its outlook. -/
def Speaks (m m' : Machine) : Prop :=
  ∃ us, m.outlook.Reports us m'.outlook ∧ m'.sink = us.foldl Sink.publish m.sink

theorem Speaks.refl (m : Machine) : m.Speaks m := ⟨[], .refl, rfl⟩

theorem Speaks.trans {m m' m'' : Machine} (h₁ : m.Speaks m') (h₂ : m'.Speaks m'') : m.Speaks m'' := by
  obtain ⟨us, hus, hs⟩ := h₁
  obtain ⟨vs, hvs, ht⟩ := h₂
  refine ⟨us ++ vs, hus.trans hvs, ?_⟩
  rw [ht, hs, List.foldl_append]

/-- Besides, name, settings, controller and the bus state that observers know are as they were. -/
structure Relays (m m' : Machine) : Prop where
  id : m'.id = m.id
  config : m'.config = m.config
  controller : m'.controller = m.controller
  busState : m'.busState = m.busState
  speaks : m.Speaks m'

theorem Relays.refl (m : Machine) : m.Relays m := ⟨rfl, rfl, rfl, rfl, .refl m⟩

theorem Relays.trans {m m' m'' : Machine} (h₁ : m.Relays m') (h₂ : m'.Relays m'') : m.Relays m'' :=
  ⟨h₂.id.trans h₁.id, h₂.config.trans h₁.config, h₂.controller.trans h₁.controller,
    h₂.busState.trans h₁.busState, h₁.speaks.trans h₂.speaks⟩

/-- The machines differ at most in what observers see: the states, the boot error, the terminal, the
media and the updates. -/
structure SameInside (m m' : Machine) : Prop where
  id : m'.id = m.id
  config : m'.config = m.config
  controller : m'.controller = m.controller
  worker : m'.worker = m.worker
  emulator : m'.emulator = m.emulator
  map : m'.map = m.map
  resume : m'.resume = m.resume
  pendingStates : m'.pendingStates = m.pendingStates
  platform : m'.platform = m.platform

theorem SameInside.refl (m : Machine) : m.SameInside m := ⟨rfl, rfl, rfl, rfl, rfl, rfl, rfl, rfl, rfl⟩

theorem SameInside.trans {m m' m'' : Machine} (h₁ : m.SameInside m') (h₂ : m'.SameInside m'') :
    m.SameInside m'' :=
  ⟨h₂.id.trans h₁.id, h₂.config.trans h₁.config, h₂.controller.trans h₁.controller,
    h₂.worker.trans h₁.worker, h₂.emulator.trans h₁.emulator, h₂.map.trans h₁.map,
    h₂.resume.trans h₁.resume, h₂.pendingStates.trans h₁.pendingStates, h₂.platform.trans h₁.platform⟩

/-- A machine and the devices, before and after a piece of its program that makes calls of the kind
`P`. -/
structure Acts (P : Event → Prop) (before after : Machine × Hardware) : Prop where
  relays : before.1.Relays after.1
  adds : before.2.Adds P after.2

section Acts

variable {P Q : Event → Prop} {a b c : Machine × Hardware}

theorem Acts.refl (P : Event → Prop) (a : Machine × Hardware) : Acts P a a := ⟨.refl _, .refl P _⟩

theorem Acts.trans (h₁ : Acts P a b) (h₂ : Acts P b c) : Acts P a c :=
  ⟨h₁.relays.trans h₂.relays, h₁.adds.trans h₂.adds⟩

theorem Acts.mono (h : Acts P a b) (hPQ : ∀ e, P e → Q e) : Acts Q a b :=
  ⟨h.relays, h.adds.mono hPQ⟩

/-- A change of the machine alone. -/
theorem Relays.acts {m m' : Machine} (h : m.Relays m') (hw : Hardware) : Acts P (m, hw) (m', hw) :=
  ⟨h, .refl P hw⟩

end Acts

theorem Acts.outside {a b : Machine × Hardware} (h : Acts Plain a b) : Acts Outside a b :=
  h.mono fun _ he => he.1

theorem Acts.own {a b : Machine × Hardware} (id : MachineId) (h : Acts Outside a b) :
    Acts (Own id) a b := h.mono fun _ => .inl

/-! ## Updates -/

theorem setRunState_sameInside (m : Machine) (state : RunState) :
    m.SameInside (m.setRunState state) := by
  unfold setRunState
  split <;> exact ⟨rfl, rfl, rfl, rfl, rfl, rfl, rfl, rfl, rfl⟩

theorem setBootError_sameInside (m : Machine) (error : Option String) :
    m.SameInside (m.setBootError error) := by
  unfold setBootError
  split <;> exact ⟨rfl, rfl, rfl, rfl, rfl, rfl, rfl, rfl, rfl⟩

/-- Setting the boot error and then the run state is how a load ends, well or not. -/
theorem settle_sameInside (m : Machine) (error : Option String) (state : RunState) :
    m.SameInside ((m.setBootError error).setRunState state) :=
  (m.setBootError_sameInside error).trans (setRunState_sameInside _ state)

theorem setBusState_sameInside (m : Machine) (state : BusState) :
    m.SameInside (m.setBusState state) := by
  unfold setBusState
  split <;> exact ⟨rfl, rfl, rfl, rfl, rfl, rfl, rfl, rfl, rfl⟩

theorem flushTerminal_sameInside (m : Machine) : m.SameInside m.flushTerminal := by
  unfold flushTerminal
  split <;> exact ⟨rfl, rfl, rfl, rfl, rfl, rfl, rfl, rfl, rfl⟩

theorem foldl_publish_sameInside (us : List Update) (m : Machine) :
    m.SameInside (us.foldl publish m) := by
  induction us generalizing m with
  | nil => exact .refl m
  | cons u us ih =>
    have hpublish : m.SameInside (m.publish u) := ⟨rfl, rfl, rfl, rfl, rfl, rfl, rfl, rfl, rfl⟩
    exact hpublish.trans (ih (m.publish u))

theorem publishMedia_sameInside (m : Machine) (hw : Hardware) : m.SameInside (m.publishMedia hw) := by
  unfold publishMedia
  split
  · exact .refl m
  · next map _ =>
    have hmedia : m.SameInside
        { m with media := (map.mappings.foldl (lookAtMedium hw) (m.media, [])).1 } :=
      ⟨rfl, rfl, rfl, rfl, rfl, rfl, rfl, rfl, rfl⟩
    exact hmedia.trans (foldl_publish_sameInside _ _)

theorem publish_media_relays (m : Machine) (device : DeviceId) (present : Bool) :
    m.Relays (m.publish (.mediaChanged device present)) :=
  ⟨rfl, rfl, rfl, rfl, [.mediaChanged device present], .media device present .refl, rfl⟩

theorem setRunState_relays (m : Machine) (state : RunState) : m.Relays (m.setRunState state) := by
  unfold setRunState
  split
  · exact .refl m
  · next hne => exact ⟨rfl, rfl, rfl, rfl, [.runState state], .runState state .refl hne, rfl⟩

theorem setBootError_relays (m : Machine) (error : Option String) : m.Relays (m.setBootError error) := by
  unfold setBootError
  split
  · exact .refl m
  · next hne => exact ⟨rfl, rfl, rfl, rfl, [.bootError error], .bootError error .refl hne, rfl⟩

theorem setBusState_speaks (m : Machine) (state : BusState) : m.Speaks (m.setBusState state) := by
  unfold setBusState
  split
  · exact .refl m
  · next hne => exact ⟨[.busState state], .busState state .refl hne, rfl⟩

theorem flushTerminal_relays (m : Machine) : m.Relays m.flushTerminal := by
  unfold flushTerminal Terminal.takeOutput
  by_cases hpending : m.terminal.pending.isEmpty
  · simp only [hpending, if_true]
    exact .refl m
  · simp only [hpending]
    have hne : m.outlook.terminal.pending ≠ [] := fun e => hpending (List.isEmpty_iff.2 e)
    exact ⟨rfl, rfl, rfl, rfl, [.terminalOutput m.terminal.pending], .flush .refl hne, rfl⟩

theorem resetTerminal_relays (m : Machine) : m.Relays m.resetTerminal :=
  ⟨rfl, rfl, rfl, rfl, [.terminalReset], .reset .refl, rfl⟩

/-- A terminal that served the emulator takes the place of the one before. -/
theorem relays_of_serves {m m' : Machine} (hid : m'.id = m.id) (hconfig : m'.config = m.config)
    (hcontroller : m'.controller = m.controller) (hsink : m'.sink = m.sink)
    (hrun : m'.runState = m.runState) (hbus : m'.busState = m.busState)
    (herror : m'.bootError = m.bootError) (hserves : m.terminal.Serves m'.terminal) : m.Relays m' := by
  refine ⟨hid, hconfig, hcontroller, hbus, [], ?_, hsink⟩
  have h := hserves m.outlook
  rwa [show m'.outlook = { m.outlook with terminal := m'.terminal } by
    simp only [outlook, hrun, hbus, herror]]

/-- Nothing that anybody else can see of the machine changed. -/
theorem relays_of_outlook {m m' : Machine} (hid : m'.id = m.id) (hconfig : m'.config = m.config)
    (hcontroller : m'.controller = m.controller) (hsink : m'.sink = m.sink)
    (houtlook : m'.outlook = m.outlook) : m.Relays m' := by
  refine ⟨hid, hconfig, hcontroller, congrArg Outlook.busState houtlook, [], ?_, hsink⟩
  rw [houtlook]
  exact .refl

theorem resume_relays (m : Machine) (resume : Bool) : m.Relays { m with resume } :=
  relays_of_outlook rfl rfl rfl rfl rfl

/-! ## Worker -/

/-- Slices serve the terminal and note their runs. -/
theorem runSlice_carries (id : MachineId) : Worker.Carries (runSlice id)
    fun g g' => g.terminal.Serves g'.terminal ∧ g.hardware.Adds Plain g'.hardware where
  refl _ := ⟨.refl _, .refl _ _⟩
  trans h₁ h₂ := ⟨h₁.1.trans h₂.1, h₁.2.trans h₂.2⟩
  slice cycles g := ⟨g.emulator.run_serves cycles g.terminal, .one rfl ⟨rfl, rfl⟩⟩

theorem stepWorker_acts {step : WorkerStep}
    (hstep : ∀ {run R}, Worker.Carries run R → ∀ w g, R g (step run w g).2) (m : Machine)
    (hw : Hardware) : Acts Plain (m, hw) (m.stepWorker step hw) := by
  have h := hstep (runSlice_carries m.id) m.worker ⟨m.emulator, m.terminal, hw⟩
  exact ⟨relays_of_serves rfl rfl rfl rfl rfl rfl rfl h.1, h.2⟩

theorem quiesce_acts (m : Machine) (hw : Hardware) : Acts Plain (m, hw) (m.quiesce hw) :=
  stepWorker_acts Worker.quiesce_carries m hw

theorem cancel_acts (m : Machine) (hw : Hardware) : Acts Plain (m, hw) (m.cancel hw) :=
  stepWorker_acts Worker.cancel_carries m hw

theorem shutdown_acts (m : Machine) (hw : Hardware) : Acts Plain (m, hw) (m.shutdown hw) :=
  stepWorker_acts Worker.shutdown_carries m hw

theorem advance_acts (m : Machine) (slices : Nat) (hw : Hardware) :
    Acts Plain (m, hw) (m.advance slices hw) :=
  stepWorker_acts (fun h w g => Worker.progress_carries h slices w g) m hw

theorem advance_of_isIdle {m : Machine} (h : m.worker.isIdle = true) (slices : Nat) (hw : Hardware) :
    m.advance slices hw = (m, hw) := by
  have hworker := Worker.progress_of_isIdle (runSlice m.id) h ⟨m.emulator, m.terminal, hw⟩ slices
  unfold advance stepWorker
  dsimp only
  rw [hworker]

/-! ## Drifting -/

/-- While nobody waits for it the worker stays where it is, or gets on by some slices. -/
theorem drift_cases {P : Machine × Hardware → Prop} {m : Machine} {hw : Hardware} (hstays : P (m, hw))
    (hadvances : ∀ slices, P (m.advance slices hw)) (slices : Option Nat) : P (m.drift slices hw) := by
  cases slices with
  | none => exact hstays
  | some slices => exact hadvances slices

theorem drift_acts (m : Machine) (slices : Option Nat) (hw : Hardware) :
    Acts Plain (m, hw) (m.drift slices hw) :=
  drift_cases (.refl _ _) (m.advance_acts · hw) slices

theorem drift_of_isIdle {m : Machine} (h : m.worker.isIdle = true) (slices : Option Nat) (hw : Hardware) :
    m.drift slices hw = (m, hw) :=
  drift_cases (P := (· = (m, hw))) rfl (advance_of_isIdle h · hw) slices

/-- Pays for a tick and grants it if the worker is idle, all at once. -/
def grantAtOnce (m : Machine) (energy : EnergySource) : Machine × EnergySource :=
  if !m.worker.isIdle then (m, energy)
  else
    let amount := m.controller.consumption
    if !(energy.consume amount true).1 then (m, energy)
    else
      let m := { m with terminal := m.terminal.deliverInput }
      ({ m with worker := (m.worker.grant m.config.cyclesPerTick.toNat).2 },
        (energy.consume amount false).2)

/-- A worker that was found idle stays where it is, so what follows that look is done at once. -/
theorem grantTick_eq (m : Machine) (energy : EnergySource) (hw : Hardware) :
    m.grantTick energy hw =
      (((m.drift m.platform.look hw).1.grantAtOnce energy).1, ((m.drift m.platform.look hw).1.grantAtOnce energy).2,
        (m.drift m.platform.look hw).2) := by
  unfold grantTick grantAtOnce
  generalize m.drift m.platform.look hw = p
  obtain ⟨m', hw'⟩ := p
  dsimp only
  cases hidle : m'.worker.isIdle with
  | false => rfl
  | true =>
    rw [drift_of_isIdle hidle]
    cases (energy.consume m'.controller.consumption true).1 with
    | false => rfl
    | true =>
      have hdelivered : ({ m' with terminal := m'.terminal.deliverInput } : Machine).worker.isIdle = true := hidle
      dsimp only
      rw [drift_of_isIdle hdelivered]
      rfl

/-! ## Emulator -/

theorem resetEmulator_acts (m : Machine) (hw : Hardware) : Acts Plain (m, hw) (m.resetEmulator hw) :=
  ⟨relays_of_outlook rfl rfl rfl rfl rfl, .one rfl ⟨rfl, rfl⟩⟩

theorem restoreEmulator_acts (m : Machine) (state : Bytes) (hw : Hardware) :
    Acts Plain (m, hw) (m.restoreEmulator state hw).2 := by
  unfold restoreEmulator
  split
  · exact ⟨relays_of_outlook rfl rfl rfl rfl rfl, .one rfl ⟨rfl, rfl⟩⟩
  · exact ⟨.refl m, .one rfl ⟨rfl, rfl⟩⟩

theorem install_acts (m : Machine) (map : DeviceMap) (hw : Hardware) :
    Acts (Own m.id) (m, hw) (m.install map hw).2 := by
  refine ⟨relays_of_outlook rfl rfl rfl rfl rfl, ?_⟩
  have h : hw.Adds (Own m.id) (m.emulator.install map hw).2.2 :=
    m.emulator.install_adds (fun _ _ _ => .inl rfl) (fun _ _ _ => .inl rfl) map hw
  exact h.trans (.one rfl (.inr rfl))

/-! ## Loading -/

theorem releaseDevices_acts (m : Machine) (hw : Hardware) :
    Acts Outside (m, hw) (m.releaseDevices hw) := by
  unfold releaseDevices
  split
  · exact .refl _ _
  · exact ⟨relays_of_outlook rfl rfl rfl rfl rfl, suspendAll_adds fun _ => rfl⟩

theorem halt_acts (m : Machine) (error : BootError) (hw : Hardware) :
    Acts Outside (m, hw) (m.halt error hw) := by
  have hcancel := (m.cancel_acts hw).outside
  have hrelease := (m.cancel hw).1.releaseDevices_acts (m.cancel hw).2
  refine (hcancel.trans hrelease).trans (Relays.acts ?_ _)
  refine Relays.trans ?_ (setRunState_relays _ .error)
  refine Relays.trans ?_ (setBootError_relays _ (some error.message))
  exact relays_of_outlook rfl rfl rfl rfl rfl

theorem restoreDevice_acts (m : Machine) (entry : BusDevice) (hw : Hardware) :
    Acts Plain (m, hw) (m.restoreDevice entry hw).2 := by
  unfold restoreDevice
  split
  · exact .refl _ _
  · next state _ =>
    have h : hw.Adds Plain (hw.restore entry.device.handle state).2 :=
      Hardware.restore_adds fun _ => ⟨rfl, rfl⟩
    dsimp only
    split <;> next he => rw [he] at h; exact ⟨relays_of_outlook rfl rfl rfl rfl rfl, h⟩

theorem attachEach_acts (entries : List BusDevice) (ctx : AttachContext) (m : Machine)
    (hw : Hardware) : Acts (Own m.id) (m, hw) (attachEach entries ctx m hw).2 := by
  induction entries generalizing ctx m hw with
  | nil => exact .refl _ _
  | cons entry rest ih =>
    have hrestore := ((m.restoreDevice_acts entry hw).outside).own m.id
    unfold attachEach
    split
    · next m' hw' he =>
      rw [he] at hrestore
      exact hrestore.trans ⟨.refl m', ctx.abort_adds hw' fun _ => .inl rfl⟩
    · next m' hw' he =>
      rw [he] at hrestore
      have hid : m'.id = m.id := hrestore.relays.id
      have hattach := ctx.attach_adds (P := Own m'.id) m'.id m'.worker.isIdle entry hw'
        (fun _ _ _ => .inr rfl) fun _ => .inr rfl
      rw [hid] at hattach
      rw [hid]
      split
      · next hw'' he' =>
        rw [he'] at hattach
        exact hrestore.trans ⟨.refl m', hattach.trans (ctx.abort_adds hw'' fun _ => .inl rfl)⟩
      · next ctx' hw'' he' =>
        rw [he'] at hattach
        have hrest := ih ctx' m' hw''
        rw [hid] at hrest
        exact (hrestore.trans (b := (m', hw')) ⟨.refl m', hattach⟩).trans hrest

theorem installDevices_acts (m : Machine) (keepState : Bool) (map : DeviceMap) (hw : Hardware) :
    Acts (Own m.id) (m, hw) (m.installDevices keepState map hw).2 := by
  have hreset : Acts (Own m.id) (m, hw) (if keepState then (m, hw) else m.resetEmulator hw) := by
    split
    · exact .refl _ _
    · exact ((m.resetEmulator_acts hw).outside).own m.id
  unfold installDevices
  generalize (if keepState then (m, hw) else m.resetEmulator hw) = p at hreset
  obtain ⟨m', hw'⟩ := p
  have hinstall := m'.install_acts map hw'
  rw [show m'.id = m.id from hreset.relays.id] at hinstall
  dsimp only
  split
  · next he =>
    rw [he] at hinstall
    exact hreset.trans hinstall
  · next m'' hw'' he =>
    rw [he] at hinstall
    exact (hreset.trans hinstall).trans ⟨.refl m'', suspendAll_adds fun _ => .inl rfl⟩

theorem attachAll_acts (m : Machine) (keepState : Bool) (hw : Hardware) :
    Acts (Own m.id) (m, hw) (m.attachAll keepState hw).2 := by
  have hattach := attachEach_acts m.controller.devices (.new m.config) m hw
  unfold attachAll
  split
  · next he =>
    rw [he] at hattach
    exact hattach
  · next ctx m' hw' he =>
    rw [he] at hattach
    have hinstall := m'.installDevices_acts keepState ctx.finish hw'
    rw [show m'.id = m.id from hattach.relays.id] at hinstall
    exact hattach.trans hinstall

/-- Why the worker comes by no thread, if it needs one and is refused it. -/
def threadRefusal? (m : Machine) : Option String := if m.worker.running then none else m.platform.refusal

/-- A machine whose worker has a thread, or gets one, goes on; it halts if it is refused one. -/
theorem enter_cases (m : Machine) (keepState : Bool) (map : DeviceMap) (hw : Hardware) :
    ∃ result worker, (if keepState then m.worker else m.worker.takeFault.2).start m.platform.refusal =
        (result, worker) ∧
      let m' := { m with map := some map, media := .empty, worker }
      (result = .ok () ∧ m.threadRefusal? = none ∧
          m.enter keepState map hw = ((m'.setBootError none).setRunState .running, hw) ∨
        ∃ reason, result = .error reason ∧ m.threadRefusal? = some reason ∧
          m.enter keepState map hw = m'.halt (.io reason) hw) := by
  have hrunning : (if keepState then m.worker else m.worker.takeFault.2).running = m.worker.running := by
    cases keepState <;> rfl
  have hstart := (if keepState then m.worker else m.worker.takeFault.2).start_cases m.platform.refusal
  unfold enter threadRefusal?
  dsimp only
  generalize (if keepState then m.worker else m.worker.takeFault.2) = w at hrunning hstart
  rcases hstart with ⟨hruns, he⟩ | ⟨hrefusal, he⟩ | ⟨reason, hrefusal, hruns, he⟩ <;>
    refine ⟨_, _, he, ?_⟩ <;> rw [he, ← hrunning]
  · exact .inl ⟨rfl, if_pos hruns, rfl⟩
  · refine .inl ⟨rfl, ?_, rfl⟩
    split
    · rfl
    · exact hrefusal
  · refine .inr ⟨reason, rfl, ?_, rfl⟩
    rw [hruns]
    exact hrefusal

theorem enter_acts (m : Machine) (keepState : Bool) (map : DeviceMap) (hw : Hardware) :
    Acts Outside (m, hw) (m.enter keepState map hw) := by
  obtain ⟨_, worker, -, ⟨-, -, he⟩ | ⟨reason, -, -, he⟩⟩ := m.enter_cases keepState map hw <;> rw [he]
  · refine Relays.acts ?_ _
    refine Relays.trans ?_ (setRunState_relays _ .running)
    refine Relays.trans ?_ (setBootError_relays _ none)
    exact relays_of_outlook rfl rfl rfl rfl rfl
  · have hseated : m.Relays { m with map := some map, media := .empty, worker } :=
      relays_of_outlook rfl rfl rfl rfl rfl
    exact (hseated.acts hw).trans (halt_acts _ (.io reason) hw)

theorem load_acts (m : Machine) (hw : Hardware) : Acts (Own m.id) (m, hw) (m.load hw) := by
  have hstart := (m.resume_relays false).acts (P := Own m.id) hw
  have hquiesce := (({ m with resume := false } : Machine).quiesce_acts hw).outside.own m.id
  unfold load
  generalize ({ m with resume := false } : Machine).quiesce hw = p at hquiesce
  obtain ⟨m', hw'⟩ := p
  have hid : m'.id = m.id := hquiesce.relays.id
  have hattach := m'.attachAll_acts m.resume hw'
  rw [hid] at hattach
  have hloaded := (hstart.trans hquiesce).trans hattach
  dsimp only
  split
  · next map m'' hw'' he =>
    rw [he] at hloaded
    exact hloaded.trans ((m''.enter_acts m.resume map hw'').own m.id)
  · next e m'' hw'' he =>
    rw [he] at hloaded
    exact hloaded.trans ((m''.halt_acts e hw'').own m.id)

theorem resume_load_acts {id : MachineId} (m : Machine) (hid : m.id = id) (resume : Bool)
    (hw : Hardware) : Acts (Own id) (m, hw) (load { m with resume } hw) := by
  subst hid
  exact ((m.resume_relays resume).acts hw).trans (load_acts { m with resume } hw)

/-! ## Operations -/

theorem start_acts (m : Machine) (hw : Hardware) : Acts (Own m.id) (m, hw) (m.start hw).2 := by
  unfold start
  split
  · have hloading : m.Relays (({ m with resume := false } : Machine).setRunState .loading) :=
      (m.resume_relays false).trans (setRunState_relays _ .loading)
    dsimp only
    split
    · have hload := (({ m with resume := false } : Machine).setRunState .loading).load_acts hw
      rw [show (({ m with resume := false } : Machine).setRunState .loading).id = m.id from
        hloading.id] at hload
      exact (hloading.acts hw).trans hload
    · exact hloading.acts hw
  · exact .refl _ _

theorem stop_acts (m : Machine) (hw : Hardware) : Acts Outside (m, hw) (m.stop hw) := by
  unfold stop
  split
  · have hstopping := (m.setRunState_relays .stopping).acts (P := Outside) hw
    have hcancel := ((m.setRunState .stopping).cancel_acts hw).outside
    generalize (m.setRunState .stopping).cancel hw = p at hcancel
    obtain ⟨m', hw'⟩ := p
    have hrelease := m'.releaseDevices_acts hw'
    refine ((hstopping.trans hcancel).trans hrelease).trans (Relays.acts ?_ _)
    refine Relays.trans ?_ (setRunState_relays _ .stopped)
    refine Relays.trans ?_ (resetTerminal_relays _)
    exact relays_of_outlook rfl rfl rfl rfl rfl
  · exact .refl _ _

/-- Waiting and releasing, as a swap and a suspension begin. -/
theorem swap_acts (m : Machine) (hw : Hardware) : Acts (Own m.id) (m, hw) (m.swap hw) := by
  have hquiesce := (m.quiesce_acts hw).outside
  unfold swap
  generalize m.quiesce hw = p at hquiesce
  obtain ⟨m', hw'⟩ := p
  have hrelease := (hquiesce.trans (m'.releaseDevices_acts hw')).own m.id
  dsimp only
  generalize m'.releaseDevices hw' = p at hrelease
  obtain ⟨m'', hw''⟩ := p
  dsimp only
  split
  · exact hrelease.trans (m''.resume_load_acts hrelease.relays.id true hw'')
  · exact hrelease

/-- Nothing is swapped without changes of the bus. -/
theorem absorbChanges_acts (m : Machine) (hw : Hardware) :
    Acts (Own m.id) ({ m with controller := m.controller.takeChanges.2 }, hw) (m.absorbChanges hw) := by
  unfold absorbChanges
  dsimp only
  split
  · exact swap_acts { m with controller := m.controller.takeChanges.2 } hw
  · exact .refl _ _

theorem grantAtOnce_relays (m : Machine) (energy : EnergySource) : m.Relays (m.grantAtOnce energy).1 := by
  unfold grantAtOnce
  split
  · exact .refl m
  · dsimp only
    split
    · exact .refl m
    · exact relays_of_serves rfl rfl rfl rfl rfl rfl rfl m.terminal.deliverInput_serves

theorem grantTick_acts (m : Machine) (energy : EnergySource) (hw : Hardware) :
    Acts Plain (m, hw) ((m.grantTick energy hw).1, (m.grantTick energy hw).2.2) := by
  rw [grantTick_eq]
  exact (m.drift_acts m.platform.look hw).trans ((grantAtOnce_relays _ energy).acts _)

theorem step_acts (m : Machine) (energy : EnergySource) (hw : Hardware) :
    Acts Outside (m, hw) ((m.step energy hw).1, (m.step energy hw).2.2) := by
  unfold step
  split
  · next fault worker _ =>
    have hworker : m.Relays { m with worker } := relays_of_outlook rfl rfl rfl rfl rfl
    exact (hworker.acts hw).trans (halt_acts { m with worker } (.emulation fault) hw)
  · exact (m.grantTick_acts energy hw).outside

theorem proceed_acts (m : Machine) (energy : EnergySource) (hw : Hardware) :
    Acts (Own m.id) (m, hw) ((m.proceed energy hw).1, (m.proceed energy hw).2.2) := by
  unfold proceed
  split
  · exact m.load_acts hw
  · split
    · exact m.resume_load_acts rfl true hw
    · exact (m.step_acts energy hw).own m.id
  · exact .refl _ _

/-- Looking at a medium only adds reports of media. -/
theorem lookAtMedium_media (hw : Hardware) (seen : Table DeviceId Bool × List Update)
    (mapping : Mapping) (hseen : ∀ u ∈ seen.2, ∃ d p, u = .mediaChanged d p) :
    ∀ u ∈ (lookAtMedium hw seen mapping).2, ∃ d p, u = .mediaChanged d p := by
  unfold lookAtMedium
  split
  · exact hseen
  · dsimp only
    split
    · intro u hu
      rcases List.mem_append.1 hu with hu | hu
      · exact hseen u hu
      · exact ⟨_, _, List.mem_singleton.1 hu⟩
    · exact hseen

theorem foldl_lookAtMedium_media (hw : Hardware) (mappings : List Mapping)
    (seen : Table DeviceId Bool × List Update) (hseen : ∀ u ∈ seen.2, ∃ d p, u = .mediaChanged d p) :
    ∀ u ∈ (mappings.foldl (lookAtMedium hw) seen).2, ∃ d p, u = .mediaChanged d p := by
  induction mappings generalizing seen with
  | nil => exact hseen
  | cons mapping rest ih => exact ih _ (lookAtMedium_media hw seen mapping hseen)

theorem foldl_publish_media_relays (us : List Update) (m : Machine)
    (hus : ∀ u ∈ us, ∃ d p, u = .mediaChanged d p) : m.Relays (us.foldl publish m) := by
  induction us generalizing m with
  | nil => exact .refl m
  | cons u us ih =>
    obtain ⟨device, present, rfl⟩ := hus u List.mem_cons_self
    exact (m.publish_media_relays device present).trans
      (ih _ fun v hv => hus v (List.mem_cons_of_mem _ hv))

theorem publishMedia_relays (m : Machine) (hw : Hardware) : m.Relays (m.publishMedia hw) := by
  unfold publishMedia
  split
  · exact .refl m
  · next map _ =>
    have hmedia : m.Relays { m with media := (map.mappings.foldl (lookAtMedium hw) (m.media, [])).1 } :=
      relays_of_outlook rfl rfl rfl rfl rfl
    refine hmedia.trans (foldl_publish_media_relays _ _ ?_)
    exact foldl_lookAtMedium_media hw map.mappings (m.media, []) (by simp)

/-! ## Ticks -/

/-- The machine and the site once a tick looked at the bus and took its changes. -/
def look (m : Machine) (s : Site) : Machine × Site :=
  let (controller, s) := m.controller.poll s
  let m := { m with controller }.setBusState controller.state
  ({ m with controller := m.controller.takeChanges.2 }, s)

theorem look_speaks (m : Machine) (s : Site) : m.Speaks (m.look s).1 := by
  have hbus := setBusState_speaks { m with controller := (m.controller.poll s).1 }
    (m.controller.poll s).1.state
  exact hbus

theorem setBusState_busState (m : Machine) (state : BusState) :
    (m.setBusState state).busState = state := by
  unfold setBusState
  split
  · next h => exact h
  · rfl

theorem look_id (m : Machine) (s : Site) : (m.look s).1.id = m.id :=
  (setBusState_sameInside _ _).id

theorem look_controller (m : Machine) (s : Site) :
    (m.look s).1.controller = (m.controller.poll s).1.takeChanges.2 :=
  congrArg (fun c => c.takeChanges.2) (setBusState_sameInside _ _).controller

/-- A tick looks at the bus, and then acts. -/
theorem tick_acts (m : Machine) (energy : EnergySource) (s : Site) :
    Acts (Own m.id) ((m.look s).1, (m.look s).2.hardware)
      ((m.tick energy s).1, (m.tick energy s).2.2.hardware) := by
  unfold look tick
  dsimp only
  generalize m.controller.poll s = p
  obtain ⟨controller, s'⟩ := p
  dsimp only
  have hid : (({ m with controller } : Machine).setBusState controller.state).id = m.id :=
    (setBusState_sameInside _ _).id
  generalize ({ m with controller } : Machine).setBusState controller.state = m₁ at hid
  rw [← hid]
  have habsorb := m₁.absorbChanges_acts s'.hardware
  generalize m₁.absorbChanges s'.hardware = p at habsorb
  obtain ⟨m₂, hw₂⟩ := p
  have hproceed := m₂.proceed_acts energy hw₂
  rw [show m₂.id = m₁.id from habsorb.relays.id] at hproceed
  dsimp only
  generalize m₂.proceed energy hw₂ = p at hproceed
  obtain ⟨m₃, energy', hw₃⟩ := p
  refine (habsorb.trans hproceed).trans (Relays.acts ?_ hw₃)
  exact (flushTerminal_relays m₃).trans (publishMedia_relays _ hw₃)

/-! ## Suspension -/

/-- Gives up the devices, as a suspension does before it gives up the bus. -/
def retire (m : Machine) (hw : Hardware) : Machine × Hardware :=
  let (m, hw) := m.shutdown hw
  let (m, hw) := m.releaseDevices (m.noteCall .releaseScratch hw)
  (if m.runState = .running then { m with resume := true } else m, hw)

theorem suspend_eq (m : Machine) (s : Site) :
    m.suspend s =
      let (m', hw) := m.retire s.hardware
      let (controller, topology) := m'.controller.dispose s.topology
      ({ m' with controller }, ⟨topology, hw⟩) := rfl

theorem retire_acts (m : Machine) (hw : Hardware) : Acts Outside (m, hw) (m.retire hw) := by
  have hshutdown := (m.shutdown_acts hw).outside
  unfold retire
  generalize m.shutdown hw = p at hshutdown
  obtain ⟨m', hw'⟩ := p
  have hnote : Acts Outside (m', hw') (m', m'.noteCall .releaseScratch hw') :=
    ⟨.refl m', .one rfl rfl⟩
  have hrelease := m'.releaseDevices_acts (m'.noteCall .releaseScratch hw')
  dsimp only
  generalize m'.releaseDevices (m'.noteCall .releaseScratch hw') = p at hrelease
  obtain ⟨m'', hw''⟩ := p
  refine ((hshutdown.trans hnote).trans hrelease).trans (Relays.acts ?_ hw'')
  dsimp only
  split
  · exact m''.resume_relays true
  · exact .refl m''

theorem suspend_speaks (m : Machine) (s : Site) : m.Speaks (m.suspend s).1 := by
  have h := (m.retire_acts s.hardware).relays.speaks
  exact h

theorem suspend_adds (m : Machine) (s : Site) :
    s.hardware.Adds Outside (m.suspend s).2.hardware := (m.retire_acts s.hardware).adds

theorem suspend_id (m : Machine) (s : Site) : (m.suspend s).1.id = m.id :=
  (m.retire_acts s.hardware).relays.id

theorem suspend_controller (m : Machine) (s : Site) :
    (m.suspend s).1.controller = (m.controller.dispose s.topology).1 := by
  rw [← (m.retire_acts s.hardware).relays.controller]
  rfl

/-- What a finalization does after it suspended the machine. -/
theorem finalize_acts (m : Machine) (s : Site) :
    Acts Outside ((m.suspend s).1, (m.suspend s).2.hardware)
      ((m.finalize s).1, (m.finalize s).2.hardware) := by
  unfold finalize
  generalize m.suspend s = p
  obtain ⟨m', s'⟩ := p
  dsimp only
  have hdevices : s'.hardware.Adds Outside
      (m'.controller.devices.foldl (fun hw d => hw.finalize d.device.handle) s'.hardware) :=
    Hardware.foldl_adds (P := Outside) (fun _ (_ : BusDevice) => Hardware.finalize_adds rfl) _ _
  generalize m'.controller.devices.foldl (fun hw d => hw.finalize d.device.handle) s'.hardware = hw
    at hdevices
  have hreset := (m'.resetEmulator_acts hw).outside
  generalize m'.resetEmulator hw = p at hreset
  obtain ⟨m'', hw'⟩ := p
  refine (Acts.trans (b := (m', hw)) ⟨.refl m', hdevices⟩ hreset).trans (Relays.acts ?_ hw')
  refine Relays.trans ?_ (setRunState_relays _ .stopped)
  refine Relays.trans ?_ (setBootError_relays _ none)
  refine Relays.trans ?_ (resetTerminal_relays _)
  exact relays_of_outlook rfl rfl rfl rfl rfl

/-! ## Persistence -/

theorem saveDevice_adds {P : Event → Prop} (hsave : ∀ h, P (.device h .save))
    (saved : Table DeviceId Bytes × Hardware) (d : BusDevice) :
    saved.2.Adds P (saveDevice saved d).2 := by
  unfold saveDevice
  dsimp only
  split
  · exact .refl _ _
  · have hsaved : saved.2.Adds P (saved.2.save d.device.handle).2 := Hardware.save_adds (hsave _)
    split <;> next he => rwa [he] at hsaved

theorem foldl_saveDevice_adds {P : Event → Prop} (hsave : ∀ h, P (.device h .save))
    (devices : List BusDevice) (saved : Table DeviceId Bytes × Hardware) :
    saved.2.Adds P (devices.foldl saveDevice saved).2 := by
  induction devices generalizing saved with
  | nil => exact .refl _ _
  | cons d rest ih => exact (saveDevice_adds hsave saved d).trans (ih (saveDevice saved d))

theorem saveRecord_acts (m : Machine) (hw : Hardware) :
    Acts Plain (m, hw) (m.saveRecord hw).2 := by
  have hquiesce := m.quiesce_acts hw
  unfold saveRecord
  generalize m.quiesce hw = p at hquiesce
  obtain ⟨m', hw'⟩ := p
  have hsave := foldl_saveDevice_adds (P := Plain) (fun _ => ⟨rfl, rfl⟩) m'.controller.devices
    (m'.pendingStates, hw')
  dsimp only at hsave ⊢
  refine hquiesce.trans ⟨.refl m', hsave.trans (.one rfl ⟨rfl, rfl⟩)⟩

/-- Taking a record over lets the devices go; observers hear only of what the worker still wrote. -/
theorem loadRecord_adds (m : Machine) (r : Record) (hw : Hardware) :
    hw.Adds Outside (m.loadRecord r hw).2 := by
  have hcancel := (m.cancel_acts hw).outside
  unfold loadRecord
  generalize m.cancel hw = p at hcancel
  obtain ⟨m', hw'⟩ := p
  have hrelease := (hcancel.trans (m'.releaseDevices_acts hw')).adds
  dsimp only
  generalize m'.releaseDevices hw' = p at hrelease
  obtain ⟨m'', hw''⟩ := p
  dsimp only at hrelease ⊢
  split
  · exact hrelease
  · have hrestore := ((m''.adoptRecord r).restoreEmulator_acts r.emulation hw'').outside.adds
    split <;> next he =>
      rw [he] at hrestore
      exact hrelease.trans hrestore

theorem rejectEmulation_keeps (m : Machine) (fault : Fault) :
    (m.rejectEmulation fault).id = m.id ∧ (m.rejectEmulation fault).config = m.config ∧
      (m.rejectEmulation fault).controller = m.controller := by
  unfold rejectEmulation
  dsimp only
  split <;> exact ⟨rfl, rfl, rfl⟩

/-- Of the parts that hardly change, a record replaces the members of the bus. -/
theorem loadRecord_keeps (m : Machine) (r : Record) (hw : Hardware) :
    (m.loadRecord r hw).1.id = m.id ∧ (m.loadRecord r hw).1.config = m.config ∧
      (m.loadRecord r hw).1.controller = m.controller.restoreMembers r.elements := by
  have hcancel := (m.cancel_acts hw).outside
  unfold loadRecord
  generalize m.cancel hw = p at hcancel
  obtain ⟨m', hw'⟩ := p
  have hrelease := (hcancel.trans (m'.releaseDevices_acts hw')).relays
  dsimp only
  generalize m'.releaseDevices hw' = p at hrelease
  obtain ⟨m'', hw''⟩ := p
  have hadopt : (m''.adoptRecord r).id = m.id ∧ (m''.adoptRecord r).config = m.config ∧
      (m''.adoptRecord r).controller = m.controller.restoreMembers r.elements :=
    ⟨hrelease.id, hrelease.config, by rw [← hrelease.controller]; rfl⟩
  dsimp only
  split
  · exact hadopt
  · have hrestore := ((m''.adoptRecord r).restoreEmulator_acts r.emulation hw'').relays
    split
    · next he =>
      rw [he] at hrestore
      exact ⟨hrestore.id.trans hadopt.1, hrestore.config.trans hadopt.2.1,
        hrestore.controller.trans hadopt.2.2⟩
    · next fault m₃ hw₃ he =>
      rw [he] at hrestore
      have hreject := m₃.rejectEmulation_keeps fault
      exact ⟨(hreject.1.trans hrestore.id).trans hadopt.1,
        (hreject.2.1.trans hrestore.config).trans hadopt.2.1,
        (hreject.2.2.trans hrestore.controller).trans hadopt.2.2⟩

end Machine

end DeviceBus
