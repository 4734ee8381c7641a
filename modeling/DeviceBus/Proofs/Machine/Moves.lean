import DeviceBus.Proofs.Machine.Loads
import DeviceBus.Proofs.Stores
import DeviceBus.Proofs.Topology.Locality
import Mathlib.Logic.Relation

/-!
# Moves

Whatever an operation does to the worker of a machine, to the devices, and to the states that wait
for devices, it does by a few moves (`Machine.Move`): the worker is told something, a device gets a
call, a device of the bus is handed the state that waits for it.  Each piece of a machine's program is
a sequence of moves, so what every move keeps is kept by every operation.

Two operations begin or end with something else: a record that is taken over brings states of its own,
and a finalization drops those there are.
-/

namespace DeviceBus

open Event (Plain)

/-! ## Calls that restore nothing -/

/-- Whether a call gives a device persisted state. -/
def Event.isRestore : Event → Bool
  | .device _ (.restore ..) => true
  | _ => false

theorem exists_of_map_eq_ok {ε α β : Type} {f : α → β} {x : Except ε α} {b : β}
    (h : x.map f = .ok b) : ∃ a, x = .ok a ∧ f a = b := by
  cases x with
  | error e => cases h
  | ok a => exact ⟨a, rfl, Except.ok.inj h⟩

theorem Device.attach_extent (d : Device) (machine : MachineId) :
    (d.attach machine).size = d.size ∧ (d.attach machine).draw = d.draw := by
  cases d <;> exact ⟨rfl, rfl⟩

theorem Device.suspend_extent (d : Device) : d.suspend.size = d.size ∧ d.suspend.draw = d.draw := by
  cases d <;> exact ⟨rfl, rfl⟩

theorem Device.finalize_extent (d : Device) :
    d.finalize.size = d.size ∧ d.finalize.draw = d.draw := by
  cases d <;> exact ⟨rfl, rfl⟩

theorem Device.writeMemory_extent (d : Device) (offset : Nat) (data : Bytes) :
    (d.writeMemory offset data).size = d.size ∧ (d.writeMemory offset data).draw = d.draw := by
  cases d with
  | ram r => exact r.write_extent offset data
  | _ => exact ⟨rfl, rfl⟩

/-- A device that takes over a state keeps its size and its draw. -/
theorem Device.restore_extent {d d' : Device} {state : Bytes} (h : d.restore state = .ok d') :
    d'.size = d.size ∧ d'.draw = d.draw := by
  cases d with
  | ram r =>
    simp only [Device.restore, Ram.restore] at h
    split at h
    · cases h
      exact ⟨rfl, rfl⟩
    · cases h
  | drive r =>
    simp only [Device.restore, Drive.restore] at h
    cases hmedium : Drive.savedMedium state with
    | error fault =>
      rw [hmedium] at h
      cases h
    | ok medium =>
      rw [hmedium] at h
      cases h
      exact ⟨rfl, rfl⟩
  | probe p =>
    simp only [Device.restore, Probe.restore] at h
    split at h
    · cases h
    · cases h
      exact ⟨rfl, rfl⟩
  | hosted host own =>
    obtain ⟨own', -, rfl⟩ := exists_of_map_eq_ok h
    exact ⟨rfl, rfl⟩
  | _ =>
    cases h
    exact ⟨rfl, rfl⟩

namespace Hardware

/-- All devices have the sizes and the draws they had. -/
def KeepsExtents (hw hw' : Hardware) : Prop := ∀ d, Scan.SameExtent hw hw' d

theorem KeepsExtents.refl (hw : Hardware) : hw.KeepsExtents hw := fun _ => ⟨rfl, rfl⟩

theorem KeepsExtents.trans {hw hw' hw'' : Hardware} (h₁ : hw.KeepsExtents hw')
    (h₂ : hw'.KeepsExtents hw'') : hw.KeepsExtents hw'' := fun d =>
  ⟨(h₂ d).1.trans (h₁ d).1, (h₂ d).2.trans (h₁ d).2⟩

theorem KeepsExtents.of_devices {hw hw' : Hardware} (h : hw'.devices = hw.devices) :
    hw.KeepsExtents hw' := by
  intro d
  unfold Scan.SameExtent Hardware.device
  rw [h]
  exact ⟨rfl, rfl⟩

theorem device_update (hw : Hardware) (h r : Handle) (d : Device) :
    (hw.update h d).device r = if h.index = r.index ∧ h.index < hw.devices.length then d
      else hw.device r := by
  unfold Hardware.update device
  simp only [List.getD_eq_getElem?_getD, List.getElem?_set]
  split
  · next hindex =>
    rw [← hindex]
    split
    · next hlt => simp [hlt]
    · next hge => simp [hge]
  · next hindex => simp [hindex]

/-- A device in place of one of its size and its draw. -/
theorem KeepsExtents.update {hw hw' : Hardware} (hsame : hw'.devices = hw.devices) {h : Handle}
    {d : Device} (hd : d.size = (hw.device h).size ∧ d.draw = (hw.device h).draw) :
    hw.KeepsExtents (hw'.update h d) := by
  intro r
  unfold Scan.SameExtent
  rw [device_update]
  split
  · next hindex =>
    rw [show hw.device r.handle = hw.device h by unfold device; rw [hindex.1]]
    exact hd
  · rw [show hw'.device r.handle = hw.device r.handle by unfold device; rw [hsame]]
    exact ⟨rfl, rfl⟩

/-- Calls were made, none of which gave a device persisted state, and all devices have the sizes and
the draws they had. -/
structure Calls (hw hw' : Hardware) : Prop where
  adds : hw.Adds (·.isRestore = false) hw'
  extents : hw.KeepsExtents hw'

theorem Calls.refl (hw : Hardware) : hw.Calls hw := ⟨.refl _ hw, .refl hw⟩

theorem Calls.trans {hw hw' hw'' : Hardware} (h₁ : hw.Calls hw') (h₂ : hw'.Calls hw'') :
    hw.Calls hw'' := ⟨h₁.adds.trans h₂.adds, h₁.extents.trans h₂.extents⟩

theorem record_calls (hw : Hardware) {e : Event} (h : e.isRestore = false) : hw.Calls (hw.record e) :=
  ⟨.one rfl h, .of_devices rfl⟩

theorem Asks.calls {hw hw' : Hardware} (h : hw.Asks hw') : hw.Calls hw' := by
  refine ⟨h.adds.mono ?_, .of_devices h.devices⟩
  rintro e ⟨element, entry, rfl⟩
  rfl

theorem attach_calls (hw : Hardware) (h : Handle) (machine : MachineId) (base : Option Nat)
    (lines : List Nat) (idle : Bool) : hw.Calls (hw.attach h machine base lines idle).2 := by
  unfold attach
  split
  · exact hw.record_calls rfl
  · exact ⟨.one rfl rfl, .update rfl (Device.attach_extent _ _)⟩

theorem suspend_calls (hw : Hardware) (h : Handle) : hw.Calls (hw.suspend h) :=
  ⟨.one rfl rfl, .update rfl (Device.suspend_extent _)⟩

theorem finalize_calls (hw : Hardware) (h : Handle) : hw.Calls (hw.finalize h) :=
  ⟨.one rfl rfl, .update rfl (Device.finalize_extent _)⟩

theorem writeMemory_calls (hw : Hardware) (h : Handle) (offset : Nat) (data : Bytes) :
    hw.Calls (hw.writeMemory h offset data) :=
  ⟨.one rfl rfl, .update rfl (Device.writeMemory_extent _ _ _)⟩

theorem readMemory_calls (hw : Hardware) (h : Handle) (offset count : Nat) :
    hw.Calls (hw.readMemory h offset count).2 := hw.record_calls rfl

theorem restore_extents (hw : Hardware) (h : Handle) (state : Bytes) :
    hw.KeepsExtents (hw.restore h state).2 := by
  unfold restore
  split
  · next d hd => exact .update rfl (Device.restore_extent hd)
  · exact .of_devices rfl

theorem foldl_calls {α : Type} {f : Hardware → α → Hardware}
    (hf : ∀ (hw : Hardware) (a : α), hw.Calls (f hw a)) (as : List α) (hw : Hardware) :
    hw.Calls (as.foldl f hw) := by
  induction as generalizing hw with
  | nil => exact .refl hw
  | cons a as ih => exact (hf hw a).trans (ih (f hw a))

end Hardware

theorem suspendAll_calls (mappings : List Mapping) (hw : Hardware) :
    hw.Calls (suspendAll mappings hw) :=
  Hardware.foldl_calls (fun hw (m : Mapping) => hw.suspend_calls m.device.handle) mappings hw

theorem AttachContext.attach_calls (ctx : AttachContext) (machine : MachineId) (idle : Bool)
    (entry : BusDevice) (hw : Hardware) : hw.Calls (ctx.attach machine idle entry hw).2 := by
  unfold AttachContext.attach
  dsimp only
  split
  · exact .refl hw
  · next base _ =>
    split
    · exact .refl hw
    · next lines _ =>
      have h := hw.attach_calls entry.device.handle machine base lines idle
      split <;> next he => rwa [he] at h

theorem DemoMachine.install_calls (m : DemoMachine) (map : DeviceMap) (hw : Hardware) :
    hw.Calls (m.install map hw).2.2 := by
  have h : hw.Calls (checkMemory map hw).2 := by
    unfold checkMemory
    split
    · exact .refl hw
    · next h offset _ =>
      exact (hw.writeMemory_calls h offset signature).trans (Hardware.readMemory_calls _ h offset _)
  unfold install
  dsimp only
  split <;> next he => rwa [he] at h

theorem Emulator.install_calls (e : Emulator) (map : DeviceMap) (hw : Hardware) :
    hw.Calls (e.install map hw).2.2 := by
  cases e with
  | demo m => exact m.install_calls map hw
  | scripted s => exact .refl hw

/-! ## Moves -/

namespace Machine

/-- One thing that a machine's program does.  `bus` are the devices that it may hand states to, and
`grants` tells whether it may grant cycles. -/
inductive Move (bus : List BusDevice) (grants : Bool) : Machine × Hardware → Machine × Hardware → Prop
    where
  /-- Something else of the machine changes. -/
  | other {m m' : Machine} (hw : Hardware) (hworker : m'.worker = m.worker)
      (hstates : m'.pendingStates = m.pendingStates) : Move bus grants (m, hw) (m', hw)
  | calls (m : Machine) {hw hw' : Hardware} (h : hw.Calls hw') : Move bus grants (m, hw) (m, hw')
  /-- A device is handed the state that waits for it, which waits no longer. -/
  | hand {m : Machine} {entry : BusDevice} {state : Bytes} (hw : Hardware) (hentry : entry ∈ bus)
      (hstate : m.pendingStates.get? entry.id = some state) :
      Move bus grants (m, hw) ({ m with pendingStates := m.pendingStates.erase entry.id },
        (hw.restore entry.device.handle state).2)
  | advance (m : Machine) (slices : Nat) (hw : Hardware) : Move bus grants (m, hw) (m.advance slices hw)
  | cancel (m : Machine) (hw : Hardware) : Move bus grants (m, hw) (m.cancel hw)
  | shutdown (m : Machine) (hw : Hardware) : Move bus grants (m, hw) (m.shutdown hw)
  | takeFault (m : Machine) (hw : Hardware) :
      Move bus grants (m, hw) ({ m with worker := m.worker.takeFault.2 }, hw)
  | start (m : Machine) (refusal : Option String) (hw : Hardware) :
      Move bus grants (m, hw) ({ m with worker := (m.worker.start refusal).2 }, hw)
  | grant (m : Machine) (cycles : Nat) (hw : Hardware) (hgrants : grants = true) :
      Move bus grants (m, hw) ({ m with worker := (m.worker.grant cycles).2 }, hw)

/-- Any number of moves. -/
abbrev Moves (bus : List BusDevice) (grants : Bool) : Machine × Hardware → Machine × Hardware → Prop :=
  Relation.ReflTransGen (Move bus grants)

section

variable {bus : List BusDevice} {grants : Bool} {m m' : Machine} {hw hw' : Hardware}

theorem Move.moves {a b : Machine × Hardware} (h : Move bus grants a b) : Moves bus grants a b := .single h

theorem quiesce_moves (m : Machine) (hw : Hardware) : Moves bus grants (m, hw) (m.quiesce hw) :=
  (Move.advance m m.worker.slicesLeft hw).moves

theorem resetEmulator_moves (m : Machine) (hw : Hardware) :
    Moves bus grants (m, hw) (m.resetEmulator hw) := by
  have hnote : Move bus grants (m, hw) (m, m.noteCall .reset hw) := .calls m (hw.record_calls rfl)
  exact hnote.moves.tail (.other _ rfl rfl)

theorem install_moves (m : Machine) (map : DeviceMap) (hw : Hardware) :
    Moves bus grants (m, hw) (m.install map hw).2 := by
  have hcalls := (m.emulator.install_calls map hw).trans (Hardware.record_calls _
    (e := .emulator m.id (.install (map.mappings.map (·.device.id)) (m.emulator.install map hw).1.isOk))
    rfl)
  exact (Move.calls m hcalls).moves.tail (.other _ rfl rfl)

/-! ## Loading -/

theorem releaseDevices_moves (m : Machine) (hw : Hardware) :
    Moves bus grants (m, hw) (m.releaseDevices hw) := by
  unfold releaseDevices
  split
  · exact .refl
  · next map _ =>
    have hcalls : Move bus grants (m, hw) (m, suspendAll map.mappings hw) :=
      .calls m (suspendAll_calls map.mappings hw)
    exact hcalls.moves.tail (.other _ rfl rfl)

/-- A change that only observers see is one move. -/
theorem SameInside.moves {m m' : Machine} (h : m.SameInside m') (hw : Hardware) :
    Moves bus grants (m, hw) (m', hw) :=
  (Move.other hw h.worker h.pendingStates).moves

theorem halt_moves (m : Machine) (error : BootError) (hw : Hardware) :
    Moves bus grants (m, hw) (m.halt error hw) := by
  have hcancel : Moves bus grants (m, hw) (m.cancel hw) := (Move.cancel m hw).moves
  have hrelease := hcancel.trans ((m.cancel hw).1.releaseDevices_moves (m.cancel hw).2)
  unfold halt
  generalize m.cancel hw = p at hrelease
  obtain ⟨m', hw'⟩ := p
  dsimp only at hrelease ⊢
  generalize m'.releaseDevices hw' = p at hrelease
  obtain ⟨m'', hw''⟩ := p
  have hresume : Move bus grants (m'', hw'') ({ m'' with resume := false }, hw'') := .other hw'' rfl rfl
  exact (hrelease.tail hresume).trans ((settle_sameInside _ _ _).moves hw'')

theorem restoreDevice_moves (m : Machine) {entry : BusDevice} (hentry : entry ∈ bus) (hw : Hardware) :
    Moves bus grants (m, hw) (m.restoreDevice entry hw).2 := by
  unfold restoreDevice
  split
  · exact .refl
  · next state hstate =>
    have hhand : Moves bus grants (m, hw) ({ m with pendingStates := m.pendingStates.erase entry.id },
        (hw.restore entry.device.handle state).2) := (Move.hand hw hentry hstate).moves
    dsimp only
    split <;> next he => rwa [he] at hhand

theorem attachEach_moves {entries : List BusDevice} (hentries : ∀ entry ∈ entries, entry ∈ bus)
    (ctx : AttachContext) (m : Machine) (hw : Hardware) :
    Moves bus grants (m, hw) (attachEach entries ctx m hw).2 := by
  induction entries generalizing ctx m hw with
  | nil => exact .refl
  | cons entry rest ih =>
    have hrestore : Moves bus grants (m, hw) (m.restoreDevice entry hw).2 :=
      m.restoreDevice_moves (hentries entry List.mem_cons_self) hw
    unfold attachEach
    split
    · next m' hw' he =>
      rw [he] at hrestore
      exact hrestore.tail (.calls m' (suspendAll_calls ctx.mappings.reverse hw'))
    · next m' hw' he =>
      rw [he] at hrestore
      have hattach := ctx.attach_calls m'.id m'.worker.isIdle entry hw'
      split
      · next hw'' he' =>
        rw [he'] at hattach
        have habort := hattach.trans (suspendAll_calls ctx.mappings.reverse hw'')
        exact hrestore.tail (.calls m' habort)
      · next ctx' hw'' he' =>
        rw [he'] at hattach
        exact (hrestore.tail (.calls m' hattach)).trans
          (ih (fun entry h => hentries entry (List.mem_cons_of_mem _ h)) ctx' m' hw'')

theorem installDevices_moves (m : Machine) (keepState : Bool) (map : DeviceMap) (hw : Hardware) :
    Moves bus grants (m, hw) (m.installDevices keepState map hw).2 := by
  have hreset : Moves bus grants (m, hw) (if keepState then (m, hw) else m.resetEmulator hw) := by
    split
    · exact .refl
    · exact m.resetEmulator_moves hw
  unfold installDevices
  generalize (if keepState then (m, hw) else m.resetEmulator hw) = p at hreset
  obtain ⟨m', hw'⟩ := p
  have hinstall := hreset.trans (m'.install_moves map hw')
  dsimp only
  split
  · next he => rwa [he] at hinstall
  · next m'' hw'' he =>
    rw [he] at hinstall
    exact hinstall.tail (.calls m'' (suspendAll_calls map.mappings hw''))

theorem attachAll_moves (m : Machine) (hbus : m.controller.devices = bus) (keepState : Bool)
    (hw : Hardware) : Moves bus grants (m, hw) (m.attachAll keepState hw).2 := by
  subst hbus
  have hattach : Moves m.controller.devices grants (m, hw)
      (attachEach m.controller.devices (.new m.config) m hw).2 :=
    attachEach_moves (fun _ h => h) _ m hw
  unfold attachAll
  split
  · next he => rwa [he] at hattach
  · next ctx m' hw' he =>
    rw [he] at hattach
    exact hattach.trans (m'.installDevices_moves keepState ctx.finish hw')

theorem enter_moves (m : Machine) (keepState : Bool) (map : DeviceMap) (hw : Hardware) :
    Moves bus grants (m, hw) (m.enter keepState map hw) := by
  have hmap : Move bus grants (m, hw) ({ m with map := some map, media := .empty }, hw) :=
    .other hw rfl rfl
  have hworker : Moves bus grants (m, hw) ({ m with
      map := some map
      media := .empty
      worker := if keepState then m.worker else m.worker.takeFault.2 }, hw) := by
    cases keepState with
    | true => exact hmap.moves
    | false => exact hmap.moves.tail (.takeFault _ hw)
  have hstart := hworker.tail (.start _ m.platform.refusal hw)
  obtain ⟨_, worker, hw', ⟨-, -, he⟩ | ⟨reason, -, -, he⟩⟩ := m.enter_cases keepState map hw <;>
    dsimp only at hstart <;> rw [hw'] at hstart <;> rw [he]
  · exact hstart.trans ((settle_sameInside _ none .running).moves hw)
  · exact hstart.trans (halt_moves _ (.io reason) hw)

theorem load_moves (m : Machine) (hbus : m.controller.devices = bus) (hw : Hardware) :
    Moves bus grants (m, hw) (m.load hw) := by
  have hresume : Move bus grants (m, hw) ({ m with resume := false }, hw) := .other hw rfl rfl
  have hquiesce := hresume.moves.trans (quiesce_moves { m with resume := false } hw)
  have hcontroller := (({ m with resume := false } : Machine).quiesce_acts hw).relays.controller
  unfold load
  generalize ({ m with resume := false } : Machine).quiesce hw = p at hquiesce hcontroller
  obtain ⟨m', hw'⟩ := p
  dsimp only at hcontroller ⊢
  have hattach := hquiesce.trans (m'.attachAll_moves (by rw [hcontroller]; exact hbus) m.resume hw')
  split
  · next map m'' hw'' he =>
    rw [he] at hattach
    exact hattach.trans (m''.enter_moves m.resume map hw'')
  · next e m'' hw'' he =>
    rw [he] at hattach
    exact hattach.trans (m''.halt_moves e hw'')

/-! ## Operations -/

theorem accept_moves (m : Machine) (hw : Hardware) : Moves bus grants (m, hw) (m.accept, hw) := by
  have hresume : Move bus grants (m, hw) ({ m with resume := false }, hw) := .other hw rfl rfl
  exact hresume.moves.trans ((setRunState_sameInside _ .loading).moves hw)

theorem start_moves (m : Machine) (hbus : m.controller.devices = bus) (hw : Hardware) :
    Moves bus grants (m, hw) (m.start hw).2 := by
  cases hload : m.startLoad? hw with
  | none =>
    rw [start_of_none hload]
    dsimp only
    split
    · exact m.accept_moves hw
    · exact .refl
  | some p =>
    rw [start_of_some hload]
    unfold startLoad? at hload
    split at hload
    · cases hload
      refine (m.accept_moves hw).trans (m.accept.load_moves ?_ hw)
      rw [show m.accept.controller = m.controller from (setRunState_relays _ .loading).controller]
      exact hbus
    · cases hload

theorem stop_moves (m : Machine) (hw : Hardware) : Moves bus grants (m, hw) (m.stop hw) := by
  unfold stop
  split
  · have hcancel : Moves bus grants (m, hw) ((m.setRunState .stopping).cancel hw) :=
      ((m.setRunState_sameInside .stopping).moves hw).tail (.cancel _ hw)
    generalize (m.setRunState .stopping).cancel hw = p at hcancel
    obtain ⟨m', hw'⟩ := p
    have hrelease := hcancel.trans (m'.releaseDevices_moves hw')
    dsimp only
    generalize m'.releaseDevices hw' = p at hrelease
    obtain ⟨m'', hw''⟩ := p
    have hreset : Move bus grants (m'', hw'')
        (({ m'' with resume := false } : Machine).resetTerminal, hw'') := .other hw'' rfl rfl
    exact (hrelease.tail hreset).trans ((setRunState_sameInside _ .stopped).moves hw'')
  · exact .refl

theorem clear_moves (m : Machine) (hw : Hardware) : Moves bus grants (m, hw) (m.clear hw) :=
  (m.quiesce_moves hw).trans (releaseDevices_moves _ _)

theorem swap_moves (m : Machine) (hbus : m.controller.devices = bus) (hw : Hardware) :
    Moves bus grants (m, hw) (m.swap hw) := by
  have hclear : Moves bus grants (m, hw) (m.clear hw) := m.clear_moves hw
  cases hload : m.swapLoad? hw with
  | none =>
    rw [swap_of_none hload]
    exact hclear
  | some p =>
    rw [swap_of_some hload]
    unfold swapLoad? at hload
    dsimp only at hload
    split at hload
    · cases hload
      have hresume : Move bus grants (m.clear hw) ({ (m.clear hw).1 with resume := true }, (m.clear hw).2) :=
        .other _ rfl rfl
      refine (hclear.tail hresume).trans (load_moves _ ?_ _)
      show (m.clear hw).1.controller.devices = bus
      rw [(m.clear_acts hw).relays.controller]
      exact hbus
    · cases hload

theorem absorbChanges_moves (m : Machine) (hbus : m.controller.devices = bus) (hw : Hardware) :
    Moves bus grants (m, hw) (m.absorbChanges hw) := by
  have htake : Move bus grants (m, hw) ({ m with controller := m.controller.takeChanges.2 }, hw) :=
    .other hw rfl rfl
  unfold absorbChanges
  dsimp only
  split
  · exact htake.moves.trans (swap_moves { m with controller := m.controller.takeChanges.2 } hbus hw)
  · exact htake.moves

theorem drift_moves (m : Machine) (slices : Option Nat) (hw : Hardware) :
    Moves bus grants (m, hw) (m.drift slices hw) :=
  drift_cases .refl (fun slices => (Move.advance m slices hw).moves) slices

theorem grantAtOnce_moves (m : Machine) (energy : EnergySource) (hw : Hardware) :
    Moves bus true (m, hw) ((m.grantAtOnce energy).1, hw) := by
  unfold grantAtOnce
  split
  · exact .refl
  · dsimp only
    split
    · exact .refl
    · have hinput : Move bus true (m, hw) ({ m with terminal := m.terminal.deliverInput }, hw) :=
        .other hw rfl rfl
      exact hinput.moves.tail (.grant _ m.config.cyclesPerTick.toNat hw rfl)

theorem grantTick_moves (m : Machine) (energy : EnergySource) (hw : Hardware) :
    Moves bus true (m, hw) ((m.grantTick energy hw).1, (m.grantTick energy hw).2.2) := by
  rw [grantTick_eq]
  exact (m.drift_moves m.platform.look hw).trans (grantAtOnce_moves _ energy _)

theorem step_moves (m : Machine) (energy : EnergySource) (hw : Hardware) :
    Moves bus true (m, hw) ((m.step energy hw).1, (m.step energy hw).2.2) := by
  unfold step
  split
  · next fault worker htake =>
    have hworker : worker = m.worker.takeFault.2 := (congrArg Prod.snd htake).symm
    subst hworker
    exact (Move.takeFault m hw).moves.trans (halt_moves _ (.emulation fault) hw)
  · exact m.grantTick_moves energy hw

theorem proceed_moves (m : Machine) (hbus : m.controller.devices = bus) (energy : EnergySource)
    (hw : Hardware) : Moves bus true (m, hw) ((m.proceed energy hw).1, (m.proceed energy hw).2.2) := by
  unfold proceed
  split
  · exact m.load_moves hbus hw
  · split
    · have hresume : Move bus true (m, hw) ({ m with resume := true }, hw) := .other hw rfl rfl
      exact hresume.moves.trans (load_moves { m with resume := true } hbus hw)
    · exact m.step_moves energy hw
  · exact .refl

theorem observe_moves (m : Machine) (s : Site) :
    Moves bus grants (m, s.hardware) ((m.observe s).1, (m.observe s).2.hardware) := by
  have hasks : Move bus grants (m, s.hardware) (m, (m.controller.poll s).2.hardware) :=
    .calls m (m.controller.poll_asks s).calls
  have hcontroller : Move bus grants (m, (m.controller.poll s).2.hardware)
      ({ m with controller := (m.controller.poll s).1 }, (m.controller.poll s).2.hardware) :=
    .other _ rfl rfl
  exact (hasks.moves.tail hcontroller).trans ((setBusState_sameInside _ _).moves _)

/-- What a tick publishes at its end. -/
theorem publish_moves (m : Machine) (hw : Hardware) :
    Moves bus grants (m, hw) (m.flushTerminal.publishMedia hw, hw) :=
  (m.flushTerminal_sameInside.trans (publishMedia_sameInside _ hw)).moves hw

theorem tick_moves (m : Machine) (energy : EnergySource) (s : Site)
    (hbus : (m.observe s).1.controller.devices = bus) :
    Moves bus true (m, s.hardware) ((m.tick energy s).1, (m.tick energy s).2.2.hardware) := by
  have hobserve : Moves bus true (m, s.hardware) ((m.observe s).1, (m.observe s).2.hardware) :=
    m.observe_moves s
  rw [tick_eq]
  generalize m.observe s = p at hbus hobserve
  obtain ⟨m₁, s₁⟩ := p
  dsimp only at hbus hobserve ⊢
  have habsorb := hobserve.trans (m₁.absorbChanges_moves hbus s₁.hardware)
  have hcontroller := (m₁.absorbChanges_acts s₁.hardware).relays.controller
  generalize m₁.absorbChanges s₁.hardware = p at habsorb hcontroller
  obtain ⟨m₂, hw₂⟩ := p
  have hproceed := habsorb.trans (m₂.proceed_moves
    (by rw [show m₂.controller = m₁.controller.takeChanges.2 from hcontroller]; exact hbus) energy hw₂)
  dsimp only
  generalize m₂.proceed energy hw₂ = p at hproceed
  obtain ⟨m₃, energy', hw₃⟩ := p
  exact hproceed.trans (m₃.publish_moves hw₃)

theorem retire_moves (m : Machine) (hw : Hardware) : Moves bus grants (m, hw) (m.retire hw) := by
  have hshutdown : Moves bus grants (m, hw) (m.shutdown hw) := (Move.shutdown m hw).moves
  have hnote := hshutdown.tail (.calls (m.shutdown hw).1 (Hardware.record_calls (m.shutdown hw).2
    (e := .emulator (m.shutdown hw).1.id .releaseScratch) rfl))
  have hrelease := hnote.trans (releaseDevices_moves _ _)
  refine hrelease.tail (.other _ ?_ ?_)
  · dsimp only
    split <;> rfl
  · dsimp only
    split <;> rfl

theorem suspend_moves (m : Machine) (s : Site) :
    Moves bus grants (m, s.hardware) ((m.suspend s).1, (m.suspend s).2.hardware) :=
  (m.retire_moves s.hardware).tail (.other _ rfl rfl)

/-- A finalization drops the states that wait after its last move. -/
theorem finalize_moves (m : Machine) (s : Site) :
    ∃ m', Moves bus grants (m, s.hardware) (m', (m.finalize s).2.hardware) ∧
      (m.finalize s).1.worker = m'.worker := by
  have hsuspend : Moves bus grants (m, s.hardware) ((m.suspend s).1, (m.suspend s).2.hardware) :=
    m.suspend_moves s
  unfold finalize
  generalize m.suspend s = p at hsuspend
  obtain ⟨m', s'⟩ := p
  have hdevices := hsuspend.tail (.calls m' (Hardware.foldl_calls
    (fun hw (d : BusDevice) => hw.finalize_calls d.device.handle) m'.controller.devices s'.hardware))
  dsimp only at hdevices ⊢
  refine ⟨_, hdevices.trans (m'.resetEmulator_moves _), ?_⟩
  exact (settle_sameInside _ none .stopped).worker

theorem saveDevice_calls (saved : Table DeviceId Bytes × Hardware) (d : BusDevice) :
    saved.2.Calls (saveDevice saved d).2 := by
  unfold saveDevice
  dsimp only
  split
  · exact .refl _
  · have hsave : saved.2.Calls (saved.2.save d.device.handle).2 := Hardware.record_calls _ rfl
    split <;> next he => rwa [he] at hsave

theorem foldl_saveDevice_calls (devices : List BusDevice) (saved : Table DeviceId Bytes × Hardware) :
    saved.2.Calls (devices.foldl saveDevice saved).2 := by
  induction devices generalizing saved with
  | nil => exact .refl _
  | cons d rest ih => exact (saveDevice_calls saved d).trans (ih (saveDevice saved d))

theorem saveRecord_moves (m : Machine) (hw : Hardware) :
    Moves bus grants (m, hw) (m.saveRecord hw).2 := by
  have hquiesce : Moves bus grants (m, hw) (m.quiesce hw) := m.quiesce_moves hw
  have hsave := foldl_saveDevice_calls (m.quiesce hw).1.controller.devices
    ((m.quiesce hw).1.pendingStates, (m.quiesce hw).2)
  exact hquiesce.tail (.calls _ (hsave.trans (Hardware.record_calls _ rfl)))

/-! ## What moves keep -/

/-- Slices touch no device. -/
theorem runSlice_calls (id : MachineId) :
    Worker.Carries (runSlice id) fun g g' => g.hardware.Calls g'.hardware where
  refl g := .refl g.hardware
  trans := .trans
  slice _ g := g.hardware.record_calls rfl

theorem stepWorker_calls {step : WorkerStep}
    (hstep : ∀ {run R}, Worker.Carries run R → ∀ w g, R g (step run w g).2) (m : Machine)
    (hw : Hardware) : hw.Calls (m.stepWorker step hw).2 :=
  hstep (runSlice_calls m.id) m.worker ⟨m.emulator, m.terminal, hw⟩

theorem Move.extents {a b : Machine × Hardware} (h : Move bus grants a b) : a.2.KeepsExtents b.2 := by
  cases h with
  | calls m h => exact h.extents
  | hand hw hentry hstate => exact hw.restore_extents _ _
  | advance m slices hw =>
    exact (stepWorker_calls (fun h w g => Worker.progress_carries h slices w g) m hw).extents
  | cancel m hw => exact (stepWorker_calls Worker.cancel_carries m hw).extents
  | shutdown m hw => exact (stepWorker_calls Worker.shutdown_carries m hw).extents
  | _ => exact .refl _

/-- All devices keep their sizes and their draws. -/
theorem Moves.extents {a b : Machine × Hardware} (h : Moves bus grants a b) : a.2.KeepsExtents b.2 := by
  induction h with
  | refl => exact .refl _
  | tail _ hmove ih => exact ih.trans hmove.extents

end

end Machine

/-! ## Operations of a machine -/

/-- Whether an operation replaces or drops the states that wait for devices. -/
def MachineOp.replacesStates : MachineOp → Bool
  | .finalize => true
  | .loadRecord _ => true
  | _ => false

/-- Whether an operation may grant cycles. -/
def MachineOp.grants : MachineOp → Bool
  | .tick => true
  | _ => false

/-- An operation of a machine is a sequence of moves, unless it replaces the states that wait. -/
theorem Station.step_moves (station : Station) (s : Site) {op : MachineOp}
    (hop : op.replacesStates = false) :
    Machine.Moves (station.step s op).2.1.machine.controller.devices op.grants
      (station.machine, s.hardware)
      ((station.step s op).2.1.machine, (station.step s op).2.2.hardware) := by
  cases op with
  | start =>
    refine station.machine.start_moves ?_ s.hardware
    exact congrArg Controller.devices (station.machine.start_acts s.hardware).relays.controller.symm
  | stop => exact station.machine.stop_moves s.hardware
  | tick =>
    refine station.machine.tick_moves station.energy s ?_
    show (station.machine.look s).1.controller.devices = _
    exact congrArg Controller.devices (station.machine.tick_acts station.energy s).relays.controller.symm
  | advance slices => exact (Machine.Move.advance _ slices _).moves
  | quiesce => exact station.machine.quiesce_moves s.hardware
  | suspend => exact station.machine.suspend_moves s
  | finalize => cases hop
  | loadRecord r => cases hop
  | readMemory address count =>
    show Machine.Moves _ _ _ (readMemory station.machine address count s.hardware).2
    unfold readMemory
    split
    · exact .refl
    · exact (Machine.Move.calls _ (Hardware.readMemory_calls _ _ _ _)).moves
  | writeMemory address data =>
    show Machine.Moves _ _ _ (writeMemory station.machine address data s.hardware).2
    unfold writeMemory
    split
    · exact .refl
    · exact (Machine.Move.calls _ (Hardware.writeMemory_calls _ _ _ _)).moves
  | saveRecord => exact station.machine.saveRecord_moves s.hardware
  | scheduleScan => exact .single (.other s.hardware rfl rfl)
  | recharge amount simulate => exact .refl
  | terminal call => exact .single (.other s.hardware rfl rfl)
  | script change => exact .single (.other s.hardware rfl rfl)
  | platform platform => exact .single (.other s.hardware rfl rfl)
  | drainUpdates => exact .single (.other s.hardware rfl rfl)

end DeviceBus
