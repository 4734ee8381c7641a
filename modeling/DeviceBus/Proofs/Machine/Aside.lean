import DeviceBus.Proofs.World

/-!
# What a load does not look at

A load reads a machine's name, settings, bus and emulator, the states that wait for devices, and whether
the worker is idle, and writes the emulator and those states.  A change of anything else (`Aside`) can be
made before the devices are attached or after, to the same effect.

    (g m).attachAll keepState hw = ((m.attachAll keepState hw).1, withAside g …)       (attachAll_aside)
-/

namespace DeviceBus

namespace Machine

/-- A change of what a load does not look at while it attaches devices. -/
structure Aside (g : Machine → Machine) : Prop where
  id : ∀ m, (g m).id = m.id
  config : ∀ m, (g m).config = m.config
  controller : ∀ m, (g m).controller = m.controller
  emulator : ∀ m, (g m).emulator = m.emulator
  pendingStates : ∀ m, (g m).pendingStates = m.pendingStates
  isIdle : ∀ m, (g m).worker.isIdle = m.worker.isIdle
  setEmulator : ∀ m emulator, { g m with emulator } = g { m with emulator }
  setStates : ∀ m pendingStates, { g m with pendingStates } = g { m with pendingStates }

/-- A machine and what else a piece of its program returns, after the change. -/
abbrev withAside {α : Type} (g : Machine → Machine) (p : Machine × α) : Machine × α := (g p.1, p.2)

section

variable {g : Machine → Machine} (hg : Aside g)

include hg

theorem restoreDevice_aside (m : Machine) (entry : BusDevice) (hw : Hardware) :
    (g m).restoreDevice entry hw =
      ((m.restoreDevice entry hw).1, withAside g (m.restoreDevice entry hw).2) := by
  unfold restoreDevice
  rw [hg.pendingStates]
  split
  · rfl
  · next state _ =>
    dsimp only
    rw [hg.setStates]
    rcases hw.restore entry.device.handle state with ⟨_ | _, hw₁⟩ <;> rfl

theorem attachEach_aside (entries : List BusDevice) (ctx : AttachContext) (m : Machine) (hw : Hardware) :
    attachEach entries ctx (g m) hw =
      ((attachEach entries ctx m hw).1, withAside g (attachEach entries ctx m hw).2) := by
  induction entries generalizing ctx m hw with
  | nil => rfl
  | cons entry rest ih =>
    unfold attachEach
    rw [restoreDevice_aside hg]
    generalize m.restoreDevice entry hw = p
    obtain ⟨_ | _, m₁, hw₁⟩ := p
    · rfl
    · dsimp only
      rw [hg.id, hg.isIdle]
      generalize ctx.attach m₁.id m₁.worker.isIdle entry hw₁ = q
      obtain ⟨_ | ctx₁, hw₂⟩ := q
      · rfl
      · exact ih ctx₁ m₁ hw₂

theorem resetEmulator_aside (m : Machine) (hw : Hardware) :
    (g m).resetEmulator hw = withAside g (m.resetEmulator hw) := by
  have hset := hg.setEmulator m m.emulator.reset
  have hcall : (g m).noteCall .reset hw = m.noteCall .reset hw := by
    unfold noteCall
    rw [hg.id]
  unfold resetEmulator
  rw [hcall, hg.emulator]
  exact congrArg (·, m.noteCall .reset hw) hset

theorem install_aside (m : Machine) (map : DeviceMap) (hw : Hardware) :
    (g m).install map hw = ((m.install map hw).1, withAside g (m.install map hw).2) := by
  have hcall (call : EmulatorCall) (hw : Hardware) : (g m).noteCall call hw = m.noteCall call hw := by
    unfold noteCall
    rw [hg.id]
  unfold install
  rw [hg.emulator]
  dsimp only
  rw [hcall]
  exact congrArg (fun m' => ((m.emulator.install map hw).1, m', m.noteCall _ _)) (hg.setEmulator m _)

theorem installDevices_aside (m : Machine) (keepState : Bool) (map : DeviceMap) (hw : Hardware) :
    (g m).installDevices keepState map hw =
      ((m.installDevices keepState map hw).1, withAside g (m.installDevices keepState map hw).2) := by
  have hreset : (if keepState then (g m, hw) else (g m).resetEmulator hw) =
      withAside g (if keepState then (m, hw) else m.resetEmulator hw) := by
    cases keepState with
    | true => rfl
    | false => exact resetEmulator_aside hg m hw
  unfold installDevices
  rw [hreset]
  generalize (if keepState then (m, hw) else m.resetEmulator hw) = p
  obtain ⟨m₁, hw₁⟩ := p
  dsimp only
  rw [install_aside hg]
  generalize m₁.install map hw₁ = q
  obtain ⟨_ | _, m₂, hw₂⟩ := q <;> rfl

/-- Devices are attached to a machine whatever is changed aside. -/
theorem attachAll_aside (m : Machine) (keepState : Bool) (hw : Hardware) :
    (g m).attachAll keepState hw =
      ((m.attachAll keepState hw).1, withAside g (m.attachAll keepState hw).2) := by
  have hattach := attachEach_aside hg m.controller.devices (.new m.config) m hw
  unfold attachAll
  rw [hg.controller, hg.config, hattach]
  generalize attachEach m.controller.devices (.new m.config) m hw = p
  obtain ⟨_ | ctx, m₁, hw₁⟩ := p
  · rfl
  · exact installDevices_aside hg m₁ keepState ctx.finish hw₁

end

end Machine

end DeviceBus
