import DeviceBus.Proofs.Machine.Calls

/-!
# Pieces that run no slice

The emulation runs only where the machine lets its worker go on: where it waits, cancels, or ends the
thread.  Every other piece of a machine's program leaves the worker alone and runs no slice, and what it
notes of the worker is true (`Machine.Stands`).
-/

namespace DeviceBus

/-- Whether a call runs a slice. -/
def Event.isSlice : Event → Bool
  | .emulator _ call => call.isRun
  | _ => false

/-- What a call notes of the worker of the machine that makes it: whether it is idle. -/
def Event.idle? : Event → Option Bool
  | .device _ (.attach _ _ _ idle) => some idle
  | _ => none

/-- A call that runs no slice, made while the worker is idle, or while it is not. -/
structure Event.Aside (idle : Bool) (e : Event) : Prop where
  isSlice : e.isSlice = false
  noted : ∀ noted, e.idle? = some noted → noted = idle

theorem Event.Query.aside {e : Event} (h : e.Query) (idle : Bool) : e.Aside idle := by
  obtain ⟨element, entry, rfl⟩ := h
  exact ⟨rfl, fun _ h => nomatch h⟩

namespace Machine

/-- The worker is left alone, and no slice is run. -/
structure Stands (a b : Machine × Hardware) : Prop where
  id : b.1.id = a.1.id
  worker : b.1.worker = a.1.worker
  adds : a.2.Adds (Event.Aside a.1.worker.isIdle) b.2

variable {a b c : Machine × Hardware} {m m' : Machine} {hw hw' : Hardware}

theorem Stands.refl (a : Machine × Hardware) : Stands a a := ⟨rfl, rfl, .refl _ _⟩

theorem Stands.trans (h : Stands a b) (h' : Stands b c) : Stands a c := by
  have hadds := h'.adds
  rw [h.worker] at hadds
  exact ⟨h'.id.trans h.id, h'.worker.trans h.worker, h.adds.trans hadds⟩

/-- Calls of devices alone. -/
theorem stands_of_adds (m : Machine) (h : hw.Adds (Event.Aside m.worker.isIdle) hw') :
    Stands (m, hw) (m, hw') := ⟨rfl, rfl, h⟩

theorem SameInside.stands (h : m.SameInside m') (hw : Hardware) : Stands (m, hw) (m', hw) :=
  ⟨h.id, h.worker, .refl _ hw⟩

theorem suspendAll_stands (m : Machine) (mappings : List Mapping) (hw : Hardware) :
    Stands (m, hw) (m, suspendAll mappings hw) := 
  m.stands_of_adds (suspendAll_adds fun _ => ⟨rfl, fun _ h => nomatch h⟩)

theorem releaseDevices_stands (m : Machine) (hw : Hardware) : Stands (m, hw) (m.releaseDevices hw) := by
  unfold releaseDevices
  split
  · exact .refl _
  · exact ⟨rfl, rfl, suspendAll_adds fun _ => ⟨rfl, fun _ h => nomatch h⟩⟩

theorem restoreDevice_stands (m : Machine) (entry : BusDevice) (hw : Hardware) :
    Stands (m, hw) (m.restoreDevice entry hw).2 := by
  unfold restoreDevice
  split
  · exact .refl _
  · next state _ =>
    have hrestore : hw.Adds (Event.Aside m.worker.isIdle) (hw.restore entry.device.handle state).2 :=
      Hardware.restore_adds fun _ => ⟨rfl, fun _ h => nomatch h⟩
    dsimp only
    split <;> next he => rw [he] at hrestore; exact ⟨rfl, rfl, hrestore⟩

theorem attachEach_stands (entries : List BusDevice) (ctx : AttachContext) (m : Machine)
    (hw : Hardware) : Stands (m, hw) (attachEach entries ctx m hw).2 := by
  induction entries generalizing ctx m hw with
  | nil => exact .refl _
  | cons entry rest ih =>
    have hrestore := m.restoreDevice_stands entry hw
    unfold attachEach
    split
    · next m' hw' he =>
      rw [he] at hrestore
      exact hrestore.trans (m'.suspendAll_stands _ hw')
    · next m' hw' he =>
      rw [he] at hrestore
      have hattach := ctx.attach_adds (P := Event.Aside m'.worker.isIdle) m'.id m'.worker.isIdle entry
        hw' (fun _ _ _ => ⟨rfl, fun _ h => (Option.some.inj h).symm⟩)
        fun _ => ⟨rfl, fun _ h => nomatch h⟩
      split
      · next hw'' he' =>
        rw [he'] at hattach
        exact (hrestore.trans (m'.stands_of_adds hattach)).trans (m'.suspendAll_stands _ hw'')
      · next ctx' hw'' he' =>
        rw [he'] at hattach
        exact (hrestore.trans (m'.stands_of_adds hattach)).trans (ih ctx' m' hw'')

theorem resetEmulator_stands (m : Machine) (hw : Hardware) : Stands (m, hw) (m.resetEmulator hw) :=
  ⟨rfl, rfl, .one rfl ⟨rfl, fun _ h => nomatch h⟩⟩

theorem installDevices_stands (m : Machine) (keepState : Bool) (map : DeviceMap) (hw : Hardware) :
    Stands (m, hw) (m.installDevices keepState map hw).2 := by
  have hreset : Stands (m, hw) (if keepState then (m, hw) else m.resetEmulator hw) := by
    cases keepState with
    | true => exact .refl _
    | false => exact m.resetEmulator_stands hw
  unfold installDevices
  generalize (if keepState then (m, hw) else m.resetEmulator hw) = p at hreset
  obtain ⟨m₁, hw₁⟩ := p
  have hcalls : hw₁.Adds (Event.Aside m₁.worker.isIdle) (m₁.install map hw₁).2.2 :=
    (m₁.emulator.install_adds (fun _ _ _ => ⟨rfl, fun _ h => nomatch h⟩)
      (fun _ _ _ => ⟨rfl, fun _ h => nomatch h⟩) map hw₁).trans
      (.one rfl ⟨rfl, fun _ h => nomatch h⟩)
  have hinstall : Stands (m, hw) (m₁.install map hw₁).2 := hreset.trans ⟨rfl, rfl, hcalls⟩
  dsimp only
  split
  · next he =>
    rw [he] at hinstall
    exact hinstall
  · next m₂ hw₂ he =>
    rw [he] at hinstall
    exact hinstall.trans (m₂.suspendAll_stands _ hw₂)

/-- Loading runs no slice once it waited for the worker. -/
theorem attachAll_stands (m : Machine) (keepState : Bool) (hw : Hardware) :
    Stands (m, hw) (m.attachAll keepState hw).2 := by
  have hattach := attachEach_stands m.controller.devices (.new m.config) m hw
  unfold attachAll
  split
  · next he =>
    rw [he] at hattach
    exact hattach
  · next ctx m₁ hw₁ he =>
    rw [he] at hattach
    exact hattach.trans (m₁.installDevices_stands keepState ctx.finish hw₁)

theorem observe_stands (m : Machine) (s : Site) :
    Stands (m, s.hardware) ((m.observe s).1, (m.observe s).2.hardware) := by
  have hpoll : s.hardware.Adds (Event.Aside m.worker.isIdle) (m.controller.poll s).2.hardware :=
    (m.controller.poll_asks s).adds.mono fun _ he => he.aside _
  have hcontroller : Stands (m, s.hardware) ({ m with controller := (m.controller.poll s).1 },
      (m.controller.poll s).2.hardware) := ⟨rfl, rfl, hpoll⟩
  exact hcontroller.trans ((setBusState_sameInside _ _).stands _)

end Machine

end DeviceBus
