import DeviceBus.Proofs.Machine.Charts

/-!
# What a load asks of a device

A load has to know four things of a device: its size, how many interrupt lines it needs, whether it refuses
to be attached, and which states it takes over.  These are its terms.  Nothing that a load does to a device
changes them (`Hardware.attach_termsAt`, `Hardware.restore_termsAt`), so it does not matter to the terms of the
devices to come what was done to those before them, even if a device comes twice.
-/

namespace DeviceBus

/-- How many interrupt lines a device asks for. -/
def Device.lineCount (d : Device) : Nat := (d.interrupt?.map Prod.fst).getD 0

/-- What a load has to know of a device. -/
structure Device.Terms where
  size : Nat
  lines : Nat
  refusal : Option Fault
  /-- Whether it takes over a state. -/
  takes : Bytes → Bool

namespace Device

/-- What a load has to know of this device. -/
def terms (d : Device) : Terms := ⟨d.size, d.lineCount, d.refusal?, fun state => (d.restore state).isOk⟩

/-- All drives have the same terms, whatever is in them. -/
theorem drive_terms (r : Drive) : (drive r).terms =
    ⟨Drive.registerWindow, 0, none, fun state => (Drive.savedMedium state).isOk⟩ := by
  refine congrArg (Terms.mk _ _ _) (funext fun state => ?_)
  simp only [restore, Drive.restore]
  cases Drive.savedMedium state <;> rfl

/-- The terms of a device of a host, by its state. -/
theorem hosted_terms (host : HostDevice) (own : Bytes) : (hosted host own).terms =
    ⟨host.size, host.lines, host.refusal? own, fun state => (host.restore state own).isOk⟩ := by
  have hlines : (hosted host own).lineCount = host.lines := by
    unfold lineCount interrupt?
    by_cases h : host.lines = 0
    · simp [h]
    · simp [h]
  refine (congrArg (Terms.mk host.size · _ _) hlines).trans (congrArg (Terms.mk _ _ _) (funext fun state => ?_))
  simp only [restore]
  cases host.restore state own <;> rfl

theorem attach_terms (d : Device) (machine : MachineId) : (d.attach machine).terms = d.terms := by
  cases d with
  | drive r => exact (drive_terms _).trans (drive_terms r).symm
  | hosted host own =>
    refine (hosted_terms host _).trans (.trans ?_ (hosted_terms host own).symm)
    rw [host.attach_refusal]
    exact congrArg (Terms.mk _ _ _) (funext fun state => host.attach_isOk machine state own)
  | _ => rfl

/-- A device that took over a state would take over the same states as before. -/
theorem restore_terms {d d' : Device} {state : Bytes} (h : d.restore state = .ok d') : d'.terms = d.terms := by
  cases d with
  | ram r =>
    simp only [restore, Ram.restore] at h
    split at h
    · cases h
      refine congrArg (Terms.mk _ _ _) (funext fun state => ?_)
      simp only [restore, Ram.restore]
      split <;> rfl
    · cases h
  | drive r =>
    simp only [restore, Drive.restore] at h
    cases hmedium : Drive.savedMedium state with
    | error fault =>
      rw [hmedium] at h
      cases h
    | ok medium =>
      rw [hmedium] at h
      cases h
      exact (drive_terms _).trans (drive_terms r).symm
  | probe p =>
    simp only [restore, Probe.restore] at h
    split at h
    · cases h
    · cases h
      refine congrArg (Terms.mk _ _ _) (funext fun state => ?_)
      simp only [restore, Probe.restore]
  | hosted host own =>
    obtain ⟨own', hown, rfl⟩ := exists_of_map_eq_ok h
    refine (hosted_terms host _).trans (.trans ?_ (hosted_terms host own).symm)
    rw [host.restore_refusal hown]
    exact congrArg (Terms.mk _ _ _) (funext fun other => host.restore_isOk hown other)
  | _ =>
    cases h
    rfl

end Device

namespace Hardware

/-- What a load has to know of the device of a handle. -/
def termsAt (hw : Hardware) (h : Handle) : Device.Terms := (hw.device h).terms

variable {hw hw' : Hardware}

theorem termsAt_of_devices (h : hw'.devices = hw.devices) : hw'.termsAt = hw.termsAt := by
  unfold termsAt device
  rw [h]

theorem termsAt_update (hsame : hw'.devices = hw.devices) {h : Handle} {d : Device}
    (hd : d.terms = hw.termsAt h) : (hw'.update h d).termsAt = hw.termsAt := by
  funext r
  show ((hw'.update h d).device r).terms = hw.termsAt r
  rw [device_update]
  split
  · next hindex =>
    rw [hd]
    unfold termsAt device
    rw [hindex.1]
  · exact congrFun (termsAt_of_devices hsame) r

theorem attach_termsAt (hw : Hardware) (h : Handle) (machine : MachineId) (base : Option Nat)
    (lines : List Nat) (idle : Bool) : (hw.attach h machine base lines idle).2.termsAt = hw.termsAt := by
  unfold attach
  split
  · rfl
  · exact termsAt_update rfl (Device.attach_terms _ _)

theorem restore_termsAt (hw : Hardware) (h : Handle) (state : Bytes) :
    (hw.restore h state).2.termsAt = hw.termsAt := by
  unfold restore
  split
  · next d hd => exact termsAt_update rfl (Device.restore_terms hd)
  · rfl

theorem sizeAt_of_termsAt (h : hw'.termsAt = hw.termsAt) : hw'.sizeAt = hw.sizeAt :=
  funext fun handle => congrArg Device.Terms.size (congrFun h handle)

end Hardware

theorem AttachContext.attach_termsAt (ctx : AttachContext) (machine : MachineId) (idle : Bool)
    (entry : BusDevice) (hw : Hardware) : (ctx.attach machine idle entry hw).2.termsAt = hw.termsAt := by
  unfold attach
  dsimp only
  split
  · rfl
  · next base _ =>
    split
    · rfl
    · next lines _ =>
      have h := hw.attach_termsAt entry.device.handle machine base lines idle
      split <;> next he => rwa [he] at h

end DeviceBus
