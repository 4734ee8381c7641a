import DeviceBus.Proofs.Handover
import DeviceBus.Proofs.Machine.Grip

/-!
# What every call keeps true of a device

Machines and the host change devices by a few calls only.  What each of these keeps true of the device it
is made to (`Device.Lasting`) is therefore true of all devices after every run that builds its devices so
(`World.run_all`).

A drive is the case in point: it cuts every medium to its capacity, also the one of a restored state, so
it never holds more than that (`World.run_media_fit`).
-/

namespace DeviceBus

/-- Whatever machines and the host do to a device keeps this true of it. -/
structure Device.Lasting (P : Device → Prop) : Prop where
  attach (d : Device) (machine : MachineId) : P d → P (d.attach machine)
  suspend (d : Device) : P d → P d.suspend
  finalize (d : Device) : P d → P d.finalize
  acknowledge (d : Device) : P d → P d.acknowledge
  writeMemory (d : Device) (offset : Nat) (data : Bytes) : P d → P (d.writeMemory offset data)
  writeStorage {d d' : Device} {offset : Nat} {data : Bytes} :
    d.writeStorage offset data = .ok d' → P d → P d'
  restore {d d' : Device} {state : Bytes} : d.restore state = .ok d' → P d → P d'
  insert (d : Drive) (m : Medium) : P (.drive d) → P (.drive (d.insert m))
  eject (d : Drive) : P (.drive d) → P (.drive d.eject.2)
  configure (p : Probe) (change : Probe → Probe) : P (.probe p) → P (.probe (change p))

variable {P : Device → Prop}

/-! ## Calls -/

namespace Hardware

/-- This is true of the device of every handle. -/
def All (P : Device → Prop) (hw : Hardware) : Prop := ∀ h, P (hw.device h)

variable {hw hw' : Hardware}

theorem All.of_devices (h : hw.All P) (hsame : hw'.devices = hw.devices) : hw'.All P := by
  intro handle
  unfold device
  rw [hsame]
  exact h handle

theorem All.update (h : hw.All P) (hsame : hw'.devices = hw.devices) {handle : Handle} {d : Device}
    (hd : P (hw.device handle) → P d) : (hw'.update handle d).All P := by
  intro r
  rw [device_update]
  split
  · exact hd (h handle)
  · exact h.of_devices hsame r

variable (hP : Device.Lasting P)

include hP

theorem All.attach (h : hw.All P) (handle : Handle) (machine : MachineId) (base : Option Nat)
    (lines : List Nat) (idle : Bool) : (hw.attach handle machine base lines idle).2.All P := by
  unfold Hardware.attach
  split
  · exact h.of_devices rfl
  · exact h.update rfl (hP.attach _ machine)

theorem All.suspend (h : hw.All P) (handle : Handle) : (hw.suspend handle).All P :=
  h.update rfl (hP.suspend _)

theorem All.finalize (h : hw.All P) (handle : Handle) : (hw.finalize handle).All P :=
  h.update rfl (hP.finalize _)

theorem All.writeMemory (h : hw.All P) (handle : Handle) (offset : Nat) (data : Bytes) :
    (hw.writeMemory handle offset data).All P := h.update rfl (hP.writeMemory _ offset data)

theorem All.restore (h : hw.All P) (handle : Handle) (state : Bytes) :
    (hw.restore handle state).2.All P := by
  unfold Hardware.restore
  split
  · next d hd => exact h.update rfl (hP.restore hd)
  · exact h.of_devices rfl

omit hP in
theorem All.foldl {α : Type} {f : Hardware → α → Hardware}
    (hf : ∀ (hw : Hardware) (a : α), hw.All P → (f hw a).All P) (as : List α) (h : hw.All P) :
    (as.foldl f hw).All P := by
  induction as generalizing hw with
  | nil => exact h
  | cons a as ih => exact ih (hf hw a h)

theorem All.suspendAll (h : hw.All P) (mappings : List Mapping) : (suspendAll mappings hw).All P :=
  All.foldl (fun _ (m : Mapping) h => h.suspend hP m.device.handle) mappings h

end Hardware

open Hardware (All)

section

variable (hP : Device.Lasting P) {hw : Hardware}

include hP

theorem AttachContext.attach_all (ctx : AttachContext) (machine : MachineId) (idle : Bool)
    (entry : BusDevice) (h : hw.All P) : (ctx.attach machine idle entry hw).2.All P := by
  unfold AttachContext.attach
  dsimp only
  split
  · exact h
  · next base _ =>
    split
    · exact h
    · next lines _ =>
      have hattach := h.attach hP entry.device.handle machine base lines idle
      split <;> next he => rwa [he] at hattach

theorem DemoMachine.install_all (m : DemoMachine) (map : DeviceMap) (h : hw.All P) :
    (m.install map hw).2.2.All P := by
  have hcheck : (checkMemory map hw).2.All P := by
    unfold checkMemory
    split
    · exact h
    · next handle offset _ => exact (h.writeMemory hP handle offset signature).of_devices rfl
  unfold install
  dsimp only
  split <;> next he => rwa [he] at hcheck

theorem Emulator.install_all (e : Emulator) (map : DeviceMap) (h : hw.All P) :
    (e.install map hw).2.2.All P := by
  cases e with
  | demo m => exact m.install_all hP map h
  | scripted s => exact h

end

/-! ## Machines -/

namespace Machine

/-- Slices change no device. -/
theorem stepWorker_devices {step : WorkerStep}
    (hstep : ∀ {run R}, Worker.Carries run R → ∀ w g, R g (step run w g).2) (m : Machine)
    (hw : Hardware) : (m.stepWorker step hw).2.devices = hw.devices :=
  hstep (runSlice_devices m.id) m.worker ⟨m.emulator, m.terminal, hw⟩

variable (hP : Device.Lasting P) {hw : Hardware}

theorem quiesce_all (m : Machine) (h : hw.All P) : (m.quiesce hw).2.All P :=
  h.of_devices (m.stepWorker_devices Worker.quiesce_carries hw)

theorem cancel_all (m : Machine) (h : hw.All P) : (m.cancel hw).2.All P :=
  h.of_devices (m.stepWorker_devices Worker.cancel_carries hw)

theorem drift_all (m : Machine) (slices : Option Nat) (h : hw.All P) : (m.drift slices hw).2.All P :=
  drift_cases (P := fun p => p.2.All P) h
    (fun slices => h.of_devices (m.stepWorker_devices (fun hc => Worker.progress_carries hc slices) hw)) slices

include hP

theorem releaseDevices_all (m : Machine) (h : hw.All P) : (m.releaseDevices hw).2.All P := by
  unfold releaseDevices
  split
  · exact h
  · next map _ => exact h.suspendAll hP map.mappings

theorem halt_all (m : Machine) (error : BootError) (h : hw.All P) : (m.halt error hw).2.All P :=
  releaseDevices_all hP _ (m.cancel_all h)

theorem clear_all (m : Machine) (h : hw.All P) : (m.clear hw).2.All P :=
  releaseDevices_all hP _ (m.quiesce_all h)

theorem restoreDevice_all (m : Machine) (entry : BusDevice) (h : hw.All P) :
    (m.restoreDevice entry hw).2.2.All P := by
  unfold restoreDevice
  split
  · exact h
  · next state _ =>
    have hrestore := h.restore hP entry.device.handle state
    dsimp only
    split <;> next he => rwa [he] at hrestore

theorem attachEach_all (entries : List BusDevice) (ctx : AttachContext) (m : Machine) (h : hw.All P) :
    (attachEach entries ctx m hw).2.2.All P := by
  induction entries generalizing ctx m hw with
  | nil => exact h
  | cons entry rest ih =>
    have hrestore := m.restoreDevice_all hP entry h
    unfold attachEach
    split
    · next m' hw' he =>
      rw [he] at hrestore
      exact hrestore.suspendAll hP ctx.mappings.reverse
    · next m' hw' he =>
      rw [he] at hrestore
      have hattach := ctx.attach_all hP m'.id m'.worker.isIdle entry hrestore
      split
      · next he' =>
        rw [he'] at hattach
        exact hattach.suspendAll hP ctx.mappings.reverse
      · next ctx' hw'' he' =>
        rw [he'] at hattach
        exact ih ctx' m' hattach

theorem installDevices_all (m : Machine) (keepState : Bool) (map : DeviceMap) (h : hw.All P) :
    (m.installDevices keepState map hw).2.2.All P := by
  have hreset : (if keepState then (m, hw) else m.resetEmulator hw).2.All P := by
    split
    · exact h
    · exact h.of_devices rfl
  unfold installDevices
  generalize (if keepState then (m, hw) else m.resetEmulator hw) = p at hreset
  obtain ⟨m', hw'⟩ := p
  have hinstall : (m'.install map hw').2.2.All P := (m'.emulator.install_all hP map hreset).of_devices rfl
  dsimp only
  split
  · next he => rwa [he] at hinstall
  · next he =>
    rw [he] at hinstall
    exact hinstall.suspendAll hP map.mappings

theorem attachAll_all (m : Machine) (keepState : Bool) (h : hw.All P) :
    (m.attachAll keepState hw).2.2.All P := by
  have hattach := attachEach_all hP m.controller.devices (.new m.config) m h
  unfold attachAll
  split
  · next he => rwa [he] at hattach
  · next ctx m' hw' he =>
    rw [he] at hattach
    exact m'.installDevices_all hP keepState ctx.finish hattach

theorem enter_all (m : Machine) (keepState : Bool) (map : DeviceMap) (h : hw.All P) :
    (m.enter keepState map hw).2.All P := by
  obtain ⟨_, worker, -, ⟨-, -, he⟩ | ⟨reason, -, -, he⟩⟩ := m.enter_cases keepState map hw <;> rw [he]
  · exact h
  · exact halt_all hP _ (.io reason) h

theorem load_all (m : Machine) (h : hw.All P) : (m.load hw).2.All P := by
  have hquiesce := ({ m with resume := false } : Machine).quiesce_all h
  unfold load
  generalize ({ m with resume := false } : Machine).quiesce hw = p at hquiesce
  obtain ⟨m', hw'⟩ := p
  have hattach := m'.attachAll_all hP m.resume hquiesce
  dsimp only
  split
  · next map m'' hw'' he =>
    rw [he] at hattach
    exact m''.enter_all hP m.resume map hattach
  · next e m'' hw'' he =>
    rw [he] at hattach
    exact m''.halt_all hP e hattach

theorem start_all (m : Machine) (h : hw.All P) : (m.start hw).2.2.All P := by
  unfold start
  dsimp only
  split
  · split
    · exact load_all hP _ h
    · exact h
  · exact h

theorem stop_all (m : Machine) (h : hw.All P) : (m.stop hw).2.All P := by
  unfold stop
  split
  · exact releaseDevices_all hP _ (cancel_all _ h)
  · exact h

theorem absorbChanges_all (m : Machine) (h : hw.All P) : (m.absorbChanges hw).2.All P := by
  cases hload : m.absorbLoad? hw with
  | none =>
    rw [absorbChanges_of_none hload]
    dsimp only
    split
    · exact clear_all hP _ h
    · exact h
  | some p =>
    rw [absorbChanges_of_some hload]
    refine p.1.load_all hP ?_
    unfold absorbLoad? swapLoad? at hload
    dsimp only at hload
    split at hload
    · split at hload
      · cases hload
        exact clear_all hP _ h
      · cases hload
    · cases hload

theorem step_all (m : Machine) (energy : EnergySource) (h : hw.All P) :
    (m.step energy hw).2.2.All P := by
  unfold step
  split
  · next fault worker _ => exact halt_all hP { m with worker } (.emulation fault) h
  · rw [grantTick_eq]
    exact m.drift_all m.platform.look h

theorem proceed_all (m : Machine) (energy : EnergySource) (h : hw.All P) :
    (m.proceed energy hw).2.2.All P := by
  unfold proceed
  split
  · exact m.load_all hP h
  · split
    · exact load_all hP _ h
    · exact m.step_all hP energy h
  · exact h

theorem tick_all (m : Machine) (energy : EnergySource) {s : Site} (h : s.hardware.All P) :
    (m.tick energy s).2.2.hardware.All P := by
  have hobserve : (m.observe s).2.hardware.All P := h.of_devices (m.controller.poll_asks s).devices
  rw [tick_eq]
  generalize m.observe s = p at hobserve
  obtain ⟨m₁, s₁⟩ := p
  exact proceed_all hP _ energy (m₁.absorbChanges_all hP hobserve)

theorem suspend_all (m : Machine) {s : Site} (h : s.hardware.All P) : (m.suspend s).2.hardware.All P := by
  have hshutdown : (m.shutdown s.hardware).2.All P :=
    h.of_devices (m.stepWorker_devices Worker.shutdown_carries s.hardware)
  exact releaseDevices_all hP _ (hshutdown.of_devices rfl)

theorem finalize_all (m : Machine) {s : Site} (h : s.hardware.All P) :
    (m.finalize s).2.hardware.All P := by
  have hdevices := All.foldl (fun _ (d : BusDevice) h => h.finalize hP d.device.handle)
    (m.suspend s).1.controller.devices (m.suspend_all hP h)
  exact hdevices.of_devices rfl

omit hP in
theorem saveRecord_all (m : Machine) (h : hw.All P) : (m.saveRecord hw).2.2.All P := by
  have hsave (devices : List BusDevice) (saved : Table DeviceId Bytes × Hardware) :
      (devices.foldl saveDevice saved).2.devices = saved.2.devices := by
    induction devices generalizing saved with
    | nil => rfl
    | cons d rest ih => exact (ih _).trans (saveDevice_devices saved d)
  exact (m.quiesce_all h).of_devices (hsave _ _)

theorem loadRecord_all (m : Machine) (r : Record) (h : hw.All P) : (m.loadRecord r hw).2.All P := by
  have hrelease := releaseDevices_all hP (m.cancel hw).1 (m.cancel_all h)
  unfold loadRecord
  dsimp only
  split
  · exact hrelease
  · unfold restoreEmulator
    split <;> next he => split at he <;> cases he; exact hrelease.of_devices rfl

end Machine

theorem Station.step_all (hP : Device.Lasting P) (station : Station) {s : Site} (op : MachineOp)
    (h : s.hardware.All P) : (station.step s op).2.2.hardware.All P := by
  cases op with
  | start => exact station.machine.start_all hP h
  | stop => exact station.machine.stop_all hP h
  | tick => exact station.machine.tick_all hP station.energy h
  | advance slices =>
    exact h.of_devices (station.machine.stepWorker_devices
      (fun hc w g => Worker.progress_carries hc slices w g) s.hardware)
  | quiesce => exact station.machine.quiesce_all h
  | suspend => exact station.machine.suspend_all hP h
  | finalize => exact station.machine.finalize_all hP h
  | readMemory address count =>
    show (readMemory station.machine address count s.hardware).2.2.All P
    unfold readMemory
    split
    · exact h
    · exact h.of_devices rfl
  | writeMemory address data =>
    show (writeMemory station.machine address data s.hardware).2.2.All P
    unfold writeMemory
    split
    · exact h
    · exact h.writeMemory hP _ _ _
  | saveRecord => exact station.machine.saveRecord_all h
  | loadRecord r => exact station.machine.loadRecord_all hP r h
  | _ => exact h

/-! ## Runs -/

/-- If the operation builds a device, then this is true of it. -/
def Op.Builds (P : Device → Prop) : Op → Prop
  | .build d => P d
  | _ => True

namespace World

variable {w : World}

theorem stepMachine_all (hP : Device.Lasting P) (h : w.site.hardware.All P) (i : Nat) (mop : MachineOp) :
    (w.stepMachine i mop).2.site.hardware.All P := by
  unfold stepMachine
  split
  · exact h
  · next station _ => exact station.step_all hP mop h

theorem awaitBarrier_all (hP : Device.Lasting P) (h : w.site.hardware.All P) (handle : Handle) :
    (w.awaitBarrier handle).site.hardware.All P := by
  unfold awaitBarrier
  split
  · exact h
  · exact stepMachine_all hP h _ _

theorem modifyDevice_all (h : w.site.hardware.All P) {handle : Handle} {f : Device → Device}
    (hf : P (w.deviceAt handle) → P (f (w.deviceAt handle))) :
    (w.modifyDevice handle f).site.hardware.All P := h.update rfl hf

theorem changeDrive_all (hP : Device.Lasting P) (h : w.site.hardware.All P) (handle : Handle)
    {f : Drive → Drive} (hf : ∀ d, P (.drive d) → P (.drive (f d))) :
    (w.changeDrive handle f).2.site.hardware.All P := by
  refine modifyDevice_all (awaitBarrier_all hP h handle) ?_
  generalize (w.awaitBarrier handle).deviceAt handle = d
  cases d with
  | drive d => exact hf d
  | _ => exact id

theorem stepDevice_all (hP : Device.Lasting P) (h : w.site.hardware.All P) (handle : Handle)
    (op : DeviceOp) : (w.stepDevice handle op).2.site.hardware.All P := by
  cases op with
  | readMemory offset count => exact h.of_devices rfl
  | writeMemory offset data => exact h.writeMemory hP handle offset data
  | writeStorage offset data =>
    unfold stepDevice
    dsimp only
    split
    · next d hd => exact modifyDevice_all h (hP.writeStorage hd)
    · exact h
  | acknowledge => exact modifyDevice_all h (hP.acknowledge _)
  | save => exact h.of_devices rfl
  | restore state =>
    have hawait : (if w.restoresMedium handle state then w.awaitBarrier handle else w).site.hardware.All P := by
      split
      · exact awaitBarrier_all hP h handle
      · exact h
    exact hawait.restore hP handle state
  | suspend => exact h.suspend hP handle
  | finalize => exact h.finalize hP handle
  | insertMedium m => exact changeDrive_all hP h handle fun d => hP.insert d m
  | ejectMedium => exact changeDrive_all hP h handle hP.eject
  | exportMedium => exact changeDrive_all hP h handle fun _ => id
  | configure change =>
    refine modifyDevice_all h ?_
    generalize w.deviceAt handle = d
    cases d with
    | probe p => exact hP.configure p change
    | _ => exact id

theorem step_all (hP : Device.Lasting P) (h : w.site.hardware.All P) {op : Op} (hbuilds : op.Builds P) :
    (w.step op).2.site.hardware.All P := by
  cases op with
  | build d =>
    intro handle
    show P ((w.site.hardware.devices ++ [d]).getD handle.index (.bare ⟨0⟩))
    have hold := h handle
    unfold Hardware.device at hold
    simp only [List.getD_eq_getElem?_getD] at hold ⊢
    rcases Nat.lt_trichotomy handle.index w.site.hardware.devices.length with hlt | heq | hgt
    · rwa [List.getElem?_append_left hlt]
    · rw [heq, List.getElem?_concat_length]
      exact hbuilds
    · rw [List.getElem?_eq_none (by rw [List.length_append, List.length_singleton]; omega)]
      rwa [List.getElem?_eq_none (Nat.le_of_lt hgt)] at hold
  | controller i cop =>
    show (w.stepController i cop).2.site.hardware.All P
    unfold stepController
    split
    · exact h
    · next c _ =>
      cases cop with
      | poll => exact h.of_devices (c.poll_asks w.site).devices
      | scan => exact h.of_devices (c.scan_asks w.site).devices
      | _ => exact h
  | machine i mop => exact stepMachine_all hP h i mop
  | device handle dop => exact stepDevice_all hP h handle dop
  | _ => exact h

/-- What no call changes is true of all devices, if it is true of those that are built. -/
theorem run_all (hP : Device.Lasting P) (hbare : P (.bare ⟨0⟩)) {ops : List Op}
    (hbuilds : ∀ op ∈ ops, op.Builds P) : (empty.run ops).site.hardware.All P := by
  induction ops using List.reverseRecOn with
  | nil => exact fun _ => hbare
  | append_singleton ops op ih =>
    rw [run_snoc]
    exact step_all hP (ih fun o ho => hbuilds o (List.mem_append_left _ ho))
      (hbuilds op (List.mem_append_right _ (List.mem_singleton_self op)))

end World

/-! ## Drives -/

/-- A drive holds no more than its capacity. -/
def Device.Fits : Device → Prop
  | .drive d => ∀ m ∈ d.medium, m.data.length ≤ d.capacity
  | _ => True

theorem Drive.insert_fits (d : Drive) (m : Medium) : (Device.drive (d.insert m)).Fits := by
  rintro _ ⟨⟩
  exact List.length_take_le _ _

theorem Device.fits_lasting : Device.Lasting Device.Fits where
  attach d machine h := by cases d <;> exact h
  suspend d h := by cases d <;> exact h
  finalize d h := by cases d <;> exact h
  acknowledge d h := by cases d <;> exact h
  writeMemory d offset data h := by cases d <;> exact h
  writeStorage {d d' offset data} hwrite h := by
    cases d with
    | drive d =>
      obtain ⟨d', hd', rfl⟩ := exists_of_map_eq_ok hwrite
      unfold Drive.writeAt at hd'
      split at hd'
      · cases hd'
      · next m hm =>
        split at hd'
        · cases hd'
        · split at hd'
          · next hroom =>
            cases hd'
            rintro _ ⟨⟩
            have hfits := h m hm
            simp only [List.length_append, List.length_take, List.length_drop]
            omega
          · cases hd'
    | hosted host own =>
      obtain ⟨own', -, rfl⟩ := exists_of_map_eq_ok hwrite
      trivial
    | _ => cases hwrite
  restore {d d' state} hrestore h := by
    cases d with
    | drive d =>
      obtain ⟨d', hd', rfl⟩ := exists_of_map_eq_ok hrestore
      obtain ⟨m, -, rfl⟩ := exists_of_map_eq_ok hd'
      exact d.insert_fits m
    | ram r =>
      obtain ⟨r', -, rfl⟩ := exists_of_map_eq_ok hrestore
      trivial
    | probe p =>
      obtain ⟨p', -, rfl⟩ := exists_of_map_eq_ok hrestore
      trivial
    | hosted host own =>
      obtain ⟨own', -, rfl⟩ := exists_of_map_eq_ok hrestore
      trivial
    | _ =>
      cases hrestore
      exact h
  insert d m _ := d.insert_fits m
  eject d _ := by
    rintro _ ⟨⟩
  configure p change _ := trivial

/-- No drive ever holds more than its capacity. -/
theorem World.run_media_fit {ops : List Op} (hbuilds : ∀ op ∈ ops, op.Builds Device.Fits) :
    (empty.run ops).site.hardware.All Device.Fits :=
  run_all Device.fits_lasting trivial hbuilds

end DeviceBus
