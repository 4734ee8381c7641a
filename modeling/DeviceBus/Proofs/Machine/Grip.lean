import DeviceBus.Proofs.Handover
import DeviceBus.Proofs.Machine.Sessions

/-!
# Who holds a drive

A drive has one place for the machine whose worker it waits for.  An attachment writes it, whoever was
there, and a suspension clears it, whoever is there.  So whom a drive is held by follows from the calls
that it received (`holder?`).

A machine that holds a drive has the drive in its map: every piece of a machine's program keeps
`Hardware.Grip`, for the handles that the map lists, or that a load has attached so far.  The converse
fails, since another machine may suspend the drive.
-/

namespace DeviceBus

open Event (Plain)

/-! ## Calls -/

/-- The place of a device for the machine that holds it; nothing for a device without one. -/
def Device.latch? : Device → Option (Option MachineId)
  | drive d => some d.barrier
  | _ => none

namespace Device

theorem barrier?_eq (d : Device) : d.barrier? = d.latch?.join := by cases d <;> rfl

theorem barrier?_eq_some_iff {d : Device} {machine : MachineId} :
    d.barrier? = some machine ↔ d.latch? = some (some machine) := by
  cases d with
  | drive d => exact Option.some_inj.symm
  | _ => exact ⟨(fun h => nomatch h), fun h => nomatch h⟩

theorem attach_latch? (d : Device) (machine : MachineId) :
    (d.attach machine).latch? = d.latch?.map fun _ => some machine := by cases d <;> rfl

theorem suspend_latch? (d : Device) : d.suspend.latch? = d.latch?.map fun _ => none := by
  cases d <;> rfl

theorem finalize_latch? (d : Device) : d.finalize.latch? = d.latch? := by cases d <;> rfl

theorem acknowledge_latch? (d : Device) : d.acknowledge.latch? = d.latch? := by cases d <;> rfl

theorem writeMemory_latch? (d : Device) (offset : Nat) (data : Bytes) :
    (d.writeMemory offset data).latch? = d.latch? := by cases d <;> rfl

theorem restore_latch? {d d' : Device} {state : Bytes} (h : d.restore state = .ok d') :
    d'.latch? = d.latch? := by
  cases d with
  | ram r =>
    obtain ⟨r', -, rfl⟩ := exists_of_map_eq_ok h
    rfl
  | drive r =>
    obtain ⟨r', hrestore, rfl⟩ := exists_of_map_eq_ok h
    obtain ⟨medium, -, rfl⟩ := exists_of_map_eq_ok hrestore
    rfl
  | probe p =>
    obtain ⟨p', -, rfl⟩ := exists_of_map_eq_ok h
    rfl
  | hosted host state =>
    obtain ⟨state', -, rfl⟩ := exists_of_map_eq_ok h
    rfl
  | _ =>
    cases h
    rfl

theorem writeStorage_latch? {d d' : Device} {offset : Nat} {data : Bytes}
    (h : d.writeStorage offset data = .ok d') : d'.latch? = d.latch? := by
  cases d with
  | drive r =>
    obtain ⟨r', hwrite, rfl⟩ := exists_of_map_eq_ok h
    unfold Drive.writeAt at hwrite
    split at hwrite
    · cases hwrite
    · split at hwrite
      · cases hwrite
      · split at hwrite
        · cases hwrite
          rfl
        · cases hwrite
  | hosted host state =>
    obtain ⟨state', -, rfl⟩ := exists_of_map_eq_ok h
    rfl
  | _ => cases h

end Device

/-- Whom a call leaves the device `h` held by, if `holder` held it before. -/
def Event.hold (h : Handle) (e : Event) (holder : Option MachineId) : Option MachineId :=
  match e with
  | .device h' (.attach machine _ _ _) => if h' = h then some machine else holder
  | .device h' .suspend => if h' = h then none else holder
  | _ => holder

/-- Whom the device `h` is held by after some calls, the latest first, if `holder` held it before. -/
def heldAfter (h : Handle) (es : List Event) (holder : Option MachineId) : Option MachineId :=
  es.foldr (Event.hold h) holder

/-- Whom the device `h` is held by after some calls, the latest first: the machine that attached it
last, if it was not suspended since. -/
def holder? (h : Handle) (es : List Event) : Option MachineId := heldAfter h es none

/-- A call that neither attaches the device `h` nor suspends it. -/
def Event.Passes (h : Handle) (e : Event) : Prop := ∀ holder, e.hold h holder = holder

section

variable {h : Handle} {id : MachineId}

theorem Event.Plain.passes {e : Event} (he : e.Plain) (h : Handle) : e.Passes h := by
  intro holder
  cases e with
  | device h' call =>
    cases call with
    | attach => cases he.1
    | suspend => cases he.2
    | _ => rfl
  | _ => rfl

theorem heldAfter_of_passes {es : List Event} (hes : ∀ e ∈ es, e.Passes h) (holder : Option MachineId) :
    heldAfter h es holder = holder := by
  induction es with
  | nil => rfl
  | cons e es ih =>
    show e.hold h (heldAfter h es holder) = holder
    rw [ih fun e he => hes e (List.mem_cons_of_mem _ he)]
    exact hes e List.mem_cons_self holder

/-- The calls of a machine leave a device held as it was, or by the machine, or by nobody. -/
theorem heldAfter_own {es : List Event} (hes : ∀ e ∈ es, e.Own id) {holder : Option MachineId}
    {machine : MachineId} (hheld : heldAfter h es holder = some machine) :
    machine = id ∨ holder = some machine := by
  induction es with
  | nil => exact .inr hheld
  | cons e es ih =>
    have hrest := ih fun e he => hes e (List.mem_cons_of_mem _ he)
    have hown := hes e List.mem_cons_self
    replace hheld : e.hold h (heldAfter h es holder) = some machine := hheld
    unfold Event.hold at hheld
    split at hheld
    · next h' machine' _ _ _ =>
      split at hheld
      · -- the machine attaches under its own name
        cases hheld
        rcases hown with hnone | hsome
        · cases hnone
        · exact .inl (Option.some.inj hsome)
      · exact hrest hheld
    · split at hheld
      · cases hheld
      · exact hrest hheld
    · exact hrest hheld

/-! ## Devices -/

namespace Hardware

variable {base hw hw' : Hardware} {hs hs' : List Handle}

/-- A device is replaced by one whose place is what `f` makes of its own. -/
theorem latch?_update {h' : Handle} {d : Device} {f : Option MachineId → Option MachineId}
    (hsame : hw'.devices = hw.devices) (hd : d.latch? = (hw.device h').latch?.map f) :
    ((hw'.update h' d).device h).latch? =
      (hw.device h).latch?.map fun holder => if h' = h then f holder else holder := by
  have hdevice (r : Handle) : hw'.device r = hw.device r := by
    unfold device
    rw [hsame]
  by_cases heq : h' = h
  · subst heq
    rw [device_update, hdevice]
    simp only [if_true, true_and]
    split
    · exact hd
    · next hlen =>
      -- there is no such device, so it has no place either
      have hnone : (hw.device h').latch? = none := by
        unfold device
        rw [List.getD_eq_getElem?_getD, List.getElem?_eq_none (by rw [hsame] at hlen; omega)]
        rfl
      rw [hnone]
      rfl
  · rw [device_update, if_neg fun hindex => heq (congrArg Handle.mk hindex.1), hdevice]
    simp [heq]

/-- Calls were made, none of which attaches or suspends the device `h`, whose place is as it was. -/
structure Passes (h : Handle) (hw hw' : Hardware) : Prop where
  adds : hw.Adds (Event.Passes h) hw'
  latch : (hw'.device h).latch? = (hw.device h).latch?

theorem Passes.refl (h : Handle) (hw : Hardware) : hw.Passes h hw := ⟨.refl _ hw, rfl⟩

theorem Passes.trans {hw'' : Hardware} (h₁ : hw.Passes h hw') (h₂ : hw'.Passes h hw'') :
    hw.Passes h hw'' := ⟨h₁.adds.trans h₂.adds, h₂.latch.trans h₁.latch⟩

theorem passes_of_devices (hadds : hw.Adds Plain hw') (hdevices : hw'.devices = hw.devices) :
    hw.Passes h hw' := by
  refine ⟨hadds.mono fun _ he => he.passes h, ?_⟩
  unfold device
  rw [hdevices]

/-- A device is replaced by one with the same place. -/
theorem passes_update {h' : Handle} {d : Device} (hadds : hw.Adds (Event.Passes h) hw')
    (hsame : hw'.devices = hw.devices) (hd : d.latch? = (hw.device h').latch?) :
    hw.Passes h (hw'.update h' d) := by
  refine ⟨hadds, ?_⟩
  rw [latch?_update (f := fun holder => holder) hsame (by rw [hd]; simp)]
  simp

theorem record_passes (hw : Hardware) {e : Event} (he : e.Passes h) : hw.Passes h (hw.record e) :=
  ⟨.one rfl he, rfl⟩

theorem finalize_passes (hw : Hardware) (h' : Handle) : hw.Passes h (hw.finalize h') :=
  passes_update (.one rfl fun _ => rfl) rfl (Device.finalize_latch? _)

theorem save_passes (hw : Hardware) (h' : Handle) : hw.Passes h (hw.save h').2 :=
  hw.record_passes fun _ => rfl

theorem restore_passes (hw : Hardware) (h' : Handle) (state : Bytes) :
    hw.Passes h (hw.restore h' state).2 := by
  unfold restore
  split
  · next d hd => exact passes_update (.one rfl fun _ => rfl) rfl (Device.restore_latch? hd)
  · exact hw.record_passes fun _ => rfl

theorem readMemory_passes (hw : Hardware) (h' : Handle) (offset count : Nat) :
    hw.Passes h (hw.readMemory h' offset count).2 := hw.record_passes fun _ => rfl

theorem writeMemory_passes (hw : Hardware) (h' : Handle) (offset : Nat) (data : Bytes) :
    hw.Passes h (hw.writeMemory h' offset data) :=
  passes_update (.one rfl fun _ => rfl) rfl (Device.writeMemory_latch? _ _ _)

theorem foldl_passes {α : Type} {f : Hardware → α → Hardware}
    (hf : ∀ (hw : Hardware) (a : α), hw.Passes h (f hw a)) (as : List α) (hw : Hardware) :
    hw.Passes h (as.foldl f hw) := by
  induction as generalizing hw with
  | nil => exact .refl h hw
  | cons a as ih => exact (hf hw a).trans (ih (f hw a))

/-- Whom the device `h` is held by follows from the calls made since `base`, and the machine `id`
holds it only if it is one of `hs`. -/
structure Grip (hw : Hardware) (h : Handle) (id : MachineId) (base : Hardware) (hs : List Handle) :
    Prop where
  follows : ∃ es, hw.journal = es ++ base.journal ∧
    (hw.device h).latch? = (base.device h).latch?.map (heldAfter h es)
  held : (hw.device h).barrier? = some id → h ∈ hs

theorem grip_refl (hheld : (hw.device h).barrier? = some id → h ∈ hs) : hw.Grip h id hw hs := by
  refine ⟨⟨[], rfl, ?_⟩, hheld⟩
  cases (hw.device h).latch? <;> rfl

theorem Grip.mono (hg : hw.Grip h id base hs) (hsub : h ∈ hs → h ∈ hs') : hw.Grip h id base hs' :=
  ⟨hg.follows, fun hheld => hsub (hg.held hheld)⟩

theorem Grip.passes (hg : hw.Grip h id base hs) (hp : hw.Passes h hw') : hw'.Grip h id base hs := by
  refine ⟨?_, ?_⟩
  · obtain ⟨es, hjournal, hlatch⟩ := hg.follows
    obtain ⟨es', hjournal', hpasses⟩ := hp.adds
    refine ⟨es' ++ es, by rw [hjournal', hjournal, List.append_assoc], ?_⟩
    have hsame : heldAfter h (es' ++ es) = heldAfter h es := by
      funext holder
      unfold heldAfter
      rw [List.foldr_append]
      exact heldAfter_of_passes hpasses _
    rw [hp.latch, hlatch, hsame]
  · intro hheld
    rw [Device.barrier?_eq, hp.latch, ← Device.barrier?_eq] at hheld
    exact hg.held hheld

/-- A call that the device `h` may feel. -/
theorem Grip.call (hg : hw.Grip h id base hs) {e : Event} (hjournal : hw'.journal = e :: hw.journal)
    (hlatch : (hw'.device h).latch? = (hw.device h).latch?.map (e.hold h))
    (hheld : (hw'.device h).barrier? = some id → h ∈ hs') : hw'.Grip h id base hs' := by
  refine ⟨?_, hheld⟩
  obtain ⟨es, hearlier, hfollows⟩ := hg.follows
  refine ⟨e :: es, by rw [hjournal, hearlier]; rfl, ?_⟩
  rw [hlatch, hfollows, Option.map_map]
  rfl

/-- Suspending a device takes it from the list. -/
theorem Grip.suspend {h' : Handle} (hg : hw.Grip h id base (h' :: hs)) :
    (hw.suspend h').Grip h id base hs := by
  have hlatch : ((hw.suspend h').device h).latch? =
      (hw.device h).latch?.map fun holder => if h' = h then none else holder :=
    latch?_update rfl (Device.suspend_latch? _)
  refine hg.call rfl hlatch fun hheld => ?_
  rw [Device.barrier?_eq, hlatch] at hheld
  by_cases heq : h' = h
  · simp only [if_pos heq] at hheld
    cases hplace : (hw.device h).latch? with
    | none =>
      rw [hplace] at hheld
      cases hheld
    | some holder =>
      rw [hplace] at hheld
      cases hheld
  · simp only [if_neg heq, Option.map_id'] at hheld
    rw [← Device.barrier?_eq] at hheld
    rcases List.mem_cons.1 (hg.held hheld) with rfl | hmem
    · exact absurd rfl heq
    · exact hmem

/-- Attaching a device lists it, unless it refuses. -/
theorem Grip.attach (hg : hw.Grip h id base hs) (h' : Handle) (machine : MachineId)
    (address : Option Nat) (lines : List Nat) (idle : Bool) :
    match hw.attach h' machine address lines idle with
    | (.ok (), hw') => hw'.Grip h id base (hs ++ [h'])
    | (.error _, hw') => hw'.Grip h id base hs := by
  unfold Hardware.attach
  split
  · next hw' he =>
    split at he
    · cases he
    · cases he
      have hlatch : (((hw.record (.device h' (.attach machine address lines idle))).update h'
          ((hw.device h').attach machine)).device h).latch? =
          (hw.device h).latch?.map fun holder => if h' = h then some machine else holder :=
        latch?_update rfl (Device.attach_latch? (hw.device h') machine)
      refine hg.call rfl hlatch fun hheld => ?_
      by_cases heq : h' = h
      · subst heq
        exact List.mem_append_right _ (List.mem_singleton_self _)
      · rw [Device.barrier?_eq, hlatch] at hheld
        simp only [if_neg heq, Option.map_id'] at hheld
        rw [← Device.barrier?_eq] at hheld
        exact List.mem_append_left _ (hg.held hheld)
  · next fault hw' he =>
    split at he
    · cases he
      exact hg.passes (hw.record_passes fun _ => rfl)
    · cases he

end Hardware

variable {base hw : Hardware}

/-- Releasing devices one after the other leaves none of them held. -/
theorem suspendAll_grip {mappings : List Mapping} (hg : hw.Grip h id base (mappedHandles mappings)) :
    (suspendAll mappings hw).Grip h id base [] := by
  induction mappings generalizing hw with
  | nil => exact hg
  | cons m rest ih => exact ih hg.suspend

theorem AttachContext.abort_grip {ctx : AttachContext}
    (hg : hw.Grip h id base (mappedHandles ctx.mappings)) : (ctx.abort hw).Grip h id base [] := by
  refine suspendAll_grip (hg.mono fun hmem => ?_)
  unfold mappedHandles at hmem ⊢
  rw [List.map_reverse, List.mem_reverse]
  exact hmem

/-- Attaching one more device of a load. -/
theorem AttachContext.attach_grip {ctx : AttachContext}
    (hg : hw.Grip h id base (mappedHandles ctx.mappings)) (machine : MachineId) (idle : Bool)
    (entry : BusDevice) :
    match ctx.attach machine idle entry hw with
    | (.ok ctx', hw') => hw'.Grip h id base (mappedHandles ctx'.mappings)
    | (.error _, hw') => hw'.Grip h id base (mappedHandles ctx.mappings) := by
  unfold AttachContext.attach
  dsimp only
  cases ctx.place entry (hw.device entry.device.handle).size with
  | error e => exact hg
  | ok address =>
    dsimp only
    cases ctx.wire entry (hw.device entry.device.handle) with
    | error e => exact hg
    | ok lines =>
      have hattach := hg.attach entry.device.handle machine address lines idle
      dsimp only
      generalize hw.attach entry.device.handle machine address lines idle = p at hattach
      obtain ⟨result, hw'⟩ := p
      cases result with
      | error reason => exact hattach
      | ok done =>
        show hw'.Grip h id base (mappedHandles (ctx.mappings ++ [_]))
        unfold mappedHandles at hattach ⊢
        rw [List.map_append]
        exact hattach

theorem DemoMachine.install_passes (m : DemoMachine) (map : DeviceMap) (hw : Hardware) :
    hw.Passes h (m.install map hw).2.2 := by
  have hcheck : hw.Passes h (checkMemory map hw).2 := by
    unfold checkMemory
    split
    · exact .refl h hw
    · next h' offset _ =>
      exact (hw.writeMemory_passes h' offset signature).trans (Hardware.readMemory_passes _ h' offset _)
  unfold install
  dsimp only
  split <;> next he => rwa [he] at hcheck

theorem Emulator.install_passes (e : Emulator) (map : DeviceMap) (hw : Hardware) :
    hw.Passes h (e.install map hw).2.2 := by
  cases e with
  | demo m => exact m.install_passes map hw
  | scripted s => exact .refl h hw

/-! ## Machines -/

namespace Machine

/-- Whom the device `h` is held by follows from the calls made since `base`, and the machine `id`
holds it only if it is in the map. -/
def Grips (h : Handle) (id : MachineId) (base : Hardware) (p : Machine × Hardware) : Prop :=
  p.2.Grip h id base p.1.handles

variable {m m' : Machine} {hw' : Hardware}

/-- Without a map no device is held. -/
theorem grips_of_none (hmap : m.map = none) (hg : hw.Grip h id base []) : Grips h id base (m, hw) := by
  show hw.Grip h id base m.handles
  rw [handles_of_none hmap]
  exact hg

theorem Grips.grip_nil (hg : Grips h id base (m, hw)) (hmap : m.map = none) : hw.Grip h id base [] := by
  have hgrip : hw.Grip h id base m.handles := hg
  rwa [handles_of_none hmap] at hgrip

theorem Grips.same (hg : Grips h id base (m, hw)) (hmap : m'.map = m.map) (hp : hw.Passes h hw') :
    Grips h id base (m', hw') := by
  have hhandles : m'.handles = m.handles := by
    unfold handles
    rw [hmap]
  show hw'.Grip h id base m'.handles
  rw [hhandles]
  exact Hardware.Grip.passes hg hp

/-- Slices neither attach nor suspend a device. -/
theorem runSlice_passes (id : MachineId) :
    Worker.Carries (runSlice id) fun g g' => g.hardware.Passes h g'.hardware where
  refl g := .refl h g.hardware
  trans := .trans
  slice _ g := g.hardware.record_passes fun _ => rfl

theorem stepWorker_passes {step : WorkerStep}
    (hstep : ∀ {run R}, Worker.Carries run R → ∀ w g, R g (step run w g).2) (m : Machine)
    (hw : Hardware) : hw.Passes h (m.stepWorker step hw).2 :=
  hstep (runSlice_passes m.id) m.worker ⟨m.emulator, m.terminal, hw⟩

theorem Grips.stepWorker (hg : Grips h id base (m, hw)) {step : WorkerStep}
    (hstep : ∀ {run R}, Worker.Carries run R → ∀ w g, R g (step run w g).2) :
    Grips h id base (m.stepWorker step hw) :=
  hg.same rfl (stepWorker_passes hstep m hw)

theorem Grips.quiesce (hg : Grips h id base (m, hw)) : Grips h id base (m.quiesce hw) :=
  hg.stepWorker Worker.quiesce_carries

theorem Grips.cancel (hg : Grips h id base (m, hw)) : Grips h id base (m.cancel hw) :=
  hg.stepWorker Worker.cancel_carries

theorem Grips.releaseDevices (hg : Grips h id base (m, hw)) : Grips h id base (m.releaseDevices hw) := by
  show Grips h id base ((m.releaseDevices hw).1, (m.releaseDevices hw).2)
  refine grips_of_none (m.releaseDevices_map hw) ?_
  unfold Machine.releaseDevices
  split
  · next hmap => exact hg.grip_nil hmap
  · next map hmap =>
    have hgrip : hw.Grip h id base m.handles := hg
    rw [handles_of_some hmap] at hgrip
    exact suspendAll_grip hgrip

theorem Grips.clear (hg : Grips h id base (m, hw)) : Grips h id base (m.clear hw) :=
  hg.quiesce.releaseDevices

theorem Grips.halt (hg : Grips h id base (m, hw)) (error : BootError) :
    Grips h id base (m.halt error hw) :=
  grips_of_none (m.halt_outcome error hw).2.2
    (hg.cancel.releaseDevices.grip_nil ((m.cancel hw).1.releaseDevices_map (m.cancel hw).2))

/-! ### Loading -/

theorem restoreDevice_passes (m : Machine) (entry : BusDevice) (hw : Hardware) :
    hw.Passes h (m.restoreDevice entry hw).2.2 := by
  unfold restoreDevice
  split
  · exact .refl h hw
  · next state _ =>
    have hrestore : hw.Passes h (hw.restore entry.device.handle state).2 := hw.restore_passes _ _
    dsimp only
    split <;> next he => rwa [he] at hrestore

/-- Attaching the rest of the devices of a load: all of them, or none and those before them neither. -/
theorem attachEach_grip (entries : List BusDevice) (ctx : AttachContext) (m : Machine)
    (hg : hw.Grip h id base (mappedHandles ctx.mappings)) :
    match attachEach entries ctx m hw with
    | (.ok ctx', _, hw') => hw'.Grip h id base (mappedHandles ctx'.mappings)
    | (.error _, _, hw') => hw'.Grip h id base [] := by
  induction entries generalizing ctx m hw with
  | nil => exact hg
  | cons entry rest ih =>
    have hrestore : hw.Passes h (m.restoreDevice entry hw).2.2 := m.restoreDevice_passes entry hw
    unfold attachEach
    generalize m.restoreDevice entry hw = p at hrestore
    obtain ⟨result, m', hw'⟩ := p
    have hg' := hg.passes hrestore
    cases result with
    | error e => exact AttachContext.abort_grip hg'
    | ok _ =>
      have hattach := AttachContext.attach_grip hg' m'.id m'.worker.isIdle entry
      dsimp only
      generalize ctx.attach m'.id m'.worker.isIdle entry hw' = p at hattach
      obtain ⟨result, hw''⟩ := p
      cases result with
      | error e => exact AttachContext.abort_grip hattach
      | ok ctx' => exact ih ctx' m' hattach

theorem resetEmulator_passes (m : Machine) (hw : Hardware) : hw.Passes h (m.resetEmulator hw).2 :=
  hw.record_passes fun _ => rfl

theorem installDevices_grip (m : Machine) (keepState : Bool) (map : DeviceMap)
    (hg : hw.Grip h id base (mappedHandles map.mappings)) :
    match m.installDevices keepState map hw with
    | (.ok map', _, hw') => hw'.Grip h id base (mappedHandles map'.mappings)
    | (.error _, _, hw') => hw'.Grip h id base [] := by
  have hreset : hw.Passes h (if keepState then (m, hw) else m.resetEmulator hw).2 := by
    split
    · exact .refl h hw
    · exact m.resetEmulator_passes hw
  unfold installDevices
  generalize (if keepState then (m, hw) else m.resetEmulator hw) = p at hreset
  obtain ⟨m', hw'⟩ := p
  have hinstall : hw'.Passes h (m'.install map hw').2.2 :=
    (m'.emulator.install_passes map hw').trans (Hardware.record_passes _ fun _ => rfl)
  have hg' := (hg.passes hreset).passes hinstall
  dsimp only
  generalize m'.install map hw' = p at hg'
  obtain ⟨result, m'', hw''⟩ := p
  cases result with
  | error fault => exact suspendAll_grip hg'
  | ok _ => exact hg'

theorem attachAll_grip (m : Machine) (keepState : Bool) (hg : hw.Grip h id base []) :
    match m.attachAll keepState hw with
    | (.ok map, _, hw') => hw'.Grip h id base (mappedHandles map.mappings)
    | (.error _, _, hw') => hw'.Grip h id base [] := by
  have hattach := attachEach_grip m.controller.devices (.new m.config) m hg
  unfold attachAll
  generalize attachEach m.controller.devices (.new m.config) m hw = p at hattach
  obtain ⟨result, m', hw'⟩ := p
  cases result with
  | error e => exact hattach
  | ok ctx => exact m'.installDevices_grip keepState ctx.finish hattach

/-- What a load attached is in the map afterwards. -/
theorem load_grips (hmap : m.map = none) (hg : hw.Grip h id base []) :
    Grips h id base (m.load hw) := by
  have hquiesce : Grips h id base (({ m with resume := false } : Machine).quiesce hw) :=
    (grips_of_none (m := { m with resume := false }) hmap hg).quiesce
  have hmap₁ : (({ m with resume := false } : Machine).quiesce hw).1.map = none := hmap
  unfold load
  generalize ({ m with resume := false } : Machine).quiesce hw = p at hquiesce hmap₁
  obtain ⟨m₁, hw₁⟩ := p
  have hattach := m₁.attachAll_grip m.resume (hquiesce.grip_nil hmap₁)
  have hsteady := m₁.attachAll_steady m.resume hw₁
  dsimp only
  generalize m₁.attachAll m.resume hw₁ = p at hattach hsteady
  obtain ⟨result, m₂, hw₂⟩ := p
  cases result with
  | error e => exact (grips_of_none (hsteady.map.trans hmap₁) hattach).halt e
  | ok map =>
    obtain ⟨_, worker, -, houtcome⟩ := m₂.enter_cases m.resume map hw₂
    have hseated : Grips h id base ({ m₂ with map := some map, media := .empty, worker }, hw₂) := hattach
    dsimp only at houtcome ⊢
    rcases houtcome with ⟨-, -, he⟩ | ⟨reason, -, -, he⟩ <;> rw [he]
    · exact hseated.same (settle_sameInside _ _ _).map (.refl h hw₂)
    · exact hseated.halt (.io reason)

/-! ### Starting, stopping and ticking -/

theorem Grips.start (hg : Grips h id base (m, hw)) (hm : m.Sound) : Grips h id base (m.start hw).2 := by
  cases hload : m.startLoad? hw with
  | some p =>
    rw [start_of_some hload]
    obtain ⟨hstart, rfl⟩ := startLoad?_moment hload
    have hmap := hm.map_none (not_running_of_startable hstart)
    exact load_grips (m.accept_map.trans hmap) (hg.grip_nil hmap)
  | none =>
    rw [start_of_none hload]
    dsimp only
    split
    · exact hg.same m.accept_map (.refl h hw)
    · exact hg

theorem Grips.stop (hg : Grips h id base (m, hw)) : Grips h id base (m.stop hw) := by
  unfold Machine.stop
  split
  · have hstopping : Grips h id base (m.setRunState .stopping, hw) :=
      hg.same (setRunState_sameInside _ _).map (.refl h hw)
    have hcancel := hstopping.cancel
    generalize (m.setRunState .stopping).cancel hw = p at hcancel
    obtain ⟨m₁, hw₁⟩ := p
    have hrelease := hcancel.releaseDevices
    dsimp only
    generalize m₁.releaseDevices hw₁ = p at hrelease
    obtain ⟨m₂, hw₂⟩ := p
    exact hrelease.same (setRunState_sameInside _ .stopped).map (.refl h hw₂)
  · exact hg

theorem Grips.swap (hg : Grips h id base (m, hw)) : Grips h id base (m.swap hw) := by
  have hclear := hg.clear
  have hmap : (m.clear hw).1.map = none := releaseDevices_map _ _
  cases hload : m.swapLoad? hw with
  | some p =>
    rw [swap_of_some hload]
    unfold swapLoad? at hload
    dsimp only at hload
    split at hload
    · cases hload
      exact load_grips hmap (hclear.grip_nil hmap)
    · cases hload
  | none =>
    rw [swap_of_none hload]
    exact hclear

theorem Grips.absorbChanges (hg : Grips h id base (m, hw)) : Grips h id base (m.absorbChanges hw) := by
  have hchanges : Grips h id base ({ m with controller := m.controller.takeChanges.2 }, hw) :=
    hg.same rfl (.refl h hw)
  unfold Machine.absorbChanges
  dsimp only
  split
  · exact hchanges.swap
  · exact hchanges

theorem Grips.step (hg : Grips h id base (m, hw)) (energy : EnergySource) :
    Grips h id base ((m.step energy hw).1, (m.step energy hw).2.2) := by
  unfold Machine.step
  split
  · next fault worker _ =>
    have hworker : Grips h id base ({ m with worker }, hw) := hg.same rfl (.refl h hw)
    exact hworker.halt (.emulation fault)
  · have hdrift : Grips h id base (m.drift m.platform.look hw) :=
      drift_cases (P := Grips h id base) hg (fun slices => hg.stepWorker fun hc => Worker.progress_carries hc slices)
        m.platform.look
    rw [grantTick_eq]
    exact hdrift.same (grantAtOnce_steady _ energy).map (.refl h _)

theorem Grips.proceed (hg : Grips h id base (m, hw)) (hm : m.Sound) (energy : EnergySource) :
    Grips h id base ((m.proceed energy hw).1, (m.proceed energy hw).2.2) := by
  cases hload : m.proceedLoad? hw with
  | some p =>
    rw [proceed_of_some hload]
    unfold proceedLoad? at hload
    split at hload
    · next hrun _ =>
      cases hload
      have hmap := hm.map_none (by rw [hrun]; decide)
      exact load_grips hmap (hg.grip_nil hmap)
    · split at hload
      · next hmap =>
        cases hload
        have hnone : m.map = none := Option.isNone_iff_eq_none.1 hmap
        exact load_grips hnone (hg.grip_nil hnone)
      · cases hload
    · cases hload
  | none =>
    rcases proceed_of_none hload energy with he | ⟨-, -, he⟩
    · rw [he]
      exact hg
    · rw [he]
      exact hg.step energy

theorem Grips.tick {s : Site} (hg : Grips h id base (m, s.hardware)) (hm : m.Sound)
    (energy : EnergySource) :
    Grips h id base ((m.tick energy s).1, (m.tick energy s).2.2.hardware) := by
  have hobserve : Grips h id base ((m.observe s).1, (m.observe s).2.hardware) :=
    hg.same (m.observe_steady s).map (Hardware.passes_of_devices (m.controller.poll_adds s)
      (m.controller.poll_asks s).devices)
  obtain ⟨failure, htaken⟩ := takeUp_closes hm s
  have hsound : (m.takeUp s).1.Sound := htaken.sound
  unfold takeUp at hsound
  rw [tick_eq]
  generalize m.observe s = p at hobserve hsound
  obtain ⟨m₁, s₁⟩ := p
  have habsorb := hobserve.absorbChanges
  dsimp only at habsorb hsound ⊢
  generalize m₁.absorbChanges s₁.hardware = p at habsorb hsound
  obtain ⟨m₂, hw₂⟩ := p
  have hproceed := habsorb.proceed hsound energy
  dsimp only
  generalize m₂.proceed energy hw₂ = p at hproceed
  obtain ⟨m₃, energy₃, hw₃⟩ := p
  exact hproceed.same ((flushTerminal_steady m₃).trans (publishMedia_steady _ hw₃)).map (.refl h hw₃)

/-! ### Suspension and persistence -/

theorem Grips.suspend {s : Site} (hg : Grips h id base (m, s.hardware)) :
    Grips h id base ((m.suspend s).1, (m.suspend s).2.hardware) := by
  have hshutdown : Grips h id base (m.shutdown s.hardware) := hg.stepWorker Worker.shutdown_carries
  unfold Machine.suspend
  generalize m.shutdown s.hardware = p at hshutdown
  obtain ⟨m₁, hw₁⟩ := p
  have hnote : Grips h id base (m₁, m₁.noteCall .releaseScratch hw₁) :=
    hshutdown.same rfl (hw₁.record_passes fun _ => rfl)
  have hrelease := hnote.releaseDevices
  dsimp only
  generalize m₁.releaseDevices (m₁.noteCall .releaseScratch hw₁) = p at hrelease
  obtain ⟨m₂, hw₂⟩ := p
  refine hrelease.same ?_ (.refl h hw₂)
  dsimp only
  split <;> rfl

theorem Grips.finalize {s : Site} (hg : Grips h id base (m, s.hardware)) :
    Grips h id base ((m.finalize s).1, (m.finalize s).2.hardware) := by
  have hsuspend := hg.suspend
  unfold Machine.finalize
  generalize m.suspend s = p at hsuspend
  obtain ⟨m₁, s₁⟩ := p
  have hdevices := Hardware.foldl_passes (h := h)
    (fun hw (d : BusDevice) => hw.finalize_passes d.device.handle) m₁.controller.devices s₁.hardware
  have hreset := hdevices.trans (m₁.resetEmulator_passes _)
  exact hsuspend.same (settle_sameInside _ _ _).map hreset

theorem Grips.loadRecord (hg : Grips h id base (m, hw)) (r : Record) :
    Grips h id base (m.loadRecord r hw) := by
  have hrelease : Grips h id base ((m.cancel hw).1.releaseDevices (m.cancel hw).2) :=
    hg.cancel.releaseDevices
  unfold Machine.loadRecord
  generalize m.cancel hw = p at hrelease
  obtain ⟨m₁, hw₁⟩ := p
  dsimp only at hrelease ⊢
  generalize m₁.releaseDevices hw₁ = p at hrelease
  obtain ⟨m₂, hw₂⟩ := p
  have hadopt : Grips h id base (m₂.adoptRecord r, hw₂) := hrelease.same rfl (.refl h hw₂)
  dsimp only
  split
  · exact hadopt
  · have hrestore : hw₂.Passes h ((m₂.adoptRecord r).restoreEmulator r.emulation hw₂).2.2 := by
      unfold restoreEmulator
      split <;> exact hw₂.record_passes fun _ => rfl
    have hrestored := hadopt.same ((m₂.adoptRecord r).restoreEmulator_map r.emulation hw₂) hrestore
    generalize (m₂.adoptRecord r).restoreEmulator r.emulation hw₂ = p at hrestored
    obtain ⟨result, m₃, hw₃⟩ := p
    cases result with
    | ok _ => exact hrestored
    | error fault => exact hrestored.same (m₃.rejectEmulation_map fault) (.refl h hw₃)

theorem saveDevice_passes (saved : Table DeviceId Bytes × Hardware) (d : BusDevice) :
    saved.2.Passes h (saveDevice saved d).2 := by
  unfold saveDevice
  dsimp only
  split
  · exact .refl h _
  · have hsave : saved.2.Passes h (saved.2.save d.device.handle).2 := saved.2.save_passes _
    split <;> next he => rwa [he] at hsave

theorem foldl_saveDevice_passes (devices : List BusDevice) (saved : Table DeviceId Bytes × Hardware) :
    saved.2.Passes h (devices.foldl saveDevice saved).2 := by
  induction devices generalizing saved with
  | nil => exact .refl h _
  | cons d rest ih => exact (saveDevice_passes saved d).trans (ih (saveDevice saved d))

theorem Grips.saveRecord (hg : Grips h id base (m, hw)) : Grips h id base (m.saveRecord hw).2 := by
  have hsaved := foldl_saveDevice_passes (h := h) (m.quiesce hw).1.controller.devices
    ((m.quiesce hw).1.pendingStates, (m.quiesce hw).2)
  exact hg.quiesce.same rfl (hsaved.trans (Hardware.record_passes _ fun _ => rfl))

end Machine

/-! ## Operations -/

/-- Every operation of a machine keeps whom a drive is held by in step with the calls, and what the
machine holds in its map. -/
theorem Station.step_grips {station : Station} {s : Site} (op : MachineOp)
    (hg : Machine.Grips h id base (station.machine, s.hardware)) (hm : station.machine.Sound) :
    Machine.Grips h id base ((station.step s op).2.1.machine, (station.step s op).2.2.hardware) := by
  cases op with
  | start => exact hg.start hm
  | stop => exact hg.stop
  | tick => exact hg.tick hm station.energy
  | advance slices => exact hg.stepWorker fun h w g => Worker.progress_carries h slices w g
  | quiesce => exact hg.quiesce
  | suspend => exact hg.suspend
  | finalize => exact hg.finalize
  | readMemory address count =>
    show Machine.Grips h id base (readMemory station.machine address count s.hardware).2
    unfold readMemory
    split
    · exact hg
    · exact hg.same rfl (s.hardware.readMemory_passes _ _ _)
  | writeMemory address data =>
    show Machine.Grips h id base (writeMemory station.machine address data s.hardware).2
    unfold writeMemory
    split
    · exact hg
    · exact hg.same rfl (s.hardware.writeMemory_passes _ _ _)
  | saveRecord => exact hg.saveRecord
  | loadRecord r => exact hg.loadRecord r
  | _ => exact hg.same rfl (.refl h _)

end

end DeviceBus
