import DeviceBus.Proofs.Attachment
import DeviceBus.Proofs.Charts
import DeviceBus.Proofs.Machine.Upkeep
import DeviceBus.Proofs.Storage

/-!
# Device states across a record

A record has the states that the devices of a bus had when it was saved.  A machine that takes it over
hands them to the devices of its own bus in its next load, so these have the states then:

    saved `A` when the record was saved, had `B` when the load began
      → the load gives the emulator a device that saves `A.or B`

A device that has no state to save leaves nothing in the record, and nothing is handed over for it.  For a
drive that means it had no medium, and the drive it stands for keeps the medium that is in it
(`World.states_survive_iff`).
-/

namespace DeviceBus

/-! ## Devices -/

/-- A drive that restored what another one saved saves the same, if the medium fits. -/
theorem Drive.restore_save {d e e' : Drive} {state : Bytes} (hsave : d.save = some state)
    (hfits : ∀ m ∈ d.medium, m.data.length ≤ e.capacity) (h : e.restore state = .ok e') :
    e'.save = some state := by
  obtain ⟨m, hm, rfl⟩ := Option.map_eq_some_iff.1 hsave
  obtain ⟨state, hstate, hsaved⟩ := savedMedium_save hm
  cases hsave.symm.trans hstate
  rw [restore_of_savedMedium hsaved (hfits m hm)] at h
  cases h
  rfl

namespace Device

/-- Two memories of one size, or two drives of one capacity. -/
def sameMake : Device → Device → Bool
  | .ram a, .ram b => a.size = b.size
  | .drive a, .drive b => a.capacity = b.capacity
  | _, _ => false

/-- A device is handed a state if there is one. -/
def Takes (state? : Option Bytes) (d d' : Device) : Prop :=
  match state? with
  | none => d' = d
  | some state => d.restore state = .ok d'

theorem attach_save (d : Device) (machine : MachineId) : (d.attach machine).save = d.save := by
  cases d with
  | hosted host own => exact host.attach_save machine own
  | _ => rfl

theorem suspend_save (d : Device) : d.suspend.save = d.save := by
  cases d with
  | hosted host own => exact host.suspend_save own
  | _ => rfl

/-- A device that was handed what a device of its make saved saves the same.  Without a state to hand over
it saves what it had. -/
theorem Takes.save {a b b' : Device} (h : Takes a.save b b') (hfits : a.Fits)
    (hmake : a.sameMake b = true) : b'.save = a.save.or b.save := by
  cases hsave : a.save with
  | none =>
    rw [hsave] at h
    cases h
    rfl
  | some state =>
    rw [hsave] at h
    rw [Option.some_or]
    cases a <;> cases b <;> try cases hmake
    case ram r e =>
      obtain ⟨e', he', rfl⟩ := exists_of_map_eq_ok h
      exact congrArg some (Ram.restore_save he')
    case drive d e =>
      obtain ⟨e', he', rfl⟩ := exists_of_map_eq_ok h
      have hcapacity : d.capacity = e.capacity := of_decide_eq_true hmake
      exact Drive.restore_save hsave (fun m hm => hcapacity ▸ hfits m hm) he'

end Device

/-! ## Attaching -/

namespace Hardware

/-- A device object in place of another, seen through every handle.  A handle without an object behind
it goes on to stand for the same device. -/
theorem device_update_eq {hw : Hardware} {h : Handle} {d : Device}
    (hbare : hw.device h = .bare ⟨0⟩ → d = .bare ⟨0⟩) (r : Handle) :
    (hw.update h d).device r = if h = r then d else hw.device r := by
  rw [device_update]
  by_cases hr : h = r
  · subst hr
    rw [if_pos rfl]
    split
    · rfl
    · next hout =>
      have hnone : hw.device h = .bare ⟨0⟩ := by
        unfold device
        rw [List.getD_eq_getElem?_getD, List.getElem?_eq_none (by omega)]
        rfl
      rw [hbare hnone, hnone]
  · have hindex : ¬ (h.index = r.index ∧ h.index < hw.devices.length) := by
      rintro ⟨heq, -⟩
      cases h
      cases r
      exact hr (congrArg Handle.mk heq)
    rw [if_neg hr, if_neg hindex]

theorem restore_device {hw hw' : Hardware} {h : Handle} {state : Bytes}
    (hok : hw.restore h state = (.ok (), hw')) :
    (hw.device h).restore state = .ok (hw'.device h) ∧ ∀ r, r ≠ h → hw'.device r = hw.device r := by
  unfold restore at hok
  split at hok
  · next d hd =>
    cases hok
    have hbare (hbare : hw.device h = .bare ⟨0⟩) : d = .bare ⟨0⟩ := by
      rw [hbare] at hd
      cases hd
      rfl
    have hdevice (r : Handle) : ((hw.record (.device h (.restore state true))).update h d).device r =
        if h = r then d else hw.device r := device_update_eq hbare r
    refine ⟨?_, fun r hr => ?_⟩
    · rw [hdevice, if_pos rfl, hd]
    · rw [hdevice, if_neg (Ne.symm hr)]
  · cases hok

/-- All devices save what they saved. -/
def SavesAlike (hw hw' : Hardware) : Prop := ∀ h, (hw'.device h).save = (hw.device h).save

variable {hw hw' hw'' : Hardware}

theorem SavesAlike.refl (hw : Hardware) : hw.SavesAlike hw := fun _ => rfl

theorem SavesAlike.trans (h : hw.SavesAlike hw') (h' : hw'.SavesAlike hw'') : hw.SavesAlike hw'' :=
  fun handle => (h' handle).trans (h handle)

theorem SavesAlike.of_devices (h : hw'.devices = hw.devices) : hw.SavesAlike hw' := by
  intro handle
  unfold device
  rw [h]

theorem suspend_savesAlike (hw : Hardware) (h : Handle) : hw.SavesAlike (hw.suspend h) := by
  intro r
  have hbare (hbare : hw.device h = .bare ⟨0⟩) : (hw.device h).suspend = .bare ⟨0⟩ := by
    rw [hbare]
    rfl
  have hdevice : (hw.suspend h).device r = if h = r then (hw.device h).suspend else hw.device r :=
    device_update_eq hbare r
  rw [hdevice]
  split
  · next heq => rw [Device.suspend_save, heq]
  · rfl

end Hardware

theorem suspendAll_savesAlike (mappings : List Mapping) (hw : Hardware) :
    hw.SavesAlike (suspendAll mappings hw) := by
  unfold suspendAll
  induction mappings generalizing hw with
  | nil => exact .refl hw
  | cons m rest ih => exact (hw.suspend_savesAlike m.device.handle).trans (ih (hw.suspend m.device.handle))

theorem AttachContext.attach_device {ctx ctx' : AttachContext} {machine : MachineId} {idle : Bool}
    {entry : BusDevice} {hw hw' : Hardware} (h : ctx.attach machine idle entry hw = (.ok ctx', hw'))
    (r : Handle) : hw'.device r =
      if entry.device.handle = r then (hw.device r).attach machine else hw.device r := by
  unfold attach at h
  dsimp only at h
  split at h
  · cases h
  · split at h
    · cases h
    · next lines _ =>
      split at h
      · cases h
      · next hw'' hattach =>
        cases h
        unfold Hardware.attach at hattach
        split at hattach
        · cases hattach
        · cases hattach
          have hbare (hbare : hw.device entry.device.handle = .bare ⟨0⟩) :
              (hw.device entry.device.handle).attach machine = .bare ⟨0⟩ := by
            rw [hbare]
            rfl
          refine (Hardware.device_update_eq hbare r).trans ?_
          split
          · next heq => rw [heq]
          · rfl

/-- All that an emulator does to a device it is given is that the demo machine writes its signature to a
memory. -/
theorem Emulator.install_device (e : Emulator) (map : DeviceMap) (hw : Hardware) (h : Handle) :
    (e.install map hw).2.2.device h = hw.device h ∨ (∃ m, e = .demo m) ∧
      ∃ offset, (e.install map hw).2.2.device h = (hw.device h).writeMemory offset DemoMachine.signature := by
  cases e with
  | scripted s => exact .inl rfl
  | demo m =>
    have hcheck : (DemoMachine.checkMemory map hw).2.device h = hw.device h ∨
        ∃ offset, (DemoMachine.checkMemory map hw).2.device h =
          (hw.device h).writeMemory offset DemoMachine.signature := by
      unfold DemoMachine.checkMemory
      split
      · exact .inl rfl
      · next r offset _ =>
        have hbare (hbare : hw.device r = .bare ⟨0⟩) :
            (hw.device r).writeMemory offset DemoMachine.signature = .bare ⟨0⟩ := by
          rw [hbare]
          rfl
        have hdevice : (hw.writeMemory r offset DemoMachine.signature).device h =
            if r = h then (hw.device r).writeMemory offset DemoMachine.signature else hw.device h :=
          Hardware.device_update_eq hbare h
        by_cases heq : r = h
        · subst heq
          exact .inr ⟨offset, hdevice.trans (if_pos rfl)⟩
        · exact .inl (hdevice.trans (if_neg heq))
    have hinstall : ((Emulator.demo m).install map hw).2.2 = (DemoMachine.checkMemory map hw).2 := by
      show (m.install map hw).2.2 = _
      unfold DemoMachine.install
      dsimp only
      split <;> next he => rw [he]
    rw [hinstall]
    exact hcheck.imp_right fun hwrites => ⟨⟨m, rfl⟩, hwrites⟩

namespace Machine

variable {m m' : Machine} {hw hw' : Hardware}

theorem restoreDevice_device {entry : BusDevice} (h : m.restoreDevice entry hw = (.ok (), m', hw')) :
    m'.id = m.id ∧ (∀ id, id ≠ entry.id → m'.pendingStates.get? id = m.pendingStates.get? id) ∧
      Device.Takes (m.pendingStates.get? entry.id) (hw.device entry.device.handle)
        (hw'.device entry.device.handle) ∧
      ∀ r, r ≠ entry.device.handle → hw'.device r = hw.device r := by
  unfold restoreDevice at h
  split at h
  · next hnone =>
    cases h
    rw [hnone]
    exact ⟨rfl, fun _ _ => rfl, rfl, fun _ _ => rfl⟩
  · next state hsome =>
    dsimp only at h
    split at h
    · next hw'' hrestore =>
      cases h
      rw [hsome]
      obtain ⟨htakes, hothers⟩ := Hardware.restore_device hrestore
      refine ⟨rfl, fun id hid => ?_, htakes, hothers⟩
      show (m.pendingStates.erase entry.id).get? id = _
      rw [Table.get?_erase, if_neg fun hindex => hid (Key.index_inj hindex).symm]
    · cases h

/-- Every device that is attached was handed the state that waited for it before. -/
theorem attachEach_takes {entries : List BusDevice} {ctx ctx' : AttachContext}
    (hids : (entries.map BusDevice.id).Nodup) (hhandles : (busHandles entries).Nodup)
    (h : attachEach entries ctx m hw = (.ok ctx', m', hw')) :
    (∀ r, r ∉ busHandles entries → hw'.device r = hw.device r) ∧
      ∀ entry ∈ entries, ∃ d, Device.Takes (m.pendingStates.get? entry.id) (hw.device entry.device.handle) d ∧
        hw'.device entry.device.handle = d.attach m.id := by
  induction entries generalizing ctx m hw with
  | nil =>
    cases h
    exact ⟨fun _ _ => rfl, fun entry hentry => absurd hentry List.not_mem_nil⟩
  | cons first rest ih =>
    obtain ⟨hid, hids⟩ := List.nodup_cons.1 hids
    obtain ⟨hhandle, hhandles⟩ := List.nodup_cons.1 hhandles
    unfold attachEach at h
    split at h
    · cases h
    · next m₁ hw₁ hrestore =>
      split at h
      · cases h
      · next ctx₂ hw₂ hattach =>
        obtain ⟨hmachine, hstates, htakes, hothers⟩ := restoreDevice_device hrestore
        have hattached := AttachContext.attach_device hattach
        obtain ⟨hbeside, hrest⟩ := ih hids hhandles h
        refine ⟨fun r hr => ?_, fun entry hentry => ?_⟩
        · obtain ⟨hfirst, hrest⟩ := not_or.1 (mt List.mem_cons.2 hr)
          rw [hbeside r hrest, hattached, if_neg (Ne.symm hfirst), hothers r hfirst]
        · rcases List.mem_cons.1 hentry with rfl | hentry
          · refine ⟨_, htakes, ?_⟩
            rw [hbeside _ hhandle, hattached, if_pos rfl, hmachine]
          · -- the rest finds the state and the device of this one as they were
            have hne : entry.id ≠ first.id := fun heq => hid (heq ▸ List.mem_map_of_mem hentry)
            have hne' : entry.device.handle ≠ first.device.handle := fun heq =>
              hhandle (List.mem_map.2 ⟨entry, hentry, heq⟩)
            obtain ⟨d, hd, hdevice⟩ := hrest entry hentry
            rw [hstates _ hne, hattached, if_neg (Ne.symm hne'), hothers _ hne'] at hd
            rw [hmachine] at hdevice
            exact ⟨d, hd, hdevice⟩

/-! ## Loads -/

/-- The machine and the devices when a load has attached them all, and gives them to the emulator. -/
def offered (m : Machine) (hw : Hardware) : Machine × Hardware :=
  let (m', hw) := { m with resume := false }.quiesce hw
  let (_, m', hw) := attachEach m'.controller.devices (.new m'.config) m' hw
  if m.resume then (m', hw) else m'.resetEmulator hw

/-- A load that completes attached all devices, and after that only the emulator did something to them. -/
theorem load_offers (h : m.loadError? hw = none) :
    (∃ ctx, (attachEach m.controller.devices (.new m.config) (({ m with resume := false } : Machine).quiesce hw).1
        (({ m with resume := false } : Machine).quiesce hw).2).1 = .ok ctx) ∧
      ∃ map, (m.load hw).1.map = some map ∧
        (m.load hw).2.devices = ((m.offered hw).1.emulator.install map (m.offered hw).2).2.2.devices := by
  have hrelays := (({ m with resume := false } : Machine).quiesce_acts hw).relays
  unfold loadError? at h
  unfold load offered
  generalize ({ m with resume := false } : Machine).quiesce hw = p at h hrelays
  obtain ⟨m₁, hw₁⟩ := p
  have hcontroller : m₁.controller = m.controller := hrelays.controller
  have hconfig : m₁.config = m.config := hrelays.config
  dsimp only at h ⊢
  unfold attachAll at h ⊢
  rw [← hcontroller, ← hconfig]
  generalize attachEach m₁.controller.devices (.new m₁.config) m₁ hw₁ = q at h
  obtain ⟨result, m₂, hw₂⟩ := q
  cases result with
  | error e => cases h
  | ok ctx =>
    refine ⟨⟨ctx, rfl⟩, ctx.finish, ?_⟩
    dsimp only at h ⊢
    unfold installDevices at h ⊢
    generalize (if m.resume = true then (m₂, hw₂) else m₂.resetEmulator hw₂) = q at h
    obtain ⟨m₃, hw₃⟩ := q
    dsimp only at h ⊢
    unfold install at h ⊢
    dsimp only at h ⊢
    cases hinstall : (m₃.emulator.install ctx.finish hw₃).1 with
    | error fault =>
      rw [hinstall] at h
      cases h
    | ok =>
      rw [hinstall] at h
      replace h := Option.map_eq_none_iff.1 h
      obtain ⟨_, worker, -, ⟨-, -, he⟩ | ⟨reason, -, hreason, -⟩⟩ := enter_cases
        { m₃ with emulator := (m₃.emulator.install ctx.finish hw₃).2.1 } m.resume ctx.finish
        (m₃.noteCall (.install (ctx.finish.mappings.map (·.device.id)) true) (m₃.emulator.install ctx.finish hw₃).2.2)
      · dsimp only at he ⊢
        rw [show (Except.ok () : Except Fault Unit).isOk = true from rfl, he]
        exact ⟨(settle_sameInside _ none .running).map, rfl⟩
      · cases h.symm.trans hreason

/-- What a device saves when the emulator is given it: what was handed to it, or what it saved itself. -/
theorem offered_save {entry : BusDevice} {a : Device} (h : m.loadError? hw = none)
    (hids : (m.controller.devices.map BusDevice.id).Nodup)
    (hhandles : (busHandles m.controller.devices).Nodup) (hentry : entry ∈ m.controller.devices)
    (hstate : m.pendingStates.get? entry.id = a.save) (hfits : a.Fits)
    (hmake : a.sameMake (hw.device entry.device.handle) = true) :
    ((m.offered hw).2.device entry.device.handle).save =
      a.save.or (hw.device entry.device.handle).save := by
  obtain ⟨⟨ctx, hattach⟩, -⟩ := load_offers h
  have hrelays := (({ m with resume := false } : Machine).quiesce_acts hw).relays
  have hdevices := ({ m with resume := false } : Machine).quiesce_devices hw
  have hstates : (({ m with resume := false } : Machine).quiesce hw).1.pendingStates = m.pendingStates := rfl
  unfold offered
  generalize ({ m with resume := false } : Machine).quiesce hw = p at hattach hrelays hdevices hstates
  obtain ⟨m₁, hw₁⟩ := p
  have hcontroller : m₁.controller = m.controller := hrelays.controller
  have hconfig : m₁.config = m.config := hrelays.config
  dsimp only at hattach hstates ⊢
  rw [hcontroller, hconfig]
  generalize hq : attachEach m.controller.devices (.new m.config) m₁ hw₁ = q at hattach
  obtain ⟨result, m₂, hw₂⟩ := q
  dsimp only at hattach
  subst hattach
  obtain ⟨-, htakes⟩ := attachEach_takes hids hhandles hq
  obtain ⟨d, hd, hdevice⟩ := htakes entry hentry
  have hbefore : hw₁.device entry.device.handle = hw.device entry.device.handle := by
    unfold Hardware.device
    rw [show hw₁.devices = hw.devices from hdevices]
  rw [hstates, hstate, hbefore] at hd
  have hoffered : ((if m.resume = true then (m₂, hw₂) else m₂.resetEmulator hw₂).2.device
      entry.device.handle) = hw₂.device entry.device.handle := by
    split <;> rfl
  rw [hoffered, hdevice, Device.attach_save]
  exact hd.save hfits hmake

/-! ## States that wait -/

/-- Unless it hands one over, whatever a machine does leaves the states that wait as they were. -/
theorem Moves.states {bus : List BusDevice} {grants : Bool} {a b : Machine × Hardware}
    (h : Moves bus grants a b) : ∃ es, b.2.journal = es ++ a.2.journal ∧
      ((∀ e ∈ es, e.isRestore = false) → b.1.pendingStates = a.1.pendingStates) := by
  induction h with
  | refl => exact ⟨[], rfl, fun _ => rfl⟩
  | @tail b c _ hmove ih =>
    obtain ⟨es, hes, hkept⟩ := ih
    have hone : ∃ fs, c.2.journal = fs ++ b.2.journal ∧
        ((∀ e ∈ fs, e.isRestore = false) → c.1.pendingStates = b.1.pendingStates) := by
      have hadds {p : Machine × Hardware} (hadds : b.2.Adds (·.isRestore = false) p.2)
          (hsame : p.1.pendingStates = b.1.pendingStates) : ∃ fs, p.2.journal = fs ++ b.2.journal ∧
            ((∀ e ∈ fs, e.isRestore = false) → p.1.pendingStates = b.1.pendingStates) := by
        obtain ⟨fs, hfs, -⟩ := hadds
        exact ⟨fs, hfs, fun _ => hsame⟩
      cases hmove with
      | other hw hworker hstates => exact hadds (.refl _ _) hstates
      | calls m h => exact hadds h.adds rfl
      | @hand m entry state hw hentry hstate =>
        obtain ⟨accepted, hjournal⟩ := hw.restore_journal entry.device.handle state
        refine ⟨[.device entry.device.handle (.restore state accepted)], hjournal, fun hnone => ?_⟩
        have hrestore := hnone _ (List.mem_singleton_self _)
        cases hrestore
      | advance m slices hw =>
        exact hadds (stepWorker_calls (fun h w g => Worker.progress_carries h slices w g) m hw).adds rfl
      | cancel m hw => exact hadds (stepWorker_calls Worker.cancel_carries m hw).adds rfl
      | shutdown m hw => exact hadds (stepWorker_calls Worker.shutdown_carries m hw).adds rfl
      | takeFault m hw => exact hadds (.refl _ _) rfl
      | start m refusal hw => exact hadds (.refl _ _) rfl
      | grant m cycles hw hgrants => exact hadds (.refl _ _) rfl
    obtain ⟨fs, hfs, hone⟩ := hone
    refine ⟨fs ++ es, by rw [hfs, hes, List.append_assoc], fun hnone => ?_⟩
    rw [hone fun e he => hnone e (List.mem_append_left _ he),
      hkept fun e he => hnone e (List.mem_append_right _ he)]

/-! ## Where loads begin -/

/-- After a load a tick begins no other. -/
theorem proceedLoad?_load (m : Machine) (hw hw' : Hardware) : (m.load hw).1.proceedLoad? hw' = none := by
  have hrunning {m' : Machine} (hrun : m'.runState = .running) (hmap : m'.map.isSome = true) :
      m'.proceedLoad? hw' = none := by
    unfold proceedLoad?
    rw [hrun]
    split
    · next heq _ => cases heq
    · rw [if_neg (by rw [Option.isNone_eq_false_iff.2 hmap]; exact Bool.false_ne_true)]
    · rfl
  have herror {m' : Machine} (hrun : m'.runState = .error) : m'.proceedLoad? hw' = none := by
    unfold proceedLoad?
    rw [hrun]
  unfold load
  generalize ({ m with resume := false } : Machine).quiesce hw = p
  obtain ⟨m₁, hw₁⟩ := p
  dsimp only
  split
  · next map m₂ hw₂ _ =>
    obtain ⟨_, worker, -, ⟨-, -, he⟩ | ⟨reason, -, -, he⟩⟩ := m₂.enter_cases m.resume map hw₂ <;> rw [he]
    · refine hrunning (setRunState_runState _ _) ?_
      rw [(settle_sameInside _ _ _).map]
      rfl
    · exact herror (halt_outcome _ (.io reason) hw₂).1
  · next e m₂ hw₂ _ => exact herror (m₂.halt_outcome e hw₂).1

theorem clear_finds (m : Machine) (hw : Hardware) : (m.clear hw).1.pendingStates = m.pendingStates ∧
    (m.clear hw).1.controller.devices = m.controller.devices := by
  show ((m.quiesce hw).1.releaseDevices (m.quiesce hw).2).1.pendingStates = _ ∧
    ((m.quiesce hw).1.releaseDevices (m.quiesce hw).2).1.controller.devices = _
  unfold releaseDevices
  split <;> exact ⟨rfl, rfl⟩

/-- A load that taking up the changes begins finds the states and the bus of the machine. -/
theorem absorbLoad?_finds {p : Machine × Hardware} (hp : m.absorbLoad? hw = some p) :
    p.1.pendingStates = m.pendingStates ∧ p.1.controller.devices = m.controller.devices := by
  unfold absorbLoad? swapLoad? at hp
  dsimp only at hp
  split at hp
  · split at hp
    · cases hp
      exact clear_finds { m with controller := m.controller.takeChanges.2 } hw
    · cases hp
  · cases hp

/-- So does a load that goes on from there. -/
theorem proceedLoad?_finds {p : Machine × Hardware}
    (hp : (m.absorbChanges hw).1.proceedLoad? (m.absorbChanges hw).2 = some p) :
    p.1.pendingStates = m.pendingStates ∧ p.1.controller.devices = m.controller.devices := by
  have hself {m' : Machine} {hw' : Hardware} (h : m'.proceedLoad? hw' = some p) :
      p.1.pendingStates = m'.pendingStates ∧ p.1.controller.devices = m'.controller.devices := by
    rcases proceedLoad?_moment h with ⟨-, rfl⟩ | ⟨-, rfl⟩ <;> exact ⟨rfl, rfl⟩
  cases hload : m.absorbLoad? hw with
  | some q =>
    rw [absorbChanges_of_some hload, proceedLoad?_load] at hp
    cases hp
  | none =>
    obtain ⟨hstates, hdevices⟩ := hself hp
    rw [hstates, hdevices, absorbChanges_of_none hload]
    dsimp only
    split
    · exact clear_finds { m with controller := m.controller.takeChanges.2 } hw
    · exact ⟨rfl, rfl⟩

/-- What a tick does after a load changes no saved state. -/
theorem proceed_savesAlike (h : m.proceedLoad? hw = none) (energy : EnergySource) :
    hw.SavesAlike (m.proceed energy hw).2.2 := by
  rcases proceed_of_none h energy with he | ⟨-, -, he⟩
  · rw [he]
    exact .refl hw
  · rw [he]
    unfold step
    split
    · next fault worker _ =>
      have hcancel : (({ m with worker } : Machine).cancel hw).2.devices = hw.devices :=
        stepWorker_devices Worker.cancel_carries _ hw
      refine (Hardware.SavesAlike.of_devices hcancel).trans ?_
      show Hardware.SavesAlike _ (releaseDevices _ _).2
      unfold releaseDevices
      split
      · exact .refl _
      · exact suspendAll_savesAlike _ _
    · rw [grantTick_eq]
      exact .of_devices (drift_cases (P := fun p => p.2.devices = hw.devices) rfl
        (fun slices => stepWorker_devices (fun hc => Worker.progress_carries hc slices) m hw) m.platform.look)

end Machine

/-- A load finds the states that wait in the machine, and the bus that the machine has after the
operation. -/
theorem Station.loads_find {station : Station} {s : Site} {op : MachineOp} {p : Machine × Hardware}
    (hp : p ∈ station.loads s op) :
    p.1.pendingStates = station.machine.pendingStates ∧
      p.1.controller.devices = (station.step s op).2.1.machine.controller.devices := by
  cases op with
  | start =>
    obtain ⟨-, rfl⟩ := Machine.startLoad?_moment (Option.mem_toList.1 hp)
    have hsame := Machine.setRunState_sameInside { station.machine with resume := false } .loading
    refine ⟨hsame.pendingStates, ?_⟩
    rw [show (station.step s .start).2.1.machine.controller = station.machine.controller from
      (station.machine.start_acts s.hardware).relays.controller]
    exact congrArg Controller.devices hsame.controller
  | tick =>
    show p.1.pendingStates = _ ∧ p.1.controller.devices = (station.machine.tick station.energy s).1.controller.devices
    rw [Machine.tick_controller_eq]
    have hobserve := Machine.setBusState_sameInside
      { station.machine with controller := (station.machine.controller.poll s).1 } (station.machine.controller.poll s).1.state
    replace hp : p ∈ station.machine.tickLoads s := hp
    unfold Machine.tickLoads at hp
    have hstates : (station.machine.observe s).1.pendingStates = station.machine.pendingStates :=
      hobserve.pendingStates
    have hdevices : (station.machine.observe s).1.controller.devices = (station.machine.controller.poll s).1.devices :=
      congrArg Controller.devices hobserve.controller
    generalize station.machine.observe s = q at hp hstates hdevices
    obtain ⟨m₁, s₁⟩ := q
    have hfound : p.1.pendingStates = m₁.pendingStates ∧ p.1.controller.devices = m₁.controller.devices := by
      rcases List.mem_append.1 hp with hp | hp
      · exact Machine.absorbLoad?_finds (Option.mem_toList.1 hp)
      · exact Machine.proceedLoad?_finds (Option.mem_toList.1 hp)
    exact ⟨hfound.1.trans hstates, hfound.2.trans hdevices⟩
  | _ => cases hp

/-- After the operation devices save what they saved after its load. -/
theorem Station.step_savesAlike {station : Station} {s : Site} {op : MachineOp} {p : Machine × Hardware}
    (hp : p ∈ station.loads s op) :
    (p.1.load p.2).2.SavesAlike (station.step s op).2.2.hardware := by
  cases op with
  | start =>
    have hstart := Machine.start_of_some (Option.mem_toList.1 hp)
    show Hardware.SavesAlike _ (station.machine.start s.hardware).2.2
    rw [hstart]
    exact .refl _
  | tick =>
    show Hardware.SavesAlike _ (station.machine.tick station.energy s).2.2.hardware
    replace hp : p ∈ station.machine.tickLoads s := hp
    unfold Machine.tickLoads at hp
    rw [Machine.tick_eq]
    generalize station.machine.observe s = q at hp
    obtain ⟨m₁, s₁⟩ := q
    dsimp only at hp ⊢
    rcases List.mem_append.1 hp with hp | hp
    · rw [Machine.absorbChanges_of_some (Option.mem_toList.1 hp)]
      exact Machine.proceed_savesAlike (p.1.proceedLoad?_load p.2 _) station.energy
    · rw [Machine.proceed_of_some (Option.mem_toList.1 hp)]
      exact .refl _
  | _ => cases hp

/-! ## Runs -/

namespace World

variable {i j : Nat}

/-- A machine that hands no state over keeps those that wait. -/
theorem run_pendingStates {w : World} {ops : List Op} {station : Station} (hs : w.stations[j]? = some station)
    (hleaves : ∀ op ∈ ops, op.leavesStates j = true) (hnone : ∀ e ∈ w.callsOf j ops, e.isRestore = false) :
    ∃ station', (w.run ops).stations[j]? = some station' ∧
      station'.machine.pendingStates = station.machine.pendingStates := by
  induction ops using List.reverseRecOn with
  | nil => exact ⟨station, hs, rfl⟩
  | append_singleton ops op ih =>
    have hcalls : w.callsOf j (ops ++ [op]) =
        w.callsOf j ops ++ if op.isOf j then (w.run ops).calls op else [] := w.log_snoc _ ops op
    rw [hcalls] at hnone
    obtain ⟨before, hbefore, hstates⟩ := ih (fun o ho => hleaves o (List.mem_append_left _ ho))
      fun e he => hnone e (List.mem_append_left _ he)
    have hlast (e : Event) (he : e ∈ if op.isOf j then (w.run ops).calls op else []) :=
      hnone e (List.mem_append_right _ he)
    rw [run_snoc]
    cases hop : op.isOf j with
    | false =>
      obtain ⟨after, hafter, hsame⟩ := step_station_other hbefore hop
      rcases hsame with rfl | rfl
      · exact ⟨_, hafter, hstates⟩
      · exact ⟨_, hafter, hstates⟩
    | true =>
      rw [if_pos hop] at hlast
      cases op with
      | machine k mop =>
        obtain rfl : k = j := of_decide_eq_true hop
        have hleave := hleaves _ (List.mem_append_right _ (List.mem_singleton_self _))
        have hkept : mop.replacesStates = false := by simpa [Op.leavesStates] using hleave
        refine ⟨_, step_machine? hbefore mop, ?_⟩
        have hmoved : ∃ es, (before.step (w.run ops).site mop).2.2.hardware.journal =
            es ++ (w.run ops).site.hardware.journal ∧ ((∀ e ∈ es, e.isRestore = false) →
              (before.step (w.run ops).site mop).2.1.machine.pendingStates = before.machine.pendingStates) :=
          (before.step_moves (w.run ops).site hkept).states
        obtain ⟨es, hjournal, hsame⟩ := hmoved
        have hes : (w.run ops).calls (.machine k mop) = es.reverse := by
          refine calls_eq ?_
          show ((w.run ops).step (.machine k mop)).2.site.hardware.journal = _
          rw [step_site hbefore]
          exact hjournal
        rw [hes] at hlast
        exact (hsame fun e he => hlast e (List.mem_reverse.2 he)).trans hstates
      | _ => cases hop

/-- A device of the bus of one machine, and one of the other's that goes by its name and is of its make. -/
def Twins (a b : Machine × Hardware) (d d' : BusDevice) : Prop :=
  d ∈ a.1.controller.devices ∧ d' ∈ b.1.controller.devices ∧ d'.id = d.id ∧
    (a.2.device d.device.handle).sameMake (b.2.device d'.device.handle) = true

theorem saveRecord_of_mem {ops : List Op} {a : Machine} (ha : (empty.run ops).machine? i = some a)
    (hstaged : a.pendingStates = .empty) (hw : Hardware) {d : BusDevice} (hd : d ∈ a.controller.devices) :
    (a.saveRecord hw).1.devices.get? d.id = (hw.device d.device.handle).save := by
  obtain ⟨station, hs, rfl⟩ := machine?_eq_some ha
  have hnodup := bus_nodup ops hs
  rw [Machine.saveRecord_get?, hstaged, Table.get?_empty, Option.none_or]
  unfold Machine.ownState?
  generalize station.machine.controller.devices = devices at hd hnodup
  induction devices with
  | nil => cases hd
  | cons first rest ih =>
    obtain ⟨hfirst, hnodup⟩ := List.nodup_cons.1 hnodup
    rw [List.findSome?_cons]
    have hrest (hnone : ∀ x ∈ rest, x.id ≠ d.id) : rest.findSome? (Machine.savedAs hw d.id) = none :=
      List.findSome?_eq_none_iff.2 fun x hx => if_neg (hnone x hx)
    rcases List.mem_cons.1 hd with rfl | hd
    · rw [show Machine.savedAs hw d.id d = (hw.device d.device.handle).save from if_pos rfl,
        hrest fun x hx heq => hfirst (List.mem_map.2 ⟨x, hx, heq⟩)]
      cases (hw.device d.device.handle).save <;> rfl
    · rw [show Machine.savedAs hw d.id first = none from
        if_neg fun heq => hfirst (List.mem_map.2 ⟨d, hd, heq.symm⟩)]
      exact ih hd hnodup

/-- A machine takes over a record of another machine that had no states waiting, and the next load hands
them out.  If the load completes, the emulator is given devices that save what their twins saved, or what
they saved themselves where a twin had nothing to save: all that is left out of the record is that a
drive had no medium.  After the operation devices save what they saved then, but for a memory that the
demo machine wrote its signature to. -/
theorem states_survive_iff {past pre mid : List Op} {a : Machine} {r : Record} {mop : MachineOp}
    {p : Machine × Hardware} {name : Handle → DeviceId}
    (ha : (empty.run past).machine? i = some a) (hfits : ∀ op ∈ past, op.Builds Device.Fits)
    (hstaged : a.pendingStates = .empty) (hr : r = (a.saveRecord (empty.run past).site.hardware).1)
    (hbuilt : ((empty.run pre).machine? j).isSome = true)
    (hnamed : ∀ op ∈ pre ++ .machine j (.loadRecord r) :: (mid ++ [.machine j mop]),
      op.Stocks fun d => d.id = name d.handle)
    (hleaves : ∀ op ∈ mid, op.leavesStates j = true)
    (hfirst : ∀ e ∈ (empty.run (pre ++ [.machine j (.loadRecord r)])).callsOf j mid, e.isRestore = false)
    (hload : p ∈ (empty.run (pre ++ .machine j (.loadRecord r) :: mid)).loads (.machine j mop))
    (hdone : p.1.loadError? p.2 = none) :
    let hw := (empty.run past).site.hardware
    let given := p.1.offered p.2
    let after := (empty.run (pre ++ .machine j (.loadRecord r) :: (mid ++ [.machine j mop]))).site.hardware
    let saved (hw : Hardware) (d : BusDevice) := (hw.device d.device.handle).save
    (∀ d d', Twins (a, hw) p d d' → saved given.2 d' = (saved hw d).or (saved p.2 d')) ∧
      ((∀ d d', Twins (a, hw) p d d' → saved given.2 d' = saved hw d) ↔
        ∀ d d', Twins (a, hw) p d d' → saved hw d = none → saved p.2 d' = none) ∧
      ∀ h, (after.device h).save = (given.2.device h).save ∨ (∃ m, given.1.emulator = .demo m) ∧
        ∃ offset, (after.device h).save =
          ((given.2.device h).writeMemory offset DemoMachine.signature).save := by
  intro hw given after saved
  -- where the load begins, the states of the record wait
  obtain ⟨m, hm⟩ := Option.isSome_iff_exists.1 hbuilt
  obtain ⟨station, hs, rfl⟩ := machine?_eq_some hm
  have hs₁ := step_machine? hs (.loadRecord r)
  rw [← run_snoc] at hs₁
  obtain ⟨before, hbefore, hstates⟩ := run_pendingStates hs₁ hleaves hfirst
  rw [← run_append, ← List.append_cons] at hbefore
  have hwaits : before.machine.pendingStates = r.devices := by
    rw [hstates]
    exact Machine.loadRecord_states _ r _
  rw [loads_machine hbefore] at hload
  obtain ⟨hfound, hbus⟩ := Station.loads_find hload
  -- the bus names its devices, each once
  have hstep := step_machine? hbefore mop
  have hrun : empty.run (pre ++ .machine j (.loadRecord r) :: (mid ++ [.machine j mop])) =
      ((empty.run (pre ++ .machine j (.loadRecord r) :: mid)).step (.machine j mop)).2 := by
    rw [← List.cons_append, ← List.append_assoc, run_snoc]
  have hlists := (run_lists hnamed).controllers _ _ (hrun ▸ controllerAt_machine hstep)
  have hids : (p.1.controller.devices.map BusDevice.id).Nodup := hbus ▸ hlists.nodup
  have hhandles : (busHandles p.1.controller.devices).Nodup := hbus ▸ hlists.busHandles_nodup
  have hgiven (d d' : BusDevice) (htwins : Twins (a, hw) p d d') :
      saved given.2 d' = (saved hw d).or (saved p.2 d') := by
    obtain ⟨hd, hd', hid, hmake⟩ := htwins
    have hstate : p.1.pendingStates.get? d'.id = saved hw d := by
      rw [hfound, hwaits, hr, hid]
      exact saveRecord_of_mem ha hstaged hw hd
    exact Machine.offered_save hdone hids hhandles hd' hstate (run_media_fit hfits _) hmake
  refine ⟨hgiven, ⟨fun hall d d' htwins hnone => ?_, fun hempty d d' htwins => ?_⟩, fun h => ?_⟩
  · have hsame := hall d d' htwins
    rwa [hgiven d d' htwins, hnone, Option.none_or] at hsame
  · rw [hgiven d d' htwins]
    cases hsaved : saved hw d with
    | none => exact hempty d d' htwins hsaved
    | some state => rfl
  · obtain ⟨-, map, -, hdevices⟩ := Machine.load_offers hdone
    have hsite : after = (before.step (empty.run (pre ++ .machine j (.loadRecord r) :: mid)).site mop).2.2.hardware := by
      rw [← step_site hbefore, ← hrun]
    have hinstalled : (p.1.load p.2).2.device h = (given.1.emulator.install map given.2).2.2.device h := by
      unfold Hardware.device
      rw [hdevices]
    rw [hsite, Station.step_savesAlike hload h, hinstalled]
    rcases given.1.emulator.install_device map given.2 h with hsame | ⟨hdemo, offset, hwrites⟩
    · exact .inl (congrArg Device.save hsame)
    · exact .inr ⟨hdemo, offset, congrArg Device.save hwrites⟩

/-- A memory and two drives, one of them empty, and devices of their makes that hold something else. -/
theorem memory_and_drives_survive :
    let bus : Op := .topology (.insert ⟨1⟩ [] [⟨⟨0⟩, ⟨10⟩⟩, ⟨⟨1⟩, ⟨11⟩⟩, ⟨⟨2⟩, ⟨12⟩⟩])
    let machine : Op := .newMachine ⟨1⟩ (.scripted {}) {}
      (.queue []) .unmetered
    let past : List Op := [.build (.ram (.new ⟨10⟩ 2 0)), .build (.drive ⟨⟨11⟩, 4, some ⟨[1, 2], true⟩, none⟩),
      .build (.drive (.new ⟨12⟩ 4)), bus, machine, .machine 0 .start, .machine 0 .tick,
      .device ⟨0⟩ (.writeMemory 0 [5])]
    let pre : List Op := [.build (.ram (.new ⟨10⟩ 2 0)), .build (.drive ⟨⟨11⟩, 4, some ⟨[9, 9, 9], false⟩, none⟩),
      .build (.drive (.new ⟨12⟩ 4)), bus, machine]
    let hw := (empty.run past).site.hardware
    ∃ a r p, (empty.run past).machine? 0 = some a ∧ r = (a.saveRecord hw).1 ∧
      p ∈ (empty.run (pre ++ .machine 0 (.loadRecord r) :: [])).loads (.machine 0 .tick) ∧
      a.controller.devices.map (fun d => (hw.device d.device.handle).save) =
        [some [5, 0], some [1, 1, 2], none] ∧
      p.1.controller.devices.map (fun d => (p.2.device d.device.handle).save) =
        [some [0, 0], some [0, 9, 9, 9], none] ∧
      ∀ d d', Twins (a, hw) p d d' → ((p.1.offered p.2).2.device d'.device.handle).save =
        (hw.device d.device.handle).save := by
  intro bus machine past pre hw
  obtain ⟨a, ha, hstaged, hsaved, p, hload, hdone, hhad, hempty⟩ :
      ∃ a ∈ (empty.run past).machine? 0, a.pendingStates = .empty ∧
        a.controller.devices.map (fun d => (hw.device d.device.handle).save) =
          [some [5, 0], some [1, 1, 2], none] ∧
        ∃ p ∈ (empty.run (pre ++ .machine 0 (.loadRecord (a.saveRecord hw).1) :: [])).loads (.machine 0 .tick),
          p.1.loadError? p.2 = none ∧
          p.1.controller.devices.map (fun d => (p.2.device d.device.handle).save) =
            [some [0, 0], some [0, 9, 9, 9], none] ∧
          ∀ d ∈ a.controller.devices, ∀ d' ∈ p.1.controller.devices, d'.id = d.id →
            (hw.device d.device.handle).save = none → (p.2.device d'.device.handle).save = none := by
    decide +kernel
  let name (h : Handle) : DeviceId := ⟨10 + UInt64.ofNat h.index⟩
  have hnamed : ∀ op ∈ pre ++ .machine 0 (.loadRecord (a.saveRecord hw).1) :: ([] ++ [.machine 0 .tick]),
      op.Stocks fun d => d.id = name d.handle := by
    simp [pre, bus, machine, name, Op.Stocks, TopologyOp.Stocks]
  have hfits : ∀ op ∈ past, op.Builds Device.Fits := by
    simp [past, bus, machine, Op.Builds, Device.Fits, Drive.new]
  obtain ⟨-, hsurvive, -⟩ := states_survive_iff ha hfits hstaged rfl (by decide)
    hnamed (by simp) (fun e he => absurd he List.not_mem_nil) hload hdone
  refine ⟨a, _, p, ha, rfl, hload, hsaved, hhad, hsurvive.2 ?_⟩
  rintro d d' ⟨hd, hd', hid, -⟩
  exact hempty d hd d' hd' hid

/-- A drive had no medium when the record was saved.  A medium is put in, the record is taken over and the
devices are loaded, and the medium is still there. -/
theorem medium_outlives_record :
    let past : List Op := [.build (.drive (.new ⟨10⟩ 4)), .topology (.insert ⟨1⟩ [] [⟨⟨0⟩, ⟨10⟩⟩]),
      .newMachine ⟨1⟩ (.scripted {}) {} (.queue []) .unmetered,
      .machine 0 .start, .machine 0 .tick]
    let hw := (empty.run past).site.hardware
    ∃ a ∈ (empty.run past).machine? 0, a.pendingStates = .empty ∧ (hw.device ⟨0⟩).save = none ∧
      let pre := past ++ [.device ⟨0⟩ (.insertMedium ⟨[1], false⟩), .machine 0 (.loadRecord (a.saveRecord hw).1)]
      (∃ p ∈ (empty.run pre).loads (.machine 0 .tick), p.1.loadError? p.2 = none) ∧
        ((empty.run (pre ++ [.machine 0 .tick])).site.hardware.device ⟨0⟩).save = some [0, 1] := by
  decide +kernel

end World

end DeviceBus
