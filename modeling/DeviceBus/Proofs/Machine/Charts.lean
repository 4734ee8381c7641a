import DeviceBus.Proofs.Controller
import DeviceBus.Proofs.Machine.Devices
import DeviceBus.Proofs.Machine.Moves

/-!
# Maps and buses

A load enters the devices of the bus into the map: all of them, in their order, each at its address in
the window and with the size it has (`Machine.load_charts`).  After that the map stays as it is until
the machine lets the devices go, which a tick does as soon as the bus recorded changes.  So a map always
charts a list of devices whose names and addresses are those of the bus now (`Machine.Charted`).
-/

namespace DeviceBus

open DeviceChanges (SamePlaces)

/-- What a mapping says of its device, the interrupt lines apart. -/
def Mapping.place (m : Mapping) : DeviceRef × Option Nat × Nat := (m.device, m.base, m.size)

/-- The place of a device in a window that starts at `window`. -/
def BusDevice.place (window : Nat) (size : Handle → Nat) (d : BusDevice) :
    DeviceRef × Option Nat × Nat :=
  (d.device, d.address.map (window + ·), size d.device.handle)

/-- The map lists exactly these devices in this order, each at its address in the window and with its
size. -/
def DeviceMap.Charts (map : DeviceMap) (window : Nat) (size : Handle → Nat)
    (devices : List BusDevice) : Prop :=
  map.mappings.map Mapping.place = devices.map (BusDevice.place window size)

instance (map : DeviceMap) (window : Nat) (size : Handle → Nat) (devices : List BusDevice) :
    Decidable (map.Charts window size devices) := inferInstanceAs (Decidable (_ = _))

/-- The size of the device of a handle. -/
def Hardware.sizeAt (hw : Hardware) (h : Handle) : Nat := (hw.device h).size

theorem Hardware.KeepsExtents.sizeAt {hw hw' : Hardware} (h : hw.KeepsExtents hw') :
    hw'.sizeAt = hw.sizeAt := funext fun handle => (h ⟨handle, ⟨0⟩⟩).1

theorem DeviceMap.Charts.congr {map : DeviceMap} {window : Nat} {size size' : Handle → Nat}
    {devices : List BusDevice} (h : map.Charts window size devices)
    (hsize : ∀ d ∈ devices, size d.device.handle = size' d.device.handle) :
    map.Charts window size' devices := by
  refine h.trans (List.map_congr_left fun d hd => ?_)
  unfold BusDevice.place
  rw [hsize d hd]

/-- The names of a charted list. -/
theorem DeviceMap.Charts.ids {map : DeviceMap} {window : Nat} {size : Handle → Nat}
    {devices : List BusDevice} (h : map.Charts window size devices) :
    (map.mappings.map fun mapping => mapping.device.id) = devices.map BusDevice.id := by
  have hids := congrArg (List.map fun place => place.1.id) h
  rw [List.map_map, List.map_map] at hids
  exact hids

/-! ## Attaching -/

namespace AttachContext

theorem place_eq {ctx : AttachContext} {entry : BusDevice} {size : Nat} {base : Option Nat}
    (h : ctx.place entry size = .ok base) : base = entry.address.map (ctx.windowStart + ·) := by
  unfold place at h
  cases haddress : entry.address with
  | none =>
    rw [haddress] at h
    cases h
    rfl
  | some address =>
    rw [haddress] at h
    simp only [reserve] at h
    split at h
    · cases h
    · cases h
      rfl

/-- A device that is attached is entered last. -/
theorem attach_place {ctx ctx' : AttachContext} {machine : MachineId} {idle : Bool}
    {entry : BusDevice} {hw hw' : Hardware} (h : ctx.attach machine idle entry hw = (.ok ctx', hw')) :
    ctx'.windowStart = ctx.windowStart ∧
      ctx'.mappings.map Mapping.place =
        ctx.mappings.map Mapping.place ++ [entry.place ctx.windowStart hw.sizeAt] := by
  unfold attach at h
  dsimp only at h
  split at h
  · cases h
  · next base hbase =>
    split at h
    · cases h
    · split at h
      · cases h
      · cases h
        refine ⟨rfl, ?_⟩
        rw [List.map_append, place_eq hbase]
        rfl

end AttachContext

namespace Machine

theorem attachEach_place {entries : List BusDevice} {ctx ctx' : AttachContext} {m m' : Machine}
    {hw hw' : Hardware} (h : attachEach entries ctx m hw = (.ok ctx', m', hw')) :
    ctx'.windowStart = ctx.windowStart ∧
      ctx'.mappings.map Mapping.place =
        ctx.mappings.map Mapping.place ++ entries.map (BusDevice.place ctx.windowStart hw.sizeAt) := by
  induction entries generalizing ctx m hw with
  | nil =>
    cases h
    exact ⟨rfl, (List.append_nil _).symm⟩
  | cons entry rest ih =>
    have hrestore : Moves [entry] false (m, hw) (m.restoreDevice entry hw).2 :=
      m.restoreDevice_moves (List.mem_singleton_self entry) hw
    unfold attachEach at h
    split at h
    · cases h
    · next m₁ hw₁ he =>
      rw [he] at hrestore
      split at h
      · cases h
      · next ctx₁ hw₂ he' =>
        have hattach := AttachContext.attach_place he'
        have hextents := hrestore.extents.trans
          (show hw₁.KeepsExtents hw₂ by
            have := (ctx.attach_calls m₁.id m₁.worker.isIdle entry hw₁).extents
            rwa [he'] at this)
        obtain ⟨hwindow, hplaces⟩ := ih h
        refine ⟨hwindow.trans hattach.1, ?_⟩
        rw [hplaces, hattach.1, hattach.2, hextents.sizeAt, show hw₁.sizeAt = hw.sizeAt from
          hrestore.extents.sizeAt, List.append_assoc]
        rfl

/-- Attaching all devices leads to the map of what was attached, and to the emulator. -/
theorem attachAll_ok {m m' : Machine} {keepState : Bool} {map : DeviceMap} {hw hw' : Hardware}
    (h : m.attachAll keepState hw = (.ok map, m', hw')) :
    ∃ ctx m₁ hw₁, attachEach m.controller.devices (.new m.config) m hw = (.ok ctx, m₁, hw₁) ∧
      map = ctx.finish ∧ m₁.installDevices keepState map hw₁ = (.ok map, m', hw') := by
  unfold attachAll at h
  split at h
  · cases h
  · next ctx m₁ hw₁ he =>
    have hmap : map = ctx.finish := by
      unfold installDevices at h
      dsimp only at h
      split at h
      · cases h
        rfl
      · cases h
    exact ⟨ctx, m₁, hw₁, he, hmap, hmap ▸ h⟩

theorem attachAll_charts {m m' : Machine} {keepState : Bool} {map : DeviceMap} {hw hw' : Hardware}
    (h : m.attachAll keepState hw = (.ok map, m', hw')) :
    map.Charts m.config.mmioBase.toNat hw.sizeAt m.controller.devices := by
  obtain ⟨ctx, m₁, hw₁, he, hmap, -⟩ := attachAll_ok h
  obtain ⟨-, hplaces⟩ := attachEach_place he
  rw [hmap]
  exact hplaces

/-- What is true of the map that a load leaves, for as long as the settings and the bus of the machine
stay as they are. -/
structure Lasts (P : Machine × Hardware → DeviceMap → Prop) : Prop where
  load : ∀ {m : Machine} {hw : Hardware} {map : DeviceMap}, (m.load hw).1.map = some map →
    P (m.load hw) map
  kept : ∀ {m m' : Machine} {hw hw' : Hardware} {map : DeviceMap} {bus : List BusDevice} {grants : Bool},
    Moves bus grants (m, hw) (m', hw') → m'.config = m.config →
    m'.controller.devices = m.controller.devices → P (m, hw) map → P (m', hw') map

/-- The map charts the bus of the machine. -/
def MapsBus (p : Machine × Hardware) (map : DeviceMap) : Prop :=
  map.Charts p.1.config.mmioBase.toNat p.2.sizeAt p.1.controller.devices

/-- What leaves the settings, the bus and the sizes alone leaves a map of the bus as good as it was. -/
theorem MapsBus.of_moves {m m' : Machine} {hw hw' : Hardware} {map : DeviceMap} {bus : List BusDevice}
    {grants : Bool} (h : MapsBus (m, hw) map) (hmoves : Moves bus grants (m, hw) (m', hw'))
    (hconfig : m'.config = m.config) (hdevices : m'.controller.devices = m.controller.devices) :
    MapsBus (m', hw') map := by
  unfold MapsBus
  rw [hmoves.extents.sizeAt]
  dsimp only
  rw [hconfig, hdevices]
  exact h

/-- A map that is left is the one of the devices that were attached. -/
theorem enter_map {m : Machine} {keepState : Bool} {map map' : DeviceMap} {hw : Hardware}
    (h : (m.enter keepState map' hw).1.map = some map) : map' = map := by
  obtain ⟨_, worker, -, ⟨-, -, he⟩ | ⟨reason, -, -, he⟩⟩ := m.enter_cases keepState map' hw <;> rw [he] at h
  · rw [(settle_sameInside _ _ _).map] at h
    exact Option.some.inj h
  · rw [(halt_outcome _ _ _).2.2] at h
    cases h

/-- A load that leaves a map entered the devices of the bus. -/
theorem load_charts {m : Machine} {hw : Hardware} {map : DeviceMap} (h : (m.load hw).1.map = some map) :
    MapsBus (m.load hw) map := by
  have hacts := m.load_acts hw
  have hmoves : Moves m.controller.devices false (m, hw) (m.load hw) := m.load_moves rfl hw
  have hquiesce := ({ m with resume := false } : Machine).quiesce_acts hw
  have hwait : Moves [] false ({ m with resume := false }, hw)
      (({ m with resume := false } : Machine).quiesce hw) := quiesce_moves _ hw
  suffices hbefore : MapsBus (m, hw) map from hbefore.of_moves hmoves hacts.relays.config
    (congrArg Controller.devices hacts.relays.controller)
  unfold load at h
  generalize ({ m with resume := false } : Machine).quiesce hw = p at h hquiesce hwait
  obtain ⟨m₁, hw₁⟩ := p
  dsimp only at h
  split at h
  · next map' m₂ hw₂ he =>
    obtain rfl : map' = map := enter_map h
    have hcharts := attachAll_charts he
    rw [show m₁.config = m.config from hquiesce.relays.config,
      show m₁.controller = m.controller from hquiesce.relays.controller, hwait.extents.sizeAt] at hcharts
    exact hcharts
  · next e m₂ hw₂ he =>
    rw [(m₂.halt_outcome e hw₂).2.2] at h
    cases h

theorem mapsBus_lasts : Lasts MapsBus :=
  ⟨load_charts, fun hmoves hconfig hdevices h => h.of_moves hmoves hconfig hdevices⟩

/-! ## Ticks -/

section Lasts

variable {P : Machine × Hardware → DeviceMap → Prop} {m : Machine} {hw : Hardware} {map : DeviceMap}

theorem start_maps (hP : Lasts P) (h : (m.start hw).2.1.map = some map) :
    m.map = some map ∨ P (m.start hw).2 map := by
  cases hload : m.startLoad? hw with
  | some p =>
    rw [start_of_some hload] at h ⊢
    exact .inr (hP.load h)
  | none =>
    rw [start_of_none hload] at h
    dsimp only at h
    split at h
    · exact .inl (m.accept_map ▸ h)
    · exact .inl h

/-- Taking up the changes of the bus leaves the map alone, unless there are changes. -/
theorem absorbChanges_maps (hP : Lasts P) (h : (m.absorbChanges hw).1.map = some map) :
    (m.map = some map ∧ m.controller.changes = none) ∨ P (m.absorbChanges hw) map := by
  cases hload : m.absorbLoad? hw with
  | some p =>
    rw [absorbChanges_of_some hload] at h ⊢
    exact .inr (hP.load h)
  | none =>
    rw [absorbChanges_of_none hload] at h
    dsimp only at h
    split at h
    · rw [show (Machine.clear _ hw).1.map = none from releaseDevices_map _ _] at h
      cases h
    · next hc =>
      have hmap : m.map = some map := h
      refine .inl ⟨hmap, ?_⟩
      rw [hmap] at hc
      simpa using hc

theorem proceed_maps (hP : Lasts P) {energy : EnergySource} (h : (m.proceed energy hw).1.map = some map) :
    m.map = some map ∨ P ((m.proceed energy hw).1, (m.proceed energy hw).2.2) map := by
  cases hload : m.proceedLoad? hw with
  | some p =>
    rw [proceed_of_some hload] at h ⊢
    exact .inr (hP.load h)
  | none =>
    left
    rcases proceed_of_none hload energy with he | ⟨-, -, he⟩
    · rw [he] at h
      exact h
    · rw [he] at h
      unfold step at h
      split at h
      · rw [(halt_outcome _ _ _).2.2] at h
        cases h
      · rw [(m.grantTick_steady energy hw).map] at h
        exact h

/-- After a tick the map is the one there was, and the bus recorded no changes, or a load left it. -/
theorem tick_maps (hP : Lasts P) {energy : EnergySource} {s : Site}
    (h : (m.tick energy s).1.map = some map) :
    (m.map = some map ∧ (m.controller.poll s).1.changes = none) ∨
      P ((m.tick energy s).1, (m.tick energy s).2.2.hardware) map := by
  have hcontroller : (m.observe s).1.controller = (m.controller.poll s).1 :=
    (setBusState_sameInside _ _).controller
  have hmap : (m.observe s).1.map = m.map := (m.observe_steady s).map
  rw [tick_eq] at h ⊢
  rw [← hcontroller, ← hmap]
  generalize m.observe s = p at h
  obtain ⟨m₁, s₁⟩ := p
  dsimp only at h ⊢
  have habsorb (hkept : (m₁.absorbChanges s₁.hardware).1.map = some map) := absorbChanges_maps hP hkept
  generalize m₁.absorbChanges s₁.hardware = p at h habsorb
  obtain ⟨m₂, hw₂⟩ := p
  dsimp only at h habsorb ⊢
  have hmoves : Moves m₂.controller.devices true (m₂, hw₂)
      ((m₂.proceed energy hw₂).1, (m₂.proceed energy hw₂).2.2) := m₂.proceed_moves rfl energy hw₂
  have hacts := m₂.proceed_acts energy hw₂
  have hproceed (hkept : (m₂.proceed energy hw₂).1.map = some map) := proceed_maps hP hkept
  generalize m₂.proceed energy hw₂ = p at h hmoves hacts hproceed
  obtain ⟨m₃, energy', hw₃⟩ := p
  dsimp only at h hmoves hacts hproceed ⊢
  have hend : Moves [] false (m₃, hw₃) (m₃.flushTerminal.publishMedia hw₃, hw₃) := m₃.publish_moves hw₃
  have hendActs := (flushTerminal_relays m₃).trans (publishMedia_relays _ hw₃)
  rw [((flushTerminal_steady m₃).trans (publishMedia_steady _ hw₃)).map] at h
  rcases hproceed h with hkept | hmade
  · refine (habsorb hkept).imp_right fun hmade => ?_
    refine hP.kept hend hendActs.config (congrArg Controller.devices hendActs.controller) ?_
    exact hP.kept hmoves hacts.relays.config (congrArg Controller.devices hacts.relays.controller) hmade
  · exact .inr (hP.kept hend hendActs.config (congrArg Controller.devices hendActs.controller) hmade)

end Lasts

theorem tick_controller_eq (m : Machine) (energy : EnergySource) (s : Site) :
    (m.tick energy s).1.controller = (m.controller.poll s).1.takeChanges.2 :=
  (m.tick_acts energy s).relays.controller.trans (m.look_controller s)

/-! ## Other operations -/

theorem suspend_map (m : Machine) (s : Site) : (m.suspend s).1.map = none := by
  show (m.retire s.hardware).1.map = none
  unfold retire
  dsimp only
  split
  · exact releaseDevices_map _ _
  · exact releaseDevices_map _ _

theorem finalize_map (m : Machine) (s : Site) : (m.finalize s).1.map = none :=
  (settle_sameInside _ _ _).map.trans (m.suspend_map s)

theorem stop_map (m : Machine) (hw : Hardware) : (m.stop hw).1.map = none ∨ (m.stop hw).1.map = m.map := by
  unfold stop
  split
  · exact .inl ((setRunState_sameInside _ _).map.trans (releaseDevices_map _ _))
  · exact .inr rfl

theorem loadRecord_map (m : Machine) (r : Record) (hw : Hardware) : (m.loadRecord r hw).1.map = none := by
  have hadopt : (((m.cancel hw).1.releaseDevices (m.cancel hw).2).1.adoptRecord r).map = none :=
    releaseDevices_map _ _
  have hrestore := restoreEmulator_map (((m.cancel hw).1.releaseDevices (m.cancel hw).2).1.adoptRecord r)
    r.emulation ((m.cancel hw).1.releaseDevices (m.cancel hw).2).2
  unfold loadRecord
  generalize m.cancel hw = p at hadopt hrestore
  obtain ⟨m', hw'⟩ := p
  dsimp only at hadopt hrestore ⊢
  generalize m'.releaseDevices hw' = p at hadopt hrestore
  obtain ⟨m'', hw''⟩ := p
  dsimp only at hadopt hrestore ⊢
  split
  · exact hadopt
  · split
    · next he =>
      rw [he] at hrestore
      exact hrestore.trans hadopt
    · next fault m₃ hw₃ he =>
      rw [he] at hrestore
      exact (m₃.rejectEmulation_map fault).trans (hrestore.trans hadopt)

end Machine

namespace Station

/-- Without a load there is no map, or the one there was. -/
theorem step_map (station : Station) (s : Site) {op : MachineOp} (hop : op.mayLoad = false) :
    (station.step s op).2.1.machine.map = none ∨
      (station.step s op).2.1.machine.map = station.machine.map := by
  cases op with
  | start => cases hop
  | tick => cases hop
  | stop => exact station.machine.stop_map s.hardware
  | suspend => exact .inl (station.machine.suspend_map s)
  | finalize => exact .inl (station.machine.finalize_map s)
  | loadRecord r => exact .inl (station.machine.loadRecord_map r s.hardware)
  | readMemory address count =>
    right
    show (readMemory station.machine address count s.hardware).2.1.map = _
    unfold readMemory
    split <;> rfl
  | writeMemory address data =>
    right
    show (writeMemory station.machine address data s.hardware).2.1.map = _
    unfold writeMemory
    split <;> rfl
  | _ => exact .inr rfl

/-- Only a tick changes what a machine's bus lists and the changes that wait to be taken. -/
theorem step_bus (station : Station) (s : Site) {op : MachineOp} (hop : op ≠ .tick) :
    station.machine.controller.SameBus (station.step s op).2.1.machine.controller := by
  have hsame {c : Controller} (h : c = station.machine.controller) :
      station.machine.controller.SameBus c := by
    rw [h]
    exact .refl _
  have hsuspend : station.machine.controller.SameBus (station.machine.suspend s).1.controller := by
    rw [Machine.suspend_controller]
    exact Controller.dispose_sameBus _ _
  cases op with
  | tick => exact absurd rfl hop
  | start => exact hsame (station.machine.start_acts s.hardware).relays.controller
  | stop => exact hsame (station.machine.stop_acts s.hardware).relays.controller
  | suspend => exact hsuspend
  | finalize =>
    show station.machine.controller.SameBus (station.machine.finalize s).1.controller
    rw [(station.machine.finalize_acts s).relays.controller]
    exact hsuspend
  | loadRecord r =>
    show station.machine.controller.SameBus (station.machine.loadRecord r s.hardware).1.controller
    rw [(station.machine.loadRecord_keeps r s.hardware).2.2]
    exact ⟨rfl, rfl, rfl⟩
  | readMemory address count =>
    exact hsame (readMemory_acts station.machine address count s.hardware).relays.controller
  | writeMemory address data =>
    exact hsame (writeMemory_acts station.machine address data s.hardware).relays.controller
  | saveRecord => exact hsame (station.machine.saveRecord_acts s.hardware).relays.controller
  | _ => exact ⟨rfl, rfl, rfl⟩

end Station

/-- A map is that of before, or a load left it. -/
theorem Station.step_maps {P : Machine × Hardware → DeviceMap → Prop} (hP : Machine.Lasts P)
    {station : Station} {s : Site} {op : MachineOp} {map : DeviceMap}
    (h : (station.step s op).2.1.machine.map = some map) :
    station.machine.map = some map ∨
      P ((station.step s op).2.1.machine, (station.step s op).2.2.hardware) map := by
  cases hop : op.mayLoad with
  | false =>
    left
    rcases station.step_map s hop with hnone | hsame
    · rw [hnone] at h
      cases h
    · exact hsame.symm.trans h
  | true =>
    cases op with
    | start => exact Machine.start_maps hP h
    | tick => exact (Machine.tick_maps hP h).imp_left And.left
    | _ => cases hop

/-! ## What every operation keeps -/

/-- No changes wait to be taken, and the map was made, in a way `R`, of a list of devices that are where
the devices of the bus are. -/
structure Machine.MapsBy (R : Machine → List BusDevice → DeviceMap → Prop) (m : Machine) : Prop where
  taken : m.controller.changes = none
  made : ∀ map, m.map = some map → ∃ devices, (devices.map BusDevice.id).Nodup ∧ R m devices map ∧
    SamePlaces devices m.controller.devices

/-- A map goes on to follow the bus if the bus lists different names, a load makes its map in the same
way of what the bus lists, and a map that stays was made in that way still. -/
theorem Station.step_mapsBy {R : Machine → List BusDevice → DeviceMap → Prop}
    {P : Machine × Hardware → DeviceMap → Prop} (hP : Machine.Lasts P) {station : Station} {s : Site}
    {op : MachineOp} (h : station.machine.MapsBy R)
    (hnodup : ((station.step s op).2.1.machine.controller.devices.map BusDevice.id).Nodup)
    (hloaded : ∀ map, P ((station.step s op).2.1.machine, (station.step s op).2.2.hardware) map →
      R (station.step s op).2.1.machine (station.step s op).2.1.machine.controller.devices map)
    (hkept : ∀ devices map, (station.step s op).2.1.machine.map = some map →
      R station.machine devices map → R (station.step s op).2.1.machine devices map) :
    (station.step s op).2.1.machine.MapsBy R := by
  have hnew {map : DeviceMap}
      (hmap : P ((station.step s op).2.1.machine, (station.step s op).2.2.hardware) map) :
      ∃ devices, (devices.map BusDevice.id).Nodup ∧ R (station.step s op).2.1.machine devices map ∧
        SamePlaces devices (station.step s op).2.1.machine.controller.devices :=
    ⟨_, hnodup, hloaded map hmap, .refl _⟩
  by_cases htick : op = .tick
  · subst htick
    have hcontroller := station.machine.tick_controller_eq station.energy s
    refine ⟨?_, fun map hmap => ?_⟩
    · show (station.machine.tick station.energy s).1.controller.changes = none
      rw [hcontroller]
      rfl
    · rcases Machine.tick_maps hP hmap with ⟨hsame, hnone⟩ | hmade
      · obtain ⟨devices, hdistinct, hmade, hplaces⟩ := h.made map hsame
        refine ⟨devices, hdistinct, hkept devices map hmap hmade, ?_⟩
        show SamePlaces devices (station.machine.tick station.energy s).1.controller.devices
        rw [hcontroller]
        exact hplaces.trans (station.machine.controller.poll_notes s hnone).2
      · exact hnew hmade
  · obtain ⟨hdevices, hchanges, -⟩ := station.step_bus s htick
    refine ⟨hchanges.trans h.taken, fun map hmap => ?_⟩
    rcases Station.step_maps hP hmap with hsame | hmade
    · rw [hdevices]
      obtain ⟨devices, hdistinct, hmade, hplaces⟩ := h.made map hsame
      exact ⟨devices, hdistinct, hkept devices map hmap hmade, hplaces⟩
    · exact hnew hmade

/-- The map charts a list of devices that are where the devices of the bus are. -/
abbrev Machine.Charted (size : Handle → Nat) (m : Machine) : Prop :=
  m.MapsBy fun m devices map => map.Charts m.config.mmioBase.toNat size devices

/-- A machine stays charted if its bus lists different names, and devices of the sizes charted. -/
theorem Station.step_charted {size : Handle → Nat} {station : Station} {s : Site} {op : MachineOp}
    (h : station.machine.Charted size)
    (hnodup : ((station.step s op).2.1.machine.controller.devices.map BusDevice.id).Nodup)
    (hsize : ∀ d ∈ (station.step s op).2.1.machine.controller.devices,
      (station.step s op).2.2.hardware.sizeAt d.device.handle = size d.device.handle) :
    (station.step s op).2.1.machine.Charted size := by
  refine Station.step_mapsBy Machine.mapsBus_lasts h hnodup (fun map hmaps => ?_)
    fun devices map _ hcharts => ?_
  · exact DeviceMap.Charts.congr hmaps hsize
  · rw [station.step_config s op]
    exact hcharts

end DeviceBus
