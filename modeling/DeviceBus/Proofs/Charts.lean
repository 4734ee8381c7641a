import DeviceBus.Proofs.Listing
import DeviceBus.Proofs.Machine.Charts
import Mathlib.Data.List.Induction
import Mathlib.Data.List.Infix

/-!
# Maps through a run

In every run in which the devices on a bus keep their sizes, the map of a machine has the names of its
bus at the addresses of its bus.  What it may get wrong are the device objects: the changes that a scan
records are differences of names and addresses, so a device that takes the place of another under the
same name is no change, and the map keeps the one before (`World.replaced_device_stays_mapped`).
`World.charts_iff` says that nothing else goes wrong: the map charts the bus exactly if both list the
same objects in the same order.
-/

namespace DeviceBus

open DeviceChanges (SamePlaces)

/-- A charted list gives a name its place. -/
theorem DeviceMap.Charts.base {map : DeviceMap} {window : Nat} {size : Handle → Nat}
    {devices : List BusDevice} (h : map.Charts window size devices) (id : DeviceId) :
    (map.get? id).map Mapping.base =
      (DeviceChanges.find? devices id).map fun d => d.address.map (window + ·) := by
  have hfind : (map.mappings.map Mapping.place).find? (fun p => p.1.id = id) =
      (devices.map (BusDevice.place window size)).find? (fun p => p.1.id = id) := by
    unfold DeviceMap.Charts at h
    rw [h]
  rw [List.find?_map, List.find?_map] at hfind
  have hbase := congrArg (Option.map fun p => p.2.1) hfind
  rw [Option.map_map, Option.map_map] at hbase
  exact hbase

/-- Two lists of the same objects, with every name at the same address, have the same places. -/
theorem SamePlaces.map_place {devices devices' : List BusDevice} (h : SamePlaces devices devices')
    (hdistinct : (devices.map BusDevice.id).Nodup) (hdistinct' : (devices'.map BusDevice.id).Nodup)
    (hobjects : devices.map BusDevice.device = devices'.map BusDevice.device) (window : Nat)
    (size : Handle → Nat) :
    devices.map (BusDevice.place window size) = devices'.map (BusDevice.place window size) := by
  -- a place is a function of the object, as the address is that of the name
  let address (d : DeviceRef) : Option Nat :=
    ((DeviceChanges.find? devices' d.id).map BusDevice.address).join
  let place (d : DeviceRef) : DeviceRef × Option Nat × Nat :=
    (d, (address d).map (window + ·), size d.handle)
  have hplace : ∀ d ∈ devices, BusDevice.place window size d = place d.device := by
    intro d hd
    have haddress : address d.device = d.address := by
      show ((DeviceChanges.find? devices' d.id).map BusDevice.address).join = _
      rw [← h d.id, DeviceChanges.find?_of_mem hdistinct hd]
      rfl
    show (d.device, d.address.map (window + ·), size d.device.handle) = _
    rw [← haddress]
  have hplace' : ∀ d ∈ devices', BusDevice.place window size d = place d.device := by
    intro d hd
    have haddress : address d.device = d.address := by
      show ((DeviceChanges.find? devices' d.id).map BusDevice.address).join = _
      rw [DeviceChanges.find?_of_mem hdistinct' hd]
      rfl
    show (d.device, d.address.map (window + ·), size d.device.handle) = _
    rw [← haddress]
  calc devices.map (BusDevice.place window size)
      = (devices.map BusDevice.device).map place := by
        rw [List.map_map]
        exact List.map_congr_left hplace
    _ = (devices'.map BusDevice.device).map place := by rw [hobjects]
    _ = devices'.map (BusDevice.place window size) := by
        rw [List.map_map]
        exact (List.map_congr_left hplace').symm

namespace World

/-- The devices on the buses of machines have the given sizes, after every part of the run. -/
def KeepsSizes (size : Handle → Nat) (ops : List Op) : Prop :=
  ∀ pre, pre <+: ops → ∀ station ∈ (empty.run pre).stations, ∀ d ∈ station.machine.controller.devices,
    (empty.run pre).site.hardware.sizeAt d.device.handle = size d.device.handle

instance (size : Handle → Nat) (ops : List Op) : Decidable (KeepsSizes size ops) :=
  decidable_of_iff (∀ pre ∈ ops.inits, ∀ station ∈ (empty.run pre).stations,
    ∀ d ∈ station.machine.controller.devices,
      (empty.run pre).site.hardware.sizeAt d.device.handle = size d.device.handle)
    (forall_congr' fun pre => imp_congr_left (List.mem_inits pre ops))

variable {size : Handle → Nat} {ops : List Op}

/-- The bus of a machine lists different names. -/
theorem bus_nodup (ops : List Op) {i : Nat} {station : Station}
    (hs : (empty.run ops).stations[i]? = some station) :
    (station.machine.controller.devices.map BusDevice.id).Nodup := by
  have hc : (empty.run ops).controllerAt (.machine i) = some station.machine.controller :=
    controllerAt_machine hs
  exact devices_nodup ops hc

/-- A map has different names. -/
theorem map_nodup (ops : List Op) {i : Nat} {m : Machine} (hm : (empty.run ops).machine? i = some m)
    {map : DeviceMap} (hmap : m.map = some map) :
    (map.mappings.map fun mapping => mapping.device.id).Nodup := by
  obtain ⟨station, hs, rfl⟩ := machine?_eq_some hm
  clear hm
  induction ops using List.reverseRecOn generalizing station with
  | nil => cases hs
  | append_singleton ops op ih =>
    have hnodup := bus_nodup _ hs
    rw [run_snoc] at hs
    rcases step_station_inv hs with ⟨before, hbefore⟩ | ⟨root, emulator, config, sink, -, hm⟩
    · obtain ⟨after, hafter, hcases⟩ := step_station hbefore op
      rw [hs] at hafter
      cases hafter
      rcases hcases with rfl | rfl | ⟨mop, rfl, rfl⟩
      · exact ih _ hbefore hmap
      · exact ih _ hbefore hmap
      · rcases Station.step_maps Machine.mapsBus_lasts hmap with hkept | hmaps
        · exact ih _ hbefore hkept
        · rw [hmaps.ids]
          exact hnodup
    · rw [hm] at hmap
      cases hmap

/-- In a run every map was made in one way of a list of devices that are where those of the bus are, if
waiting for the worker and each operation of a machine keep it so. -/
theorem run_mapsBy {R : Machine → List BusDevice → DeviceMap → Prop}
    (hwait : ∀ (m : Machine) (hw : Hardware) devices map, R m devices map →
      R (m.quiesce hw).1 devices map)
    (hown : ∀ pre i mop station, pre ++ [.machine i mop] <+: ops →
      (empty.run pre).stations[i]? = some station → station.machine.MapsBy R →
        ((station.step (empty.run pre).site mop).2.1.machine.controller.devices.map BusDevice.id).Nodup →
          (station.step (empty.run pre).site mop).2.1.machine.MapsBy R)
    {i : Nat} {station : Station} (hs : (empty.run ops).stations[i]? = some station) :
    station.machine.MapsBy R := by
  induction ops using List.reverseRecOn generalizing i station with
  | nil => cases hs
  | append_singleton ops op ih =>
    have hnodup := bus_nodup _ hs
    rw [run_snoc] at hs
    rcases step_station_inv hs with ⟨before, hbefore⟩ | ⟨root, emulator, config, sink, -, hm⟩
    · have hmade := ih (fun pre i mop station hpre =>
        hown pre i mop station (hpre.trans (List.prefix_append _ _))) hbefore
      obtain ⟨after, hafter, hcases⟩ := step_station hbefore op
      rw [hs] at hafter
      cases hafter
      rcases hcases with rfl | rfl | ⟨mop, rfl, rfl⟩
      · exact hmade
      · refine ⟨hmade.taken, fun map hmap => ?_⟩
        obtain ⟨devices, hdistinct, hmade, hplaces⟩ := hmade.made map hmap
        exact ⟨devices, hdistinct, hwait _ _ _ _ hmade, hplaces⟩
      · exact hown ops i mop before (List.prefix_refl _) hbefore hmade hnodup
    · rw [hm]
      exact ⟨rfl, fun map hmap => by cases hmap⟩

/-- Every machine stays charted. -/
theorem run_charted (h : KeepsSizes size ops) {i : Nat} {station : Station}
    (hs : (empty.run ops).stations[i]? = some station) : station.machine.Charted size := by
  refine run_mapsBy (fun _ _ _ _ hcharts => hcharts) ?_ hs
  intro pre i mop station hpre hs hcharted hnodup
  have hsize := h _ hpre _ (List.mem_of_getElem? (run_snoc _ _ _ ▸ step_machine? hs mop))
  rw [run_snoc, step_site hs] at hsize
  exact Station.step_charted hcharted hnodup hsize

/-- In every run in which the devices on a bus keep their sizes, a map has the names of the bus at the
addresses of the bus, and it charts the bus exactly if it lists the objects of the bus in their order. -/
theorem charts_iff (h : KeepsSizes size ops) {i : Nat} {m : Machine}
    (hm : (empty.run ops).machine? i = some m) {map : DeviceMap} (hmap : m.map = some map) :
    (∀ id, (map.get? id).map Mapping.base = (DeviceChanges.find? m.controller.devices id).map fun d =>
      d.address.map (m.config.mmioBase.toNat + ·)) ∧
      (map.Charts m.config.mmioBase.toNat (empty.run ops).site.hardware.sizeAt m.controller.devices ↔
        map.mappings.map Mapping.device = m.controller.devices.map BusDevice.device) := by
  obtain ⟨station, hs, rfl⟩ := machine?_eq_some hm
  obtain ⟨devices, hdistinct, hcharts, hplaces⟩ := (run_charted h hs).made map hmap
  have hobjects {devices : List BusDevice} {size : Handle → Nat}
      (hcharts : map.Charts station.machine.config.mmioBase.toNat size devices) :
      map.mappings.map Mapping.device = devices.map BusDevice.device := by
    have hfirst := congrArg (List.map Prod.fst) hcharts
    rw [List.map_map, List.map_map] at hfirst
    exact hfirst
  refine ⟨fun id => ?_, hobjects, fun hsame => ?_⟩
  · rw [hcharts.base id]
    have hplace := congrArg (Option.map fun address : Option Nat =>
      address.map (station.machine.config.mmioBase.toNat + ·)) (hplaces id)
    rw [Option.map_map, Option.map_map] at hplace
    exact hplace
  · have hplace := SamePlaces.map_place hplaces hdistinct (bus_nodup ops hs)
      ((hobjects hcharts).symm.trans hsame) station.machine.config.mmioBase.toNat size
    have hbus : map.Charts station.machine.config.mmioBase.toNat size station.machine.controller.devices :=
      hcharts.trans hplace
    exact hbus.congr fun d hd => (h ops (List.prefix_refl _) station (List.mem_of_getElem? hs) d hd).symm

/-- A memory that joins the bus of a running machine is mapped behind the one there is. -/
theorem joining_device_is_mapped :
    let ops : List Op := [.build (.ram (.new ⟨10⟩ 16 0)), .build (.ram (.new ⟨11⟩ 32 0)),
      .topology (.insert ⟨1⟩ [] [⟨⟨0⟩, ⟨10⟩⟩]),
      .newMachine ⟨1⟩ (.scripted {}) { cyclesPerTick := 1 } (.queue []) .unmetered,
      .machine 0 .start, .machine 0 .tick, .topology (.addDevice ⟨1⟩ ⟨⟨1⟩, ⟨11⟩⟩), .machine 0 .tick]
    let bus : List BusDevice := [⟨⟨⟨0⟩, ⟨10⟩⟩, ⟨1⟩, some 0, 0⟩, ⟨⟨⟨1⟩, ⟨11⟩⟩, ⟨1⟩, some 16, 0⟩]
    let map : DeviceMap := ⟨0x10000000, 0x20000000,
      [⟨⟨⟨0⟩, ⟨10⟩⟩, some 0x10000000, 16, []⟩, ⟨⟨⟨1⟩, ⟨11⟩⟩, some 0x10000010, 32, []⟩]⟩
    KeepsSizes (empty.run ops).site.hardware.sizeAt ops ∧
      ∃ m, (empty.run ops).machine? 0 = some m ∧ m.map = some map ∧ m.controller.devices = bus ∧
        map.Charts m.config.mmioBase.toNat (empty.run ops).site.hardware.sizeAt m.controller.devices := by
  intro ops bus map
  have hsizes : KeepsSizes (empty.run ops).site.hardware.sizeAt ops := by decide
  have hfound : ∃ m ∈ (empty.run ops).machine? 0, m.map = some map ∧ m.controller.devices = bus := by
    decide
  obtain ⟨m, hm, hmap, hdevices⟩ := hfound
  refine ⟨hsizes, m, hm, hmap, hdevices, ?_⟩
  refine (charts_iff hsizes hm hmap).2.2 ?_
  rw [hdevices]
  rfl

/-- A memory that takes the place of another under its name, between two ticks, is not mapped: the
machine runs on a ready bus with the one before, and with its size. -/
theorem replaced_device_stays_mapped :
    let ops : List Op := [.build (.ram (.new ⟨10⟩ 16 0)), .topology (.insert ⟨1⟩ [] [⟨⟨0⟩, ⟨10⟩⟩]),
      .newMachine ⟨1⟩ (.scripted {}) { cyclesPerTick := 1 } (.queue []) .unmetered,
      .machine 0 .start, .machine 0 .tick, .topology (.removeDevice ⟨1⟩ ⟨10⟩),
      .build (.ram (.new ⟨10⟩ 32 0)), .topology (.addDevice ⟨1⟩ ⟨⟨1⟩, ⟨10⟩⟩), .machine 0 .tick]
    KeepsSizes (empty.run ops).site.hardware.sizeAt ops ∧
      ∃ m ∈ (empty.run ops).machine? 0, m.runState = .running ∧ m.controller.state = .ready ∧
        m.controller.devices = [⟨⟨⟨1⟩, ⟨10⟩⟩, ⟨1⟩, some 0, 0⟩] ∧ ∃ map ∈ m.map,
          map.mappings.map Mapping.place = [(⟨⟨0⟩, ⟨10⟩⟩, some 0x10000000, 16)] ∧
          ¬map.Charts m.config.mmioBase.toNat (empty.run ops).site.hardware.sizeAt m.controller.devices := by
  decide

end World

end DeviceBus
