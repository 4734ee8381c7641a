import DeviceBus.Machine

/-!
# Worlds

A world is one topology with its devices, any number of controllers, and any number of machines with
their energy.  `World.step` is one operation of the host on any of them, so a run of a host is a list
of operations.

A machine is named by its position.  A drive that is attached knows its machine by that name, and a
change of its medium waits for the worker of that machine.
-/

namespace DeviceBus

/-- A machine and where its energy comes from. -/
structure Station where
  machine : Machine
  energy : EnergySource

/-- All that a host keeps. -/
structure World where
  site : Site
  controllers : List Controller
  stations : List Station

/-! ## Operations -/

/-- An operation on the topology. -/
inductive TopologyOp where
  | insert (id : ElementId) (blocked : List Side) (devices : List DeviceRef)
  /-- An element that was handed out is inserted again, with its edges. -/
  | putBack (element : Element)
  | unload (id : ElementId)
  | reload (id : ElementId)
  | remove (id : ElementId)
  | connect (a : ElementId) (aSide : Option Side) (b : ElementId) (bSide : Option Side)
  | disconnect (a b : ElementId)
  | addDevice (id : ElementId) (device : DeviceRef)
  | removeDevice (id : ElementId) (device : DeviceId)
  | markDirty (id : ElementId)
  | setProvider (provider : Provider)

/-- An operation on a controller. -/
inductive ControllerOp where
  | poll
  | scan
  | scheduleScan
  | dispose
  | takeChanges
  deriving DecidableEq, Repr

/-- An operation on a machine. -/
inductive MachineOp where
  | start
  | stop
  | tick
  /-- The worker runs at most so many slices. -/
  | advance (slices : Nat)
  | quiesce
  | suspend
  | finalize
  | scheduleScan
  | recharge (amount : Nat) (simulate : Bool)
  | terminal (call : Terminal.Call)
  /-- The emulator is changed from outside. -/
  | script (change : Emulator → Emulator)
  /-- The platform is set. -/
  | platform (platform : Platform)
  | readMemory (address count : Nat)
  | writeMemory (address : Nat) (data : Bytes)
  | drainUpdates
  | saveRecord
  | loadRecord (record : Record)

/-- An operation on a device, from outside of any machine. -/
inductive DeviceOp where
  | readMemory (offset count : Nat)
  | writeMemory (offset : Nat) (data : Bytes)
  | writeStorage (offset : Nat) (data : Bytes)
  | acknowledge
  | save
  | restore (state : Bytes)
  | suspend
  | finalize
  | insertMedium (medium : Medium)
  | ejectMedium
  | exportMedium
  /-- The answers of a probe are set. -/
  | configure (change : Probe → Probe)

/-- An operation of the host. -/
inductive Op where
  | build (device : Device)
  | topology (op : TopologyOp)
  | newController (root : ElementId) (config : Config)
  | controller (index : Nat) (op : ControllerOp)
  | newMachine (root : ElementId) (emulator : Emulator) (config : Config) (sink : Sink)
      (energy : EnergySource)
  | machine (index : Nat) (op : MachineOp)
  | device (handle : Handle) (op : DeviceOp)

/-- What an operation returns. -/
inductive Answer where
  | done
  | flag (value : Bool)
  | amount (value : Option Nat)
  | bytes (value : Option Bytes)
  | element (value : Option Element)
  | device (value : Option DeviceRef)
  | changes (value : Option DeviceChanges)
  | updates (value : List Update)
  | reply (value : Terminal.Reply)
  | medium (value : Option Medium)
  | restored (result : Except Fault Unit)
  | stored (result : Except StorageError Unit)
  | record (value : Record)

/-! ## Topology -/

/-- One operation on the topology. -/
def Topology.step (t : Topology) : TopologyOp → Answer × Topology
  | .insert id blocked devices =>
    let (old, t) := t.insert (.new id blocked devices)
    (.element old, t)
  | .putBack element => let (old, t) := t.insert element; (.element old, t)
  | .unload id => let (done, t) := t.unload id; (.flag done, t)
  | .reload id => let (done, t) := t.reload id; (.flag done, t)
  | .remove id => let (e, t) := t.remove id; (.element e, t)
  | .connect a aSide b bSide => let (done, t) := t.connect a aSide b bSide; (.flag done, t)
  | .disconnect a b => let (done, t) := t.disconnect a b; (.flag done, t)
  | .addDevice id d => let (done, t) := t.addDevice id d; (.flag done, t)
  | .removeDevice id d => let (d, t) := t.removeDevice id d; (.device d, t)
  | .markDirty id => (.done, t.markDirty id)
  | .setProvider provider => (.done, t.setProvider provider)

/-! ## Controllers -/

/-- One operation on a controller. -/
def Controller.step (c : Controller) (s : Site) : ControllerOp → Answer × Controller × Site
  | .poll => (.done, c.poll s)
  | .scan => (.done, c.scan s)
  | .scheduleScan => (.done, c.scheduleScan, s)
  | .dispose => let (c, t) := c.dispose s.topology; (.done, c, { s with topology := t })
  | .takeChanges => let (changes, c) := c.takeChanges; (.changes changes, c, s)

/-! ## Machines -/

namespace Station

/-- An operation that touches the devices besides the machine. -/
def onHardware (station : Station) (s : Site)
    (f : Machine → Hardware → Answer × Machine × Hardware) : Answer × Station × Site :=
  let (answer, machine, hw) := f station.machine s.hardware
  (answer, { station with machine }, { s with hardware := hw })

/-- An operation that touches the machine only. -/
def onMachine (station : Station) (s : Site) (f : Machine → Answer × Machine) :
    Answer × Station × Site :=
  let (answer, machine) := f station.machine
  (answer, { station with machine }, s)

/-- Reads memory that is mapped into the machine. -/
def readMemory (m : Machine) (address count : Nat) (hw : Hardware) : Answer × Machine × Hardware :=
  match m.map.bind fun map => map.memoryAt? hw address with
  | none => (.bytes none, m, hw)
  | some (h, offset) => let (data, hw) := hw.readMemory h offset count; (.bytes (some data), m, hw)

/-- Writes memory that is mapped into the machine, and returns the offset written to. -/
def writeMemory (m : Machine) (address : Nat) (data : Bytes) (hw : Hardware) :
    Answer × Machine × Hardware :=
  match m.map.bind fun map => map.memoryAt? hw address with
  | none => (.amount none, m, hw)
  | some (h, offset) => (.amount (some offset), m, hw.writeMemory h offset data)

/-- One operation on a machine. -/
def step (station : Station) (s : Site) : MachineOp → Answer × Station × Site
  | .start => station.onHardware s fun m hw => let (done, m, hw) := m.start hw; (.flag done, m, hw)
  | .stop => station.onHardware s fun m hw => (.done, m.stop hw)
  | .tick =>
    let (machine, energy, s) := station.machine.tick station.energy s
    (.done, ⟨machine, energy⟩, s)
  | .advance slices => station.onHardware s fun m hw => (.done, m.advance slices hw)
  | .quiesce => station.onHardware s fun m hw => (.done, m.quiesce hw)
  | .suspend =>
    let (machine, s) := station.machine.suspend s
    (.done, { station with machine }, s)
  | .finalize =>
    let (machine, s) := station.machine.finalize s
    (.done, { station with machine }, s)
  | .scheduleScan =>
    station.onMachine s fun m => (.done, { m with controller := m.controller.scheduleScan })
  | .recharge amount simulate =>
    let (accepted, energy) := station.energy.insert amount simulate
    (.amount accepted, { station with energy }, s)
  | .terminal call =>
    station.onMachine s fun m =>
      let (reply, terminal) := m.terminal.perform call
      (.reply reply, { m with terminal })
  | .script change => station.onMachine s fun m => (.done, { m with emulator := change m.emulator })
  | .platform platform => station.onMachine s fun m => (.done, { m with platform })
  | .readMemory address count => station.onHardware s fun m hw => readMemory m address count hw
  | .writeMemory address data => station.onHardware s fun m hw => writeMemory m address data hw
  | .drainUpdates =>
    station.onMachine s fun m =>
      let (updates, sink) := m.sink.drain
      (.updates updates, { m with sink })
  | .saveRecord =>
    station.onHardware s fun m hw => let (r, m, hw) := m.saveRecord hw; (.record r, m, hw)
  | .loadRecord r => station.onHardware s fun m hw => (.done, m.loadRecord r hw)

end Station

/-! ## Worlds -/

namespace World

/-- The world without elements, controllers and machines. -/
def empty : World := ⟨default, [], []⟩

instance : Inhabited World := ⟨empty⟩

/-- The device of a handle. -/
def deviceAt (w : World) (h : Handle) : Device := w.site.hardware.device h

/-- Replaces the devices. -/
def withHardware (w : World) (hw : Hardware) : World :=
  { w with site := { w.site with hardware := hw } }

/-- One operation on a controller. -/
def stepController (w : World) (i : Nat) (op : ControllerOp) : Answer × World :=
  match w.controllers[i]? with
  | none => (.done, w)
  | some c =>
    let (answer, c, site) := c.step w.site op
    (answer, { w with site, controllers := w.controllers.set i c })

/-- One operation on a machine. -/
def stepMachine (w : World) (i : Nat) (op : MachineOp) : Answer × World :=
  match w.stations[i]? with
  | none => (.done, w)
  | some station =>
    let (answer, station, site) := station.step w.site op
    (answer, { w with site, stations := w.stations.set i station })

/-- Waits for the machine that a drive is attached to. -/
def awaitBarrier (w : World) (h : Handle) : World :=
  match (w.deviceAt h).barrier? with
  | none => w
  | some machine => (w.stepMachine machine.index .quiesce).2

/-- Replaces a device by what becomes of it. -/
def modifyDevice (w : World) (h : Handle) (f : Device → Device) : World :=
  w.withHardware (w.site.hardware.update h (f (w.deviceAt h)))

/-- The medium in a drive. -/
def medium? (w : World) (h : Handle) : Option Medium :=
  match w.deviceAt h with
  | .drive d => d.medium
  | _ => none

/-- Changes a drive once its machine allows it, and returns the medium that was in it. -/
def changeDrive (w : World) (h : Handle) (f : Drive → Drive) : Answer × World :=
  let w := w.awaitBarrier h
  (.medium (w.medium? h), w.modifyDevice h fun
    | .drive d => .drive (f d)
    | d => d)

/-- Whether restoring a state puts a medium into a drive. -/
def restoresMedium (w : World) (h : Handle) (state : Bytes) : Bool :=
  match w.deviceAt h with
  | .drive _ => (Drive.savedMedium state).isOk
  | _ => false

/-- One operation on a device. -/
def stepDevice (w : World) (h : Handle) : DeviceOp → Answer × World
  | .readMemory offset count =>
    let (data, hw) := w.site.hardware.readMemory h offset count
    (.bytes (some data), w.withHardware hw)
  | .writeMemory offset data => (.done, w.withHardware (w.site.hardware.writeMemory h offset data))
  | .writeStorage offset data =>
    match (w.deviceAt h).writeStorage offset data with
    | .ok d => (.stored (.ok ()), w.modifyDevice h fun _ => d)
    | .error e => (.stored (.error e), w)
  | .acknowledge => (.done, w.modifyDevice h Device.acknowledge)
  | .save => let (state, hw) := w.site.hardware.save h; (.bytes state, w.withHardware hw)
  | .restore state =>
    let w := if w.restoresMedium h state then w.awaitBarrier h else w
    let (result, hw) := w.site.hardware.restore h state
    (.restored result, w.withHardware hw)
  | .suspend => (.done, w.withHardware (w.site.hardware.suspend h))
  | .finalize => (.done, w.withHardware (w.site.hardware.finalize h))
  | .insertMedium m => w.changeDrive h (·.insert m)
  | .ejectMedium => w.changeDrive h (·.eject.2)
  | .exportMedium => w.changeDrive h id
  | .configure change =>
    (.done, w.modifyDevice h fun
      | .probe p => .probe (change p)
      | d => d)

/-- One operation of the host. -/
def step (w : World) : Op → Answer × World
  | .build d => let (ref, hw) := w.site.hardware.build d; (.device (some ref), w.withHardware hw)
  | .topology op =>
    let (answer, topology) := w.site.topology.step op
    (answer, { w with site := { w.site with topology } })
  | .newController root config =>
    let (c, topology) := Controller.new w.site.topology root config
    (.amount (some w.controllers.length),
      { w with site := { w.site with topology }, controllers := w.controllers ++ [c] })
  | .controller i op => w.stepController i op
  | .newMachine root emulator config sink energy =>
    let (machine, topology) :=
      Machine.build ⟨w.stations.length⟩ root emulator config sink w.site.topology
    (.amount (some w.stations.length),
      { w with site := { w.site with topology }, stations := w.stations ++ [⟨machine, energy⟩] })
  | .machine i op => w.stepMachine i op
  | .device h op => w.stepDevice h op

/-- The world after a list of operations. -/
def run (w : World) (ops : List Op) : World := ops.foldl (fun w op => (w.step op).2) w

end World

end DeviceBus
