import DeviceBus.Config
import DeviceBus.Energy
import DeviceBus.Message
import DeviceBus.Scan

/-!
# Controllers

A controller owns one bus: the elements that a scan from its root reaches, and their devices.
Changes of the topology only set a flag; the scan itself runs at the next poll.
-/

namespace DeviceBus

/-- The topology and the devices, which controllers and machines share. -/
structure Site where
  topology : Topology
  hardware : Hardware

instance : Inhabited Site := ⟨⟨.empty, .empty⟩⟩

/-! ## Changes -/

/-- What is different between two lists of devices. -/
structure DeviceChanges where
  added : List DeviceId
  removed : List DeviceId
  /-- Devices on both lists, at different addresses. -/
  moved : List DeviceId
  deriving DecidableEq, Repr

namespace DeviceChanges

/-- The device of a name. -/
def find? (devices : List BusDevice) (id : DeviceId) : Option BusDevice := devices.find? (·.id = id)

/-- Whether a device of the new list was on the old one at another address. -/
def isMoved (old : List BusDevice) (d : BusDevice) : Bool :=
  (find? old d.id).any fun previous => previous.address ≠ d.address

/-- What is different between two lists of devices. -/
def between (old new : List BusDevice) : DeviceChanges where
  added := (new.filter fun d => (find? old d.id).isNone).map BusDevice.id
  removed := (old.filter fun d => (find? new d.id).isNone).map BusDevice.id
  moved := (new.filter (isMoved old)).map BusDevice.id

/-- Whether nothing is different. -/
def isEmpty (c : DeviceChanges) : Bool := c.added.isEmpty && c.removed.isEmpty && c.moved.isEmpty

/-- Changes followed by others. -/
def append (a b : DeviceChanges) : DeviceChanges :=
  ⟨a.added ++ b.added, a.removed ++ b.removed, a.moved ++ b.moved⟩

end DeviceChanges

/-! ## Controllers -/

/-- The owner of a bus. -/
structure Controller where
  /-- Its name in the topology. -/
  id : ControllerId
  /-- Where scans start. -/
  root : ElementId
  state : BusState
  /-- Why the bus is in its error state. -/
  fault : Option BusFault
  /-- Whether the next poll scans. -/
  scanPending : Bool
  /-- Whether the controller gave up its bus and was not polled since. -/
  disposed : Bool
  /-- The elements of the last completed scan, in order. -/
  members : List ElementId
  /-- The devices of the last completed scan, in order. -/
  devices : List BusDevice
  /-- What became different since the changes were taken. -/
  changes : Option DeviceChanges
  /-- Energy drawn each tick besides the devices'. -/
  baseDraw : Nat
  /-- How many elements the bus may span. -/
  maxElements : Nat
  deriving DecidableEq, Repr

namespace Controller

/-- Registers a controller.  Its first poll scans. -/
def new (t : Topology) (root : ElementId) (config : Config) : Controller × Topology :=
  let (id, t) := t.register root
  ({ id, root
     state := .scanning
     fault := none
     scanPending := true
     disposed := false
     members := []
     devices := []
     changes := none
     baseDraw := config.energyPerTick.toNat
     maxElements := config.maxElements.toNat }, t)

/-- The energy the bus draws each tick. -/
def consumption (c : Controller) : Nat := Consumption.total c.baseDraw (c.devices.map BusDevice.draw)

/-- Asks for a scan at the next poll. -/
def scheduleScan (c : Controller) : Controller := { c with scanPending := true }

/-- The recorded changes, and the controller without them. -/
def takeChanges (c : Controller) : Option DeviceChanges × Controller :=
  (c.changes, { c with changes := none })

/-- Stands in for the members until the next completed scan. -/
def restoreMembers (c : Controller) (members : List ElementId) : Controller := { c with members }

/-- Records what is different in a new list of devices. -/
def recordChanges (c : Controller) (devices : List BusDevice) : Controller :=
  let difference := DeviceChanges.between c.devices devices
  if difference.isEmpty then c
  else
    match c.changes with
    | none => { c with changes := some difference }
    | some earlier => { c with changes := some (earlier.append difference) }

/-- Loses the bus for a reason. -/
def fail (c : Controller) (fault : BusFault) : Controller :=
  { c.recordChanges [] with
    members := []
    devices := []
    scanPending := false
    state := .error
    fault := some fault }

/-- Takes over what a completed scan found. -/
def adopt (c : Controller) (members : List ElementId) (devices : List BusDevice) : Controller :=
  { c.recordChanges devices with
    members
    devices
    scanPending := false
    state := .ready }

/-- Scans now. -/
def scan (c : Controller) (s : Site) : Controller × Site :=
  let c := { c with state := .scanning, fault := none, scanPending := true }
  match Scan.walk s.topology c.root c.maxElements with
  | .error .deferred => (c, s)
  | .error .tooComplex =>
    (c.fail (.tooComplex c.maxElements), { s with topology := s.topology.releaseClaims c.id })
  | .ok visits =>
    let (result, hardware) := Scan.enumerate s.topology s.hardware visits
    match result with
    | .error fault => (c.fail fault, ⟨s.topology.releaseClaims c.id, hardware⟩)
    | .ok devices =>
      let members := visits.map Query.element
      (c.adopt members devices, ⟨s.topology.claim c.id members, hardware⟩)

/-- Registers a disposed controller anew. -/
def revive (c : Controller) (s : Site) : Controller × Site :=
  if c.disposed then
    let (id, topology) := s.topology.register c.root
    ({ c with id, disposed := false, scanPending := true }, { s with topology })
  else (c, s)

/-- Takes note of a lost bus. -/
def absorbInvalidation (c : Controller) (s : Site) : Controller × Site :=
  match s.topology.takeInvalidation c.id with
  | (true, t) => (c.fail .invalidated, { s with topology := t.releaseClaims c.id })
  | (false, t) => (c, { s with topology := t })

/-- Takes note of a request to scan. -/
def absorbScanRequest (c : Controller) (s : Site) : Controller × Site :=
  match s.topology.takeScanRequest c.id with
  | (true, t) => (c.scheduleScan, { s with topology := t })
  | (false, t) => (c, { s with topology := t })

/-- Takes note of what the topology has to tell, and scans if that is due. -/
def poll (c : Controller) (s : Site) : Controller × Site :=
  let (c, s) := c.revive s
  let (c, s) := c.absorbInvalidation s
  let (c, s) := c.absorbScanRequest s
  if c.scanPending then c.scan s else (c, s)

/-- Gives up the bus. -/
def dispose (c : Controller) (t : Topology) : Controller × Topology :=
  if c.disposed then (c, t)
  else ({ c with disposed := true, state := .scanning }, t.unregister c.id)

end Controller

end DeviceBus
