import DeviceBus.Config
import DeviceBus.Controller
import DeviceBus.Energy

/-!
# Scenes

A scene describes a topology with its devices, the settings of one machine and its energy.
-/

namespace DeviceBus

/-- The energy of a scene. -/
structure EnergySpec where
  capacity : UInt32
  /-- Energy at the start; as much as fits if it is not given. -/
  stored : Option UInt32
  /-- Energy added before every tick. -/
  recharge : UInt32
  deriving DecidableEq, Repr

/-- The description of a device. -/
inductive DeviceSpec where
  | ram (id : DeviceId) (size : Nat) (draw : Int)
  /-- A drive, with a medium that holds a text. -/
  | drive (id : DeviceId) (capacity : Nat) (medium : Option String) (readOnly : Bool)
  /-- An object whose methods return their arguments. -/
  | object (id : DeviceId) (name : String) (methods : List String) (draw : Int)
  deriving DecidableEq, Repr

/-- The description of an element. -/
structure ElementSpec where
  id : ElementId
  blocked : List Side
  devices : List DeviceSpec
  unloaded : Bool
  deriving DecidableEq, Repr

/-- The description of an edge. -/
structure LinkSpec where
  a : ElementId
  aSide : Option Side
  b : ElementId
  bSide : Option Side
  deriving DecidableEq, Repr

/-- A device that is offered at an element, to scans that come in through the side if one is given. -/
structure ProvidedSpec where
  element : ElementId
  side : Option Side
  /-- The energy it draws, if not its own. -/
  draw : Option Int
  device : DeviceSpec
  deriving DecidableEq, Repr

/-- A scene. -/
structure Scene where
  root : ElementId
  config : Config
  /-- The energy of the machine, if it is metered. -/
  energy : Option EnergySpec
  elements : List ElementSpec
  links : List LinkSpec
  provided : List ProvidedSpec
  /-- What is typed after boot. -/
  input : String
  deriving DecidableEq, Repr

/-- What is wrong with a scene. -/
inductive SceneError where
  /-- Two elements have this name. -/
  | declaredTwice (id : ElementId)
  /-- These elements cannot be connected: one is missing, or they are connected already. -/
  | cannotLink (a b : ElementId)
  deriving DecidableEq, Repr

/-- The error in words. -/
def SceneError.message : SceneError → String
  | declaredTwice id => "element " ++ id.render ++ " is declared twice"
  | cannotLink a b => "cannot link " ++ a.render ++ " and " ++ b.render

/-- The energy store described. -/
def EnergySpec.store (e : EnergySpec) : EnergyStore :=
  ((EnergyStore.empty e.capacity.toNat).insert (e.stored.getD e.capacity).toNat false).2

/-- The device described. -/
def DeviceSpec.device : DeviceSpec → Device
  | ram id size draw => .ram (.new id size draw)
  | drive id capacity none _ => .drive (.new id capacity)
  | drive id capacity (some text) readOnly =>
    .drive ((Drive.new id capacity).insert ⟨Bytes.ofText text, readOnly⟩)
  | object id name methods draw => .object (.new id name draw (methods.map fun m => (m, .echo)))

namespace Scene

/-- Builds devices in order. -/
def buildDevices : List DeviceSpec → Hardware → List DeviceRef × Hardware
  | [], hw => ([], hw)
  | spec :: rest, hw =>
    let (d, hw) := hw.build spec.device
    let (ds, hw) := buildDevices rest hw
    (d :: ds, hw)

/-- Adds the elements in order. -/
def insertElements : List ElementSpec → Site → Except SceneError Site
  | [], s => .ok s
  | spec :: rest, s =>
    let (devices, hardware) := buildDevices spec.devices s.hardware
    match s.topology.insert (.new spec.id spec.blocked devices) with
    | (some _, _) => .error (.declaredTwice spec.id)
    | (none, topology) => insertElements rest ⟨topology, hardware⟩

/-- Makes the edges in order. -/
def connectLinks : List LinkSpec → Topology → Except SceneError Topology
  | [], t => .ok t
  | link :: rest, t =>
    match t.connect link.a link.aSide link.b link.bSide with
    | (false, _) => .error (.cannotLink link.a link.b)
    | (true, t) => connectLinks rest t

/-- Sets aside the elements that start unloaded. -/
def unloadElements (specs : List ElementSpec) (t : Topology) : Topology :=
  (specs.filter ElementSpec.unloaded).foldl (fun t spec => (t.unload spec.id).2) t

/-- Builds the offers in order. -/
def buildOffers : List ProvidedSpec → Hardware → List PlacedOffer × Hardware
  | [], hw => ([], hw)
  | spec :: rest, hw =>
    let (d, hw) := hw.build spec.device.device
    let offer := ⟨d, spec.draw.getD spec.device.device.draw⟩
    let (offers, hw) := buildOffers rest hw
    (⟨spec.element, spec.side, offer⟩ :: offers, hw)

/-- Installs the offers, if there are any. -/
def provide (specs : List ProvidedSpec) (s : Site) : Site :=
  if specs.isEmpty then s
  else
    let (offers, hardware) := buildOffers specs s.hardware
    ⟨s.topology.setProvider (.ofOffers offers []), hardware⟩

/-- The topology and the devices described. -/
def build (scene : Scene) : Except SceneError Site :=
  match insertElements scene.elements default with
  | .error e => .error e
  | .ok s =>
    match connectLinks scene.links s.topology with
    | .error e => .error e
    | .ok t =>
      .ok (provide scene.provided { s with topology := unloadElements scene.elements t })

end Scene

end DeviceBus
