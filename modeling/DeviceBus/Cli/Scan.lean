import DeviceBus.Cli.Arguments
import DeviceBus.Cli.Outcome
import DeviceBus.Scene.Reader
import DeviceBus.Json.Printer

/-!
# The `scan` command

Scans the bus of a scene once and prints its devices.
-/

namespace DeviceBus.Cli

/-- The scene in a file, or why there is none. -/
def loadScene (files : Files) (path : String) : Except String Scene :=
  match files path with
  | .error reason => .error ("reading " ++ path ++ ": " ++ reason)
  | .ok file =>
    match Scene.decode? file with
    | some scene => .ok scene
    | none => .error ("parsing " ++ path ++ ": not a scene")

/-- The scene in a file with its topology, or why there is none. -/
def loadSite (files : Files) (path : String) : Except String (Scene × Site) :=
  match loadScene files path with
  | .error reason => .error reason
  | .ok scene =>
    match scene.build with
    | .error e => .error e.message
    | .ok site => .ok (scene, site)

/-- A document on lines of its own. -/
def prettyLines (j : Json) : List String := [(Bytes.text? (j.pretty 0)).getD ""]

/-! ## JSON -/

/-- A device of the bus as a document. -/
def deviceJson (hw : Hardware) (d : BusDevice) : Json :=
  let device := hw.device d.device.handle
  .ofFields [
    ("address", .ofOption .ofNat d.address),
    ("capabilities", .array (device.capabilities.map fun c => .ofText c.name)),
    ("element", .ofNat d.element.value.toNat),
    ("energy_draw", .ofInt d.draw),
    ("id", .ofNat d.id.value.toNat),
    ("kind", .ofText device.kind),
    ("size", .ofNat device.size)]

/-- A bus as a document. -/
def busJson (c : Controller) (hw : Hardware) : Json := .ofFields [
  ("devices", .array (c.devices.map (deviceJson hw))),
  ("elements", .array (c.members.map fun id => .ofNat id.value.toNat)),
  ("energy_per_tick", .ofNat c.consumption),
  ("fault", .ofOption (fun f : BusFault => .ofText f.message) c.fault),
  ("state", .ofText c.state.name)]

/-! ## Table -/

/-- A line of the table of devices. -/
def tableLine (device kind element address size draw capabilities : String) : String :=
  Text.padRight 12 device ++ " " ++ Text.padRight 8 kind ++ " " ++ Text.padRight 8 element ++ " " ++
    Text.padLeft 12 address ++ " " ++ Text.padLeft 10 size ++ " " ++ Text.padLeft 5 draw ++ "  " ++
    capabilities

/-- The line of one device. -/
def deviceLine (hw : Hardware) (d : BusDevice) : String :=
  let device := hw.device d.device.handle
  let address := match d.address with
    | none => "-"
    | some address => Text.hex address
  tableLine d.id.render device.kind d.element.render address (Text.size device.size)
    (toString d.draw) (",".intercalate (device.capabilities.map Capability.name))

/-- The table of a bus. -/
def busTable (c : Controller) (hw : Hardware) : List String :=
  let fault := match c.fault with
    | none => []
    | some f => ["fault:    " ++ f.message]
  let devices :=
    if c.devices.isEmpty then ["No devices."]
    else
      tableLine "DEVICE" "KIND" "ELEMENT" "ADDRESS" "SIZE" "DRAW" "CAPABILITIES" ::
        c.devices.map (deviceLine hw)
  ["bus:      " ++ c.state.name] ++ fault ++
    ["elements: " ++ toString c.members.length, "energy:   " ++ toString c.consumption ++ "/tick"] ++
    devices

/-! ## Command -/

/-- Scans the bus of a scene. -/
def scan (files : Files) (path : String) (format : Format) : Outcome :=
  match loadSite files path with
  | .error reason => .failed reason
  | .ok (scene, site) =>
    let (c, topology) := Controller.new site.topology scene.root scene.config
    let (c, site) := c.poll { site with topology }
    match format with
    | .table => .printed (busTable c site.hardware)
    | .json => .printed (prettyLines (busJson c site.hardware))

end DeviceBus.Cli
