import DeviceBus.Json.Parser
import DeviceBus.Scene

/-!
# Reading scenes

The JSON form of a scene.  Names that the form does not have are refused, save in the settings and
in the energy.
-/

namespace DeviceBus.Scene

open Json

/-- The name of an element. -/
def elementId? (j : Json) : Option ElementId := (word64? j).map ElementId.mk

/-- The name of a device. -/
def deviceId? (j : Json) : Option DeviceId := (word64? j).map DeviceId.mk

/-- A side by its name, or as an object that has the name for its only key and no value. -/
def side? : Json → Option Side
  | .string content => (Bytes.text? content).bind Side.ofName?
  | .object [(key, .null)] => (Bytes.text? key).bind Side.ofName?
  | _ => none

/-- An energy store. -/
def energySpec? (j : Json) : Option EnergySpec := do
  let ms ← members? ["capacity", "stored", "recharge"] true j
  return {
    capacity := ← ms.required? "capacity" word32?
    stored := ← ms.optional? "stored" none (option? word32?)
    recharge := ← ms.optional? "recharge" 0 word32? }

/-- A memory. -/
def ramSpec? (j : Json) : Option DeviceSpec := do
  let ms ← members? ["id", "size", "draw"] false j
  return .ram (← ms.required? "id" deviceId?) (← ms.required? "size" (nat? 64))
    (← ms.optional? "draw" 0 signed32?)

/-- A drive. -/
def driveSpec? (j : Json) : Option DeviceSpec := do
  let ms ← members? ["id", "capacity", "medium", "read_only"] false j
  return .drive (← ms.required? "id" deviceId?) (← ms.required? "capacity" (nat? 64))
    (← ms.optional? "medium" none (option? text?)) (← ms.optional? "read_only" false bool?)

/-- An object. -/
def objectSpec? (j : Json) : Option DeviceSpec := do
  let ms ← members? ["id", "name", "methods", "draw"] false j
  return .object (← ms.required? "id" deviceId?) (← ms.required? "name" text?)
    (← ms.optional? "methods" [] (list? text?)) (← ms.optional? "draw" 0 signed32?)

/-- The rest of a device whose type is known. -/
def typedDevice? (type : Json) (rest : Json) : Option DeviceSpec :=
  match text? type with
  | some "ram" => ramSpec? rest
  | some "drive" => driveSpec? rest
  | some "object" => objectSpec? rest
  | _ => none

/-- A device: an object with its type under a key of its own, or an array that starts with it. -/
def deviceSpec? : Json → Option DeviceSpec
  | .object fields =>
    let isType := fun f : Bytes × Json => f.1 = Bytes.ofText "type"
    match fields.filter isType with
    | [(_, type)] => typedDevice? type (.object (fields.filter fun f => !isType f))
    | _ => none
  | .array (type :: rest) => typedDevice? type (.array rest)
  | _ => none

/-- An element. -/
def elementSpec? (j : Json) : Option ElementSpec := do
  let ms ← members? ["id", "blocked", "devices", "unloaded"] false j
  return {
    id := ← ms.required? "id" elementId?
    blocked := ← ms.optional? "blocked" [] (list? side?)
    devices := ← ms.optional? "devices" [] (list? deviceSpec?)
    unloaded := ← ms.optional? "unloaded" false bool? }

/-- An edge. -/
def linkSpec? (j : Json) : Option LinkSpec := do
  let ms ← members? ["a", "a_side", "b", "b_side"] false j
  return {
    a := ← ms.required? "a" elementId?
    aSide := ← ms.optional? "a_side" none (option? side?)
    b := ← ms.required? "b" elementId?
    bSide := ← ms.optional? "b_side" none (option? side?) }

/-- An offer. -/
def providedSpec? (j : Json) : Option ProvidedSpec := do
  let ms ← members? ["element", "side", "draw", "device"] false j
  return {
    element := ← ms.required? "element" elementId?
    side := ← ms.optional? "side" none (option? side?)
    draw := ← ms.optional? "draw" none (option? signed32?)
    device := ← ms.required? "device" deviceSpec? }

/-- A scene. -/
def ofJson? (j : Json) : Option Scene := do
  let ms ← members? ["root", "config", "energy", "elements", "links", "provided", "input"] false j
  return {
    root := ← ms.required? "root" elementId?
    config := ← ms.optional? "config" {} Config.ofJson?
    energy := ← ms.optional? "energy" none (option? energySpec?)
    elements := ← ms.required? "elements" (list? elementSpec?)
    links := ← ms.optional? "links" [] (list? linkSpec?)
    provided := ← ms.optional? "provided" [] (list? providedSpec?)
    input := ← ms.optional? "input" "" text? }

/-- The scene in a file. -/
def decode? (file : Bytes) : Option Scene := (parse? file).bind ofJson?

end DeviceBus.Scene
