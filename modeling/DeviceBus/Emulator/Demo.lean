import DeviceBus.Attach
import DeviceBus.Json.Parser
import DeviceBus.Json.Printer
import DeviceBus.Text.Quoted

/-!
# The demo machine

An emulator that executes nothing.  At boot it prints the devices it was given and checks the memory
at the start of the window; from then on it echoes the terminal's input.
-/

namespace DeviceBus

/-- The state of the demo machine, all of it persisted. -/
structure DemoMachine where
  boots : UInt32
  cycles : UInt64
  /-- Input bytes read. -/
  echoed : UInt64
  /-- Output that the terminal has not accepted yet. -/
  outbox : Bytes
  deriving DecidableEq, Repr

namespace DemoMachine

/-- The machine before its first boot. -/
def new : DemoMachine := ⟨0, 0, 0, []⟩

/-- The machine as switched on; it goes on counting its boots. -/
def reset (m : DemoMachine) : DemoMachine := ⟨m.boots, 0, 0, []⟩

/-! ## Boot -/

/-- What the memory check writes and reads back. -/
def signature : Bytes := [0x56, 0x42, 0x55, 0x53]

/-- The part of a device's line about its place. -/
def placeText (m : Mapping) : String :=
  match m.base with
  | none => " unmapped"
  | some base => " " ++ Text.hexPadded 12 base ++ " +" ++ Text.hex m.size

/-- The part of a device's line about its interrupt lines. -/
def linesText (m : Mapping) : String :=
  if m.lines.isEmpty then "" else " irq " ++ Text.bracketed (m.lines.map toString)

/-- The part of a device's line about its medium. -/
def mediumText (d : Device) : String :=
  match d.storage? with
  | none => ""
  | some s => if s.mediaPresent then " media " ++ toString s.capacity ++ " bytes" else " media absent"

/-- The part of a device's line about its methods. -/
def methodsText (d : Device) : String :=
  match d.rpc? with
  | none => ""
  | some o => " " ++ o.typeName ++ " " ++ Text.bracketed (o.methodNames.map Text.quote)

/-- The line of the banner about one device. -/
def deviceLine (hw : Hardware) (m : Mapping) : String :=
  let d := hw.device m.device.handle
  "  " ++ Text.padRight 10 d.id.render ++ " " ++ Text.padRight 8 d.kind ++ placeText m ++
    linesText m ++ mediumText d ++ methodsText d ++ "\n"

/-- The banner that a boot prints. -/
def banner (boots : UInt32) (map : DeviceMap) (hw : Hardware) : String :=
  "vbus demo machine, boot " ++ toString boots.toNat ++ ", " ++ toString map.size ++ " device(s)\n" ++
    String.join (map.mappings.map (deviceLine hw))

/-- Writes the signature at the start of the window and reads it back.  The answer tells whether
there is memory and whether it held the signature. -/
def checkMemory (map : DeviceMap) (hw : Hardware) : Option Bool × Hardware :=
  match map.memoryAt? hw map.windowStart with
  | none => (none, hw)
  | some (h, offset) =>
    let hw := hw.writeMemory h offset signature
    let (found, hw) := hw.readMemory h offset signature.length
    (some (found = signature), hw)

/-- Boots on the devices of a load. -/
def install (m : DemoMachine) (map : DeviceMap) (hw : Hardware) :
    Except Fault Unit × DemoMachine × Hardware :=
  let m := { m with boots := m.boots + 1 }
  let text := banner m.boots map hw
  match checkMemory map hw with
  | (some false, hw) => (.error ⟨"memory check failed"⟩, m, hw)
  | (some true, hw) =>
    (.ok (), { m with outbox := m.outbox ++ Bytes.ofText (text ++ "memory check ok\n") }, hw)
  | (none, hw) => (.ok (), { m with outbox := m.outbox ++ Bytes.ofText text }, hw)

/-! ## Execution -/

/-- Runs for some cycles: takes all delivered input over, and writes what the terminal accepts. -/
def run (m : DemoMachine) (cycles : Nat) (t : Terminal) : DemoMachine × Terminal :=
  let (read, t) := t.readAllInput
  let waiting := m.outbox ++ read
  let (accepted, t) := t.write waiting
  ({ m with
      cycles := m.cycles + UInt64.ofNat cycles
      echoed := m.echoed + UInt64.ofNat read.length
      outbox := waiting.drop accepted }, t)

/-! ## Persistence -/

/-- The state as a document. -/
def toJson (m : DemoMachine) : Json := .ofFields [
  ("boots", .ofNat m.boots.toNat),
  ("cycles", .ofNat m.cycles.toNat),
  ("echoed", .ofNat m.echoed.toNat),
  ("outbox", .ofBytes m.outbox)]

open Json in
/-- The state that a document describes. -/
def ofJson? (j : Json) : Option DemoMachine := do
  let ms ← members? ["boots", "cycles", "echoed", "outbox"] true j
  return {
    boots := ← ms.required? "boots" word32?
    cycles := ← ms.required? "cycles" word64?
    echoed := ← ms.required? "echoed" word64?
    outbox := ← ms.required? "outbox" bytes? }

/-- The persisted state. -/
def save (m : DemoMachine) : Bytes := m.toJson.compact

/-- The machine of a persisted state.  Why a state is refused is the parser's to say; one word stands for it. -/
def restore (state : Bytes) : Except Fault DemoMachine :=
  match (Json.parse? state).bind ofJson? with
  | some m => .ok m
  | none => .error ⟨"demo machine state: unreadable"⟩

end DemoMachine

end DeviceBus
