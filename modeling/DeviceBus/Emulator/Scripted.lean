import DeviceBus.Emulator.Hosted

/-!
# Scripted emulators

An emulator that counts cycles, and whose every success and failure is set beforehand; or, in its place, any
emulator of the host.
-/

namespace DeviceBus

/-- An emulator that behaves as it is told. -/
structure ScriptedEmulator where
  /-- Cycles run since the last reset. -/
  cycles : UInt64 := 0
  /-- Why it refuses the devices of a load. -/
  installFault : Option Fault := none
  /-- It faults when run with at least so many cycles behind it. -/
  faultAt : Option Nat := none
  /-- Whether it faults once only. -/
  faultOnce : Bool := false
  fault : Fault := ⟨"fault"⟩
  /-- It panics, once, when run with at least so many cycles behind it. -/
  panicAt : Option Nat := none
  /-- What it writes each time it is run. -/
  output : Bytes := []
  /-- Whether it writes the delivered input back first. -/
  echo : Bool := false
  /-- An emulator of the host that is called in its place, with the state it is in. -/
  host : Option (HostEmulator × Bytes) := none

namespace ScriptedEmulator

/-- Whether a limit on the cycles is set and reached. -/
def hasReached (e : ScriptedEmulator) (limit : Option Nat) : Bool :=
  limit.any fun n => n ≤ e.cycles.toNat

/-- Writes back the delivered input. -/
def echoInput (t : Terminal) : Terminal :=
  let (read, t) := t.readAllInput
  (t.write read).2

/-- Takes the devices of a load, unless it refuses them. -/
def install (e : ScriptedEmulator) (map : DeviceMap) (hw : Hardware) :
    Except Fault Unit × ScriptedEmulator :=
  match e.host with
  | some (host, state) =>
    let (result, state) := host.install map hw state
    (result, { e with host := some (host, state) })
  | none =>
    match e.installFault with
    | some fault => (.error fault, e)
    | none => (.ok (), e)

/-- Runs by its own settings for some cycles. -/
def runSettings (e : ScriptedEmulator) (cycles : Nat) (t : Terminal) :
    SliceEnd × ScriptedEmulator × Terminal :=
  if e.hasReached e.faultAt then
    (.faulted e.fault, if e.faultOnce then { e with faultAt := none } else e, t)
  else if e.hasReached e.panicAt then (.panicked, { e with panicAt := none }, t)
  else
    let t := if e.echo then echoInput t else t
    (.completed, { e with cycles := e.cycles + UInt64.ofNat cycles }, (t.write e.output).2)

/-- Runs for some cycles. -/
def run (e : ScriptedEmulator) (cycles : Nat) (t : Terminal) :
    SliceEnd × ScriptedEmulator × Terminal :=
  match e.host with
  | some (host, state) =>
    let (outcome, state, calls) := host.run cycles t state
    (outcome, { e with host := some (host, state) }, t.serveAll calls)
  | none => e.runSettings cycles t

/-- Returns to the state after power-on. -/
def reset (e : ScriptedEmulator) : ScriptedEmulator :=
  { e with cycles := 0, host := e.host.map fun (host, state) => (host, host.reset state) }

/-- The persisted state of the host's emulator, or else the cycle counter: eight bytes with the lowest
first. -/
def save (e : ScriptedEmulator) : Bytes :=
  match e.host with
  | some (host, state) => host.save state
  | none => Bytes.writeLE 8 e.cycles.toNat

/-- Takes over a persisted state. -/
def restore (e : ScriptedEmulator) (saved : Bytes) : Except Fault ScriptedEmulator :=
  match e.host with
  | some (host, state) =>
    (host.restore saved state).map fun state => { e with host := some (host, state) }
  | none =>
    if saved.length = 8 then .ok { e with cycles := UInt64.ofNat (Bytes.readLE saved) }
    else .error ⟨"bad blob"⟩

end ScriptedEmulator

end DeviceBus
