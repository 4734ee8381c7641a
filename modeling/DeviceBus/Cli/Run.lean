import DeviceBus.Cli.Scan
import DeviceBus.Machine
import DeviceBus.View

/-!
# The `run` command

Boots the demo machine on a scene and runs it for some ticks.  Every tick waits for the worker, so
the output is the same each time.
-/

namespace DeviceBus.Cli

/-- A machine under way, with what it has printed so far. -/
structure Session where
  machine : Machine
  site : Site
  energy : EnergySource
  /-- Energy added before every tick. -/
  recharge : Nat
  /-- What an observer has learned. -/
  view : RemoteView
  stdout : Bytes
  stderr : List String

/-! ## Output -/

/-- An update in words. -/
def describe : Update → String
  | .busState state => "BusState(" ++ state.name ++ ")"
  | .runState state => "RunState(" ++ state.name ++ ")"
  | .bootError none => "BootError(None)"
  | .bootError (some error) => "BootError(Some(" ++ Text.quote error ++ "))"
  | .terminalOutput chunk =>
    "TerminalOutput(" ++ Text.bracketed (chunk.map fun b => toString b.toNat) ++ ")"
  | .terminalReset => "TerminalReset"
  | .mediaChanged device present =>
    "MediaChanged \x7b device: " ++ toString device.value.toNat ++ ", present: " ++
      toString present ++ " \x7d"

/-- Passes one update on. -/
def Session.pass (verbose : Bool) (tick : Nat) (s : Session) (u : Update) : Session :=
  let s := { s with view := s.view.apply u }
  match u with
  | .terminalOutput chunk => { s with stdout := s.stdout ++ chunk }
  | u =>
    if verbose then
      { s with stderr := s.stderr ++ ["[tick " ++ toString tick ++ "] " ++ describe u] }
    else s

/-! ## Ticks -/

/-- One tick, the work it grants included. -/
def Session.tick (verbose : Bool) (tick : Nat) (s : Session) : Session :=
  let energy := (s.energy.insert s.recharge false).2
  let (machine, energy, site) := s.machine.tick energy s.site
  let (machine, hardware) := machine.quiesce site.hardware
  let (updates, sink) := machine.sink.drain
  let s := { s with machine := { machine with sink }, site := { site with hardware }, energy }
  updates.foldl (Session.pass verbose tick) s

/-- Some more ticks, the first of them numbered. -/
def Session.ticks (verbose : Bool) : Nat → Nat → Session → Session
  | _, 0, s => s
  | first, n + 1, s => ticks verbose (first + 1) n (s.tick verbose first)

/-- Passes on what the last tick left in the terminal. -/
def Session.finish (s : Session) : Session :=
  match s.machine.terminal.takeOutput with
  | (none, _) => s
  | (some chunk, terminal) =>
    { s with
      machine := { s.machine with terminal }
      view := s.view.apply (.terminalOutput chunk)
      stdout := s.stdout ++ chunk }

/-- The closing lines. -/
def Session.summary (s : Session) : List String :=
  let error := match s.view.bootError with
    | none => []
    | some error => ["error:     " ++ error]
  let energy := match s.energy with
    | .unmetered => []
    | .metered store => ["energy:    " ++ toString store.stored ++ "/" ++ toString store.capacity]
  ["", "run state: " ++ s.view.runState.name, "bus state: " ++ s.view.busState.name] ++ error ++
    ["cycles:    " ++ toString s.machine.worker.executed] ++ energy

/-! ## Command -/

/-- The energy of a scene's machine, and what is added before every tick. -/
def sceneEnergy (scene : Scene) : EnergySource × Nat :=
  match scene.energy with
  | none => (.unmetered, 0)
  | some spec => (.metered spec.store, spec.recharge.toNat)

/-- Types input into the terminal of a machine. -/
def typeInput (m : Machine) (input : Bytes) : Machine :=
  { m with terminal := (m.terminal.sendInput input).2 }

/-- A machine that was started, and has not been ticked. -/
def Session.open (scene : Scene) (site : Site) (record : Option Record) (input : Option String) :
    Session :=
  let (m, topology) :=
    Machine.build ⟨0⟩ scene.root (.demo .new) scene.config (.queue []) site.topology
  let (m, hw) := match record with
    | none => (m, site.hardware)
    | some r => m.loadRecord r site.hardware
  let view := RemoteView.ofSnapshot m.snapshot scene.config.terminal
  let (_, m, hw) := m.start hw
  let machine := typeInput m (Bytes.ofText (input.getD scene.input))
  let (energy, recharge) := sceneEnergy scene
  { machine, energy, recharge, view, site := ⟨topology, hw⟩, stdout := [], stderr := [] }

/-- The record to start from, or why it cannot be read. -/
def resumeRecord (files : Files) : Option String → Except String (Option Record)
  | none => .ok none
  | some path =>
    match files path with
    | .error reason => .error ("reading record " ++ path ++ ": " ++ reason)
    | .ok file => .ok (some (Record.decode file))

/-- Runs the machine of a scene. -/
def run (files : Files) (options : RunOptions) : Outcome :=
  match loadSite files options.scene with
  | .error reason => .failed reason
  | .ok (scene, site) =>
    match resumeRecord files options.resume with
    | .error reason => .failed reason
    | .ok record =>
      let s := Session.open scene site record options.input
      let s := (s.ticks options.verbose 0 options.ticks).finish
      let file := options.record.map fun path =>
        (path, (s.machine.saveRecord s.site.hardware).1.encode)
      ⟨0, s.stdout, s.stderr ++ s.summary, file⟩

end DeviceBus.Cli
