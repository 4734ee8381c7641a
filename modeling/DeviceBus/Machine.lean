import DeviceBus.Controller
import DeviceBus.Emulator
import DeviceBus.Record
import DeviceBus.Worker

/-!
# Machines

A machine runs an emulator on the devices of its bus.  It goes from `stopped` or `error` to
`loading` when it is started, to `running` once the bus is ready and every device is attached, and
to `error` when a load fails or the emulation faults.  `stop` takes it through `stopping` to
`stopped`.

The emulation runs on the machine's worker between ticks.  Whatever touches the emulator or a device
waits for the worker first.  A tick that runs the machine does not wait: it looks at the worker three
times, and the worker may get on between two looks.
-/

namespace DeviceBus

/-- What the platform decides: how far the worker gets inside a tick that does not wait for it, in slices,
and whether a thread can be started.  Without a number the worker does not even begin what it was
granted. -/
structure Platform where
  /-- Slices between the look for a failure and the look whether the worker is idle. -/
  look : Option Nat := none
  /-- Slices between that look and the charge. -/
  charge : Option Nat := none
  /-- Slices between the charge and the grant. -/
  grant : Option Nat := none
  /-- Why no thread can be started. -/
  refusal : Option String := none
  deriving DecidableEq, Repr

/-- A machine. -/
structure Machine where
  id : MachineId
  config : Config
  controller : Controller
  worker : Worker
  emulator : Emulator
  terminal : Terminal
  /-- Where updates are published. -/
  sink : Sink
  runState : RunState
  /-- The state of the bus that observers were told. -/
  busState : BusState
  bootError : Option String
  /-- The attached devices. -/
  map : Option DeviceMap
  /-- Whether the next load keeps the state of the emulator. -/
  resume : Bool
  /-- Restored states that were not handed to their devices yet. -/
  pendingStates : Table DeviceId Bytes
  /-- Whether a medium was in each drive when last looked at. -/
  media : Table DeviceId Bool
  platform : Platform

namespace Machine

/-- Builds a machine with a controller at `root`. -/
def build (id : MachineId) (root : ElementId) (emulator : Emulator) (config : Config) (sink : Sink)
    (t : Topology) : Machine × Topology :=
  let (controller, t) := Controller.new t root config
  ({ id, config, controller, emulator, sink
     worker := .new config.sliceCycles.toNat
     terminal := .new config.terminal
     runState := .stopped
     busState := .scanning
     bootError := none
     map := none
     resume := false
     pendingStates := .empty
     media := .empty
     platform := {} }, t)

/-- What an observer is given when it starts to track the machine. -/
def snapshot (m : Machine) : Snapshot := ⟨m.runState, m.busState, m.bootError, m.terminal.history⟩

/-! ## Updates -/

/-- Publishes an update. -/
def publish (m : Machine) (u : Update) : Machine := { m with sink := m.sink.publish u }

/-- Changes the run state, and publishes the change. -/
def setRunState (m : Machine) (state : RunState) : Machine :=
  if m.runState = state then m else { m with runState := state }.publish (.runState state)

/-- Changes the boot error, and publishes the change. -/
def setBootError (m : Machine) (error : Option String) : Machine :=
  if m.bootError = error then m else { m with bootError := error }.publish (.bootError error)

/-- Changes the bus state, and publishes the change. -/
def setBusState (m : Machine) (state : BusState) : Machine :=
  if m.busState = state then m else { m with busState := state }.publish (.busState state)

/-- Publishes the output of the terminal. -/
def flushTerminal (m : Machine) : Machine :=
  match m.terminal.takeOutput with
  | (none, _) => m
  | (some chunk, terminal) => { m with terminal }.publish (.terminalOutput chunk)

/-- Empties the terminal, and publishes that. -/
def resetTerminal (m : Machine) : Machine :=
  { m with terminal := m.terminal.reset }.publish .terminalReset

/-! ## Worker -/

/-- What a slice of emulation can change, with the journal it is written to. -/
structure Guest where
  emulator : Emulator
  terminal : Terminal
  hardware : Hardware

/-- Runs one slice of emulation. -/
def runSlice (id : MachineId) (cycles : Nat) (g : Guest) : SliceEnd × Guest :=
  let (outcome, emulator, terminal) := g.emulator.run cycles g.terminal
  let input := g.terminal.input.take (g.terminal.input.length - terminal.input.length)
  let output := terminal.pending.length - g.terminal.pending.length
  (outcome, ⟨emulator, terminal, g.hardware.record (.emulator id (.run cycles outcome input output))⟩)

/-- What a step of a worker does to what a slice can change. -/
abbrev WorkerStep := (Nat → Guest → SliceEnd × Guest) → Worker → Guest → Worker × Guest

/-- Lets the worker take a step. -/
def stepWorker (m : Machine) (step : WorkerStep) (hw : Hardware) : Machine × Hardware :=
  let (worker, g) := step (runSlice m.id) m.worker ⟨m.emulator, m.terminal, hw⟩
  ({ m with worker, emulator := g.emulator, terminal := g.terminal }, g.hardware)

/-- Waits until the worker is idle. -/
def quiesce (m : Machine) (hw : Hardware) : Machine × Hardware := m.stepWorker Worker.quiesce hw

/-- Cancels the work in hand and discards its failure. -/
def cancel (m : Machine) (hw : Hardware) : Machine × Hardware := m.stepWorker Worker.cancel hw

/-- Cancels the work in hand and ends the thread of the worker. -/
def shutdown (m : Machine) (hw : Hardware) : Machine × Hardware := m.stepWorker Worker.shutdown hw

/-- Lets the worker run at most so many slices. -/
def advance (m : Machine) (slices : Nat) (hw : Hardware) : Machine × Hardware :=
  m.stepWorker (Worker.progress · slices) hw

/-- Lets the worker run while nobody waits for it. -/
def drift (m : Machine) (slices : Option Nat) (hw : Hardware) : Machine × Hardware :=
  match slices with
  | none => (m, hw)
  | some slices => m.advance slices hw

/-! ## Emulator -/

/-- Notes a call of the emulator. -/
def noteCall (m : Machine) (call : EmulatorCall) (hw : Hardware) : Hardware :=
  hw.record (.emulator m.id call)

/-- Returns the emulator to its state after power-on. -/
def resetEmulator (m : Machine) (hw : Hardware) : Machine × Hardware :=
  ({ m with emulator := m.emulator.reset }, m.noteCall .reset hw)

/-- Gives the emulator the devices of a load. -/
def install (m : Machine) (map : DeviceMap) (hw : Hardware) :
    Except Fault Unit × Machine × Hardware :=
  let (result, emulator, hw) := m.emulator.install map hw
  let call := .install (map.mappings.map (·.device.id)) result.isOk
  (result, { m with emulator }, m.noteCall call hw)

/-- Gives the emulator a persisted state. -/
def restoreEmulator (m : Machine) (state : Bytes) (hw : Hardware) :
    Except Fault Unit × Machine × Hardware :=
  match m.emulator.restore state with
  | .ok emulator => (.ok (), { m with emulator }, m.noteCall (.restore state true) hw)
  | .error fault => (.error fault, m, m.noteCall (.restore state false) hw)

/-! ## Loading -/

/-- Releases the attached devices. -/
def releaseDevices (m : Machine) (hw : Hardware) : Machine × Hardware :=
  match m.map with
  | none => (m, hw)
  | some map => ({ m with map := none }, suspendAll map.mappings hw)

/-- Ends in the error state. -/
def halt (m : Machine) (error : BootError) (hw : Hardware) : Machine × Hardware :=
  let (m, hw) := m.cancel hw
  let (m, hw) := m.releaseDevices hw
  ({ m with resume := false }.setBootError (some error.message) |>.setRunState .error, hw)

/-- Hands a device the state that was restored for it, if there is one.  A drive that another machine holds
would wait for that machine's worker, which is as if the host had waited for it before. -/
def restoreDevice (m : Machine) (entry : BusDevice) (hw : Hardware) :
    Except BootError Unit × Machine × Hardware :=
  match m.pendingStates.get? entry.id with
  | none => (.ok (), m, hw)
  | some state =>
    let m := { m with pendingStates := m.pendingStates.erase entry.id }
    match hw.restore entry.device.handle state with
    | (.ok (), hw) => (.ok (), m, hw)
    | (.error reason, hw) => (.error (.deviceRejected entry.id reason), m, hw)

/-- Attaches devices in order.  If one fails, those before it are released again. -/
def attachEach : List BusDevice → AttachContext → Machine → Hardware →
    Except BootError AttachContext × Machine × Hardware
  | [], ctx, m, hw => (.ok ctx, m, hw)
  | entry :: rest, ctx, m, hw =>
    match m.restoreDevice entry hw with
    | (.error e, m, hw) => (.error e, m, ctx.abort hw)
    | (.ok (), m, hw) =>
      match ctx.attach m.id m.worker.isIdle entry hw with
      | (.error e, hw) => (.error e, m, ctx.abort hw)
      | (.ok ctx, hw) => attachEach rest ctx m hw

/-- Gives the emulator the attached devices, after a reset unless its state is kept.  If it refuses
them they are released again. -/
def installDevices (m : Machine) (keepState : Bool) (map : DeviceMap) (hw : Hardware) :
    Except BootError DeviceMap × Machine × Hardware :=
  let (m, hw) := if keepState then (m, hw) else m.resetEmulator hw
  match m.install map hw with
  | (.ok (), m, hw) => (.ok map, m, hw)
  | (.error fault, m, hw) => (.error (.emulation fault), m, suspendAll map.mappings hw)

/-- Attaches all devices of the bus and gives them to the emulator. -/
def attachAll (m : Machine) (keepState : Bool) (hw : Hardware) :
    Except BootError DeviceMap × Machine × Hardware :=
  match attachEach m.controller.devices (.new m.config) m hw with
  | (.error e, m, hw) => (.error e, m, hw)
  | (.ok ctx, m, hw) => m.installDevices keepState ctx.finish hw

/-- Goes on with the devices that were attached, if there is a thread for the worker. -/
def enter (m : Machine) (keepState : Bool) (map : DeviceMap) (hw : Hardware) : Machine × Hardware :=
  let m := { m with map := some map, media := .empty }
  let worker := if keepState then m.worker else m.worker.takeFault.2
  match worker.start m.platform.refusal with
  | (.ok (), worker) => ({ m with worker }.setBootError none |>.setRunState .running, hw)
  | (.error reason, worker) => { m with worker }.halt (.io reason) hw

/-- Loads the devices of the bus. -/
def load (m : Machine) (hw : Hardware) : Machine × Hardware :=
  let keepState := m.resume
  let (m, hw) := { m with resume := false }.quiesce hw
  match m.attachAll keepState hw with
  | (.ok map, m, hw) => m.enter keepState map hw
  | (.error e, m, hw) => m.halt e hw

/-! ## Starting and stopping -/

/-- Starts a machine that is stopped or halted. -/
def start (m : Machine) (hw : Hardware) : Bool × Machine × Hardware :=
  if m.runState = .stopped ∨ m.runState = .error then
    let m := { m with resume := false }.setRunState .loading
    if m.busState = .ready then (true, m.load hw) else (true, m, hw)
  else (false, m, hw)

/-- Stops a machine that is running or loading. -/
def stop (m : Machine) (hw : Hardware) : Machine × Hardware :=
  if m.runState = .running ∨ m.runState = .loading then
    let (m, hw) := (m.setRunState .stopping).cancel hw
    let (m, hw) := m.releaseDevices hw
    ({ m with resume := false }.resetTerminal.setRunState .stopped, hw)
  else (m, hw)

/-! ## Ticks -/

/-- Takes up a change of the devices while some are attached. -/
def swap (m : Machine) (hw : Hardware) : Machine × Hardware :=
  let (m, hw) := m.quiesce hw
  let (m, hw) := m.releaseDevices hw
  if m.runState = .running ∧ m.controller.state = .ready then { m with resume := true }.load hw
  else (m, hw)

/-- Takes the recorded changes of the bus, and swaps the devices if some are attached. -/
def absorbChanges (m : Machine) (hw : Hardware) : Machine × Hardware :=
  let (changes, controller) := m.controller.takeChanges
  let m := { m with controller }
  if changes.isSome ∧ m.map.isSome then m.swap hw else (m, hw)

/-- Looks whether the worker is idle, and if it is, pays for a tick and grants it.  Nobody looks whether
the grant was accepted. -/
def grantTick (m : Machine) (energy : EnergySource) (hw : Hardware) :
    Machine × EnergySource × Hardware :=
  let (m, hw) := m.drift m.platform.look hw
  if !m.worker.isIdle then (m, energy, hw)
  else
    let (m, hw) := m.drift m.platform.charge hw
    let amount := m.controller.consumption
    if !(energy.consume amount true).1 then (m, energy, hw)
    else
      let energy := (energy.consume amount false).2
      let (m, hw) := { m with terminal := m.terminal.deliverInput }.drift m.platform.grant hw
      ({ m with worker := (m.worker.grant m.config.cyclesPerTick.toNat).2 }, energy, hw)

/-- One tick of emulation: ends in the error state if there is a failure, and goes on if not. -/
def step (m : Machine) (energy : EnergySource) (hw : Hardware) : Machine × EnergySource × Hardware :=
  match m.worker.takeFault with
  | (some fault, worker) =>
    let (m, hw) := { m with worker }.halt (.emulation fault) hw
    (m, energy, hw)
  | (none, _) => m.grantTick energy hw

/-- What a tick does once the bus was looked at. -/
def proceed (m : Machine) (energy : EnergySource) (hw : Hardware) :
    Machine × EnergySource × Hardware :=
  match m.runState, m.controller.state with
  | .loading, .ready =>
    let (m, hw) := m.load hw
    (m, energy, hw)
  | .running, .ready =>
    if m.map.isNone then
      let (m, hw) := { m with resume := true }.load hw
      (m, energy, hw)
    else m.step energy hw
  | _, _ => (m, energy, hw)

/-- Looks at the medium of one device, and lists a change. -/
def lookAtMedium (hw : Hardware) (seen : Table DeviceId Bool × List Update) (mapping : Mapping) :
    Table DeviceId Bool × List Update :=
  match (hw.device mapping.device.handle).storage? with
  | none => seen
  | some storage =>
    let id := mapping.device.id
    let present := storage.mediaPresent
    (seen.1.insert id present,
      if seen.1.get? id = some !present then seen.2 ++ [.mediaChanged id present] else seen.2)

/-- Publishes the media that changed. -/
def publishMedia (m : Machine) (hw : Hardware) : Machine :=
  match m.map with
  | none => m
  | some map =>
    let (media, updates) := map.mappings.foldl (lookAtMedium hw) (m.media, [])
    updates.foldl publish { m with media }

/-- One tick of the host. -/
def tick (m : Machine) (energy : EnergySource) (s : Site) : Machine × EnergySource × Site :=
  let (controller, s) := m.controller.poll s
  let m := { m with controller }.setBusState controller.state
  let (m, hw) := m.absorbChanges s.hardware
  let (m, energy, hw) := m.proceed energy hw
  (m.flushTerminal.publishMedia hw, energy, { s with hardware := hw })

/-! ## Suspension -/

/-- Gives up the devices and the bus, to be taken up again by a later tick. -/
def suspend (m : Machine) (s : Site) : Machine × Site :=
  let (m, hw) := m.shutdown s.hardware
  let (m, hw) := m.releaseDevices (m.noteCall .releaseScratch hw)
  let m := if m.runState = .running then { m with resume := true } else m
  let (controller, topology) := m.controller.dispose s.topology
  ({ m with controller }, ⟨topology, hw⟩)

/-- Suspends the machine and discards all of its state. -/
def finalize (m : Machine) (s : Site) : Machine × Site :=
  let (m, s) := m.suspend s
  let hw := m.controller.devices.foldl (fun hw d => hw.finalize d.device.handle) s.hardware
  let (m, hw) := m.resetEmulator hw
  let m := { m with pendingStates := .empty, media := .empty, resume := false }
  (m.resetTerminal.setBootError none |>.setRunState .stopped, { s with hardware := hw })

/-! ## Persistence -/

/-- Adds the state of a device, unless there is one under its name. -/
def saveDevice (saved : Table DeviceId Bytes × Hardware) (d : BusDevice) :
    Table DeviceId Bytes × Hardware :=
  let (states, hw) := saved
  if states.contains d.id then (states, hw)
  else
    match hw.save d.device.handle with
    | (none, hw) => (states, hw)
    | (some state, hw) => (states.insert d.id state, hw)

/-- The record of the machine.  A state that waits for its device counts instead of the state the
device has now. -/
def saveRecord (m : Machine) (hw : Hardware) : Record × Machine × Hardware :=
  let (m, hw) := m.quiesce hw
  let (devices, hw) := m.controller.devices.foldl saveDevice (m.pendingStates, hw)
  ({ elements := m.controller.members
     devices
     runState := UInt8.ofNat m.runState.ordinal
     busState := UInt8.ofNat m.busState.ordinal
     bootError := m.bootError
     terminal := m.terminal.history
     emulation := m.emulator.save }, m, m.noteCall .save hw)

/-- The run state that a record stands for. -/
def recordedRunState (r : Record) : RunState :=
  match RunState.ofOrdinal? r.runState.toNat with
  | none | some .stopping => .stopped
  | some state => state

/-- The bus state that a record stands for. -/
def recordedBusState (r : Record) : BusState :=
  (BusState.ofOrdinal? r.busState.toNat).getD .scanning

/-- Takes over everything of a record but the state of the emulator. -/
def adoptRecord (m : Machine) (r : Record) : Machine :=
  { m with
    busState := recordedBusState r
    bootError := r.bootError
    terminal := m.terminal.restoreHistory r.terminal
    pendingStates := r.devices
    controller := m.controller.restoreMembers r.elements
    runState := recordedRunState r
    resume := recordedRunState r = .running }

/-- What follows if the state of the emulator cannot be restored. -/
def rejectEmulation (m : Machine) (fault : Fault) : Machine :=
  let m := { m with resume := false }
  if m.runState = .running then
    { m with runState := .error, bootError := some (BootError.emulation fault).message }
  else m

/-- Takes a record over.  Observers are not told. -/
def loadRecord (m : Machine) (r : Record) (hw : Hardware) : Machine × Hardware :=
  let (m, hw) := m.cancel hw
  let (m, hw) := m.releaseDevices hw
  let m := m.adoptRecord r
  if r.emulation.isEmpty then (m, hw)
  else
    match m.restoreEmulator r.emulation hw with
    | (.ok (), m, hw) => (m, hw)
    | (.error fault, m, hw) => (m.rejectEmulation fault, hw)

end Machine

end DeviceBus
