import DeviceBus.Message
import DeviceBus.Terminal

/-!
# Remote views

What an observer knows of a machine: a snapshot with every later update applied.
-/

namespace DeviceBus

/-- An observer's picture of a machine. -/
structure RemoteView where
  runState : RunState
  busState : BusState
  bootError : Option String
  /-- The terminal as far as the observer sees it.  It accepts no input. -/
  terminal : Terminal
  /-- Whether a medium was last reported in a device. -/
  media : Table DeviceId Bool

namespace RemoteView

/-- The picture of a machine of which nothing is known. -/
def new (config : TerminalConfig) : RemoteView where
  runState := .stopped
  busState := .scanning
  bootError := none
  terminal := .onlooker config
  media := .empty

/-- The picture that a snapshot gives. -/
def ofSnapshot (s : Snapshot) (config : TerminalConfig) : RemoteView where
  runState := s.runState
  busState := s.busState
  bootError := s.bootError
  terminal := (Terminal.onlooker config).restoreHistory s.terminal
  media := .empty

/-- The picture after one update. -/
def apply (v : RemoteView) : Update → RemoteView
  | .busState state => { v with busState := state }
  | .runState state => { v with runState := state }
  | .bootError error => { v with bootError := error }
  | .terminalOutput chunk => { v with terminal := v.terminal.applyOutput chunk }
  | .terminalReset => { v with terminal := v.terminal.reset }
  | .mediaChanged device present => { v with media := v.media.insert device present }

/-- The picture after a list of updates. -/
def applyAll (v : RemoteView) (updates : List Update) : RemoteView := updates.foldl apply v

/-- Whether a medium was last reported in a device; nothing if there was no report. -/
def mediaPresent? (v : RemoteView) (device : DeviceId) : Option Bool := v.media.get? device

end RemoteView

end DeviceBus
