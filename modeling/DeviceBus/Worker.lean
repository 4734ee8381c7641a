import DeviceBus.Hardware

/-!
# Workers

A worker runs granted cycles in slices.  Between two slices it looks for a cancellation; the host may
touch what the slices change only while the worker is idle.  What a slice does is a parameter: a
function on a state of its own.
-/

namespace DeviceBus

/-- What a worker is doing. -/
inductive Activity where
  | idle
  /-- It was granted cycles and did not begin. -/
  | granted (cycles : Nat)
  /-- It is inside a slice that has had no effect yet; `left` cycles of the grant are to be run and
  `done` were run. -/
  | busy (left done : Nat)
  deriving DecidableEq, Repr

/-- A worker. -/
structure Worker where
  /-- The longest slice, in cycles. -/
  slice : Nat
  activity : Activity
  /-- Whether grants are accepted. -/
  running : Bool
  /-- Whether there is a thread to be joined, alive or dead. -/
  spawned : Bool
  /-- Cycles executed in all grants that have ended. -/
  executed : Nat
  /-- The latest failure that nobody took. -/
  fault : Option Fault
  deriving DecidableEq, Repr

namespace Worker

/-- A worker that was never started.  A slice is one cycle at least. -/
def new (slice : Nat) : Worker := ⟨max slice 1, .idle, false, false, 0, none⟩

/-- Whether the worker holds no cycles. -/
def isIdle (w : Worker) : Bool := w.activity = .idle

/-- Starts the thread, unless it is running.  The platform may refuse, and say why; a dead thread has been
joined then all the same. -/
def start (w : Worker) (refusal : Option String) : Except String Unit × Worker :=
  if w.running then (.ok (), w)
  else
    match refusal with
    | none => (.ok (), { w with running := true, spawned := true })
    | some reason => (.error reason, { w with spawned := false })

/-- Grants cycles, if the worker is running and idle. -/
def grant (w : Worker) (cycles : Nat) : Bool × Worker :=
  if w.running && w.isIdle && cycles ≠ 0 then (true, { w with activity := .granted cycles })
  else (false, w)

/-- The latest failure, and the worker without it. -/
def takeFault (w : Worker) : Option Fault × Worker := (w.fault, { w with fault := none })

/-! ## Progress -/

/-- Begins a grant. -/
def begin (w : Worker) : Worker :=
  match w.activity with
  | .granted cycles => { w with activity := .busy cycles 0 }
  | _ => w

/-- Ends a grant of which `cycles` were run. -/
def finish (w : Worker) (cycles : Nat) : Worker :=
  { w with activity := .idle, executed := w.executed + cycles }

/-- The failure left by a thread that panicked. -/
def panicFault : Fault := ⟨"emulation worker panicked"⟩

/-- The worker after a slice of `cycles` ended. -/
def afterSlice (w : Worker) (left done cycles : Nat) : SliceEnd → Worker
  | .completed =>
    if left - cycles = 0 then w.finish (done + cycles)
    else { w with activity := .busy (left - cycles) (done + cycles) }
  | .faulted fault => { w.finish done with fault := some fault }
  | .panicked =>
    { w with activity := .idle, running := false, fault := some (w.fault.getD panicFault) }

/-- Runs the slice that the worker is inside of. -/
def runSlice {σ : Type} (run : Nat → σ → SliceEnd × σ) (w : Worker) (s : σ) : Worker × σ :=
  match w.activity with
  | .busy left done =>
    let cycles := min left w.slice
    let (outcome, s) := run cycles s
    (w.afterSlice left done cycles outcome, s)
  | _ => (w, s)

/-- Runs at most so many slices. -/
def runSlices {σ : Type} (run : Nat → σ → SliceEnd × σ) : Nat → Worker → σ → Worker × σ
  | 0, w, s => (w, s)
  | n + 1, w, s =>
    if w.isIdle then (w, s)
    else
      let (w, s) := w.runSlice run s
      runSlices run n w s

/-- How many slices the worker has to run at most until it is idle. -/
def slicesLeft (w : Worker) : Nat :=
  match w.activity with
  | .idle => 0
  | .granted cycles => (cycles + w.slice - 1) / w.slice
  | .busy left _ => (left + w.slice - 1) / w.slice

/-- Begins a grant, if there is one, and runs at most so many slices. -/
def progress {σ : Type} (run : Nat → σ → SliceEnd × σ) (slices : Nat) (w : Worker) (s : σ) :
    Worker × σ :=
  runSlices run slices w.begin s

/-! ## Waiting -/

/-- Waits until everything granted has been run. -/
def quiesce {σ : Type} (run : Nat → σ → SliceEnd × σ) (w : Worker) (s : σ) : Worker × σ :=
  w.progress run w.slicesLeft s

/-- Drops what is left of a grant. -/
def drop (w : Worker) : Worker :=
  match w.activity with
  | .idle => w
  | .granted _ => { w with activity := .idle }
  | .busy _ done => w.finish done

/-- Lets the current slice end and drops the rest of the grant. -/
def stopSlices {σ : Type} (run : Nat → σ → SliceEnd × σ) (w : Worker) (s : σ) : Worker × σ :=
  let (w, s) := w.runSlice run s
  (w.drop, s)

/-- Cancels what was granted, and discards a failure. -/
def cancel {σ : Type} (run : Nat → σ → SliceEnd × σ) (w : Worker) (s : σ) : Worker × σ :=
  let (w, s) := w.stopSlices run s
  (w.takeFault.2, s)

/-- Cancels what was granted and ends the thread, if there is one. -/
def shutdown {σ : Type} (run : Nat → σ → SliceEnd × σ) (w : Worker) (s : σ) : Worker × σ :=
  if w.spawned then
    let (w, s) := w.stopSlices run s
    ({ w with running := false, spawned := false }, s)
  else (w, s)

end Worker

end DeviceBus
