import DeviceBus.Proofs.Readiness
import DeviceBus.View

/-!
# Observers of a terminal

An observer starts from a snapshot and applies the updates that are published from then on.  Output
that was written before the snapshot and not published yet is in the window that the snapshot copies,
and is published once more by the next flush.  So the observer's window is that of the machine exactly
if those bytes make no difference to the window when they are shown twice, or the terminal was reset
since (`World.mirror_iff`); after a snapshot with nothing unpublished the two windows are always equal.
-/

namespace DeviceBus

/-! ## Updates -/

/-- The output that a list of updates tells of. -/
def Update.output : List Update → Bytes
  | [] => []
  | .terminalOutput chunk :: rest => chunk ++ output rest
  | _ :: rest => output rest

theorem Update.output_append (us vs : List Update) : output (us ++ vs) = output us ++ output vs := by
  induction us with
  | nil => rfl
  | cons u us ih =>
    cases u with
    | terminalOutput chunk =>
      show chunk ++ output (us ++ vs) = chunk ++ output us ++ output vs
      rw [ih, List.append_assoc]
    | _ => exact ih

namespace RemoteView

theorem applyAll_append (v : RemoteView) (us vs : List Update) :
    v.applyAll (us ++ vs) = (v.applyAll us).applyAll vs := List.foldl_append

theorem apply_config (v : RemoteView) (u : Update) :
    (v.apply u).terminal.config = v.terminal.config := by
  cases u <;> rfl

theorem applyAll_config (v : RemoteView) (us : List Update) :
    (v.applyAll us).terminal.config = v.terminal.config := by
  induction us generalizing v with
  | nil => rfl
  | cons u us ih => exact (ih (v.apply u)).trans (v.apply_config u)

/-- The window of an observer. -/
def window (v : RemoteView) : Bytes := v.terminal.history

/-- How large the window of an observer is. -/
def capacity (v : RemoteView) : Nat := v.terminal.config.historyCapacity.toNat

end RemoteView

/-! ## What an observer sees -/

/-- What becomes of the terminal and of an observer while the updates `us` are published: `shown` is
what the observer saw at first, `output` and `pending` the window and the unpublished output of the
terminal then. -/
structure Mirrors (capacity : Nat) (shown window pending : Bytes) (us : List Update) (seen : Bytes)
    (t : Terminal) : Prop where
  fits : seen.length ≤ capacity
  /-- After a reset the observer lacks what was not published yet, and nothing else. -/
  reset : .terminalReset ∈ us → t.history = Bytes.lastN capacity (seen ++ t.pending)
  /-- Without one the observer is shown the unpublished output once more. -/
  kept : .terminalReset ∉ us → ∃ later, Update.output us ++ t.pending = pending ++ later ∧
    t.history = Bytes.lastN capacity (window ++ later) ∧
    seen = Bytes.lastN capacity (shown ++ Update.output us)

namespace Mirrors

variable {capacity : Nat} {shown window pending seen : Bytes} {us : List Update} {t : Terminal}

theorem nil {t : Terminal} (hshown : shown.length ≤ capacity) (hwindow : t.history.length ≤ capacity) :
    Mirrors capacity shown t.history t.pending [] shown t := by
  refine ⟨hshown, fun hmem => absurd hmem List.not_mem_nil, fun _ => ⟨[], ?_, ?_, ?_⟩⟩
  · rw [List.append_nil]
    rfl
  · rw [List.append_nil, Bytes.lastN_of_length_le hwindow]
  · show shown = Bytes.lastN capacity (shown ++ [])
    rw [List.append_nil, Bytes.lastN_of_length_le hshown]

/-- An update that is about something else. -/
theorem snoc_other (h : Mirrors capacity shown window pending us seen t) {u : Update}
    (houtput : Update.output [u] = []) (hreset : u ≠ .terminalReset) :
    Mirrors capacity shown window pending (us ++ [u]) seen t := by
  have hmem : .terminalReset ∈ us ++ [u] ↔ .terminalReset ∈ us := by
    simp [Ne.symm hreset]
  refine ⟨h.fits, ?_, ?_⟩
  · rw [hmem]
    exact h.reset
  · rw [hmem, Update.output_append, houtput, List.append_nil]
    exact h.kept

/-- More output is written. -/
theorem write (h : Mirrors capacity shown window pending us seen t)
    (hcapacity : t.config.historyCapacity.toNat = capacity) (data : Bytes) :
    Mirrors capacity shown window pending us seen (t.write data).2 := by
  have hhistory : (t.write data).2.history =
      Bytes.lastN capacity (t.history ++ data.take t.outputRoom) := by
    rw [← hcapacity]
    rfl
  have hpending : (t.write data).2.pending = t.pending ++ data.take t.outputRoom := rfl
  refine ⟨h.fits, ?_, ?_⟩
  · intro hmem
    rw [hhistory, hpending, h.reset hmem, Bytes.lastN_lastN_append, List.append_assoc]
  · intro hmem
    obtain ⟨later, hlater, hwindow, hseen⟩ := h.kept hmem
    refine ⟨later ++ data.take t.outputRoom, ?_, ?_, hseen⟩
    · rw [hpending, ← List.append_assoc, hlater, List.append_assoc]
    · rw [hhistory, hwindow, Bytes.lastN_lastN_append, List.append_assoc]

/-- The unpublished output is published. -/
theorem flush (h : Mirrors capacity shown window pending us seen t) :
    Mirrors capacity shown window pending (us ++ [.terminalOutput t.pending])
      (Bytes.lastN capacity (seen ++ t.pending)) { t with pending := [] } := by
  have hmem : .terminalReset ∈ us ++ [.terminalOutput t.pending] ↔ .terminalReset ∈ us := by simp
  have houtput : Update.output (us ++ [.terminalOutput t.pending]) = Update.output us ++ t.pending := by
    rw [Update.output_append]
    show Update.output us ++ (t.pending ++ []) = _
    rw [List.append_nil]
  refine ⟨?_, ?_, ?_⟩
  · rw [Bytes.length_lastN]
    exact Nat.min_le_left _ _
  · rw [hmem]
    intro hreset
    show t.history = Bytes.lastN capacity (Bytes.lastN capacity (seen ++ t.pending) ++ [])
    rw [Bytes.lastN_lastN_append, List.append_nil]
    exact h.reset hreset
  · rw [hmem, houtput]
    intro hreset
    obtain ⟨later, hlater, hwindow, hseen⟩ := h.kept hreset
    refine ⟨later, ?_, hwindow, ?_⟩
    · show Update.output us ++ t.pending ++ [] = _
      rw [List.append_nil, hlater]
    · rw [hseen, Bytes.lastN_lastN_append, List.append_assoc]

/-- Both windows are emptied. -/
theorem snoc_reset : Mirrors capacity shown window pending (us ++ [.terminalReset]) [] t.reset := by
  have hmem : .terminalReset ∈ us ++ [.terminalReset] :=
    List.mem_append_right _ (List.mem_singleton_self _)
  refine ⟨Nat.zero_le _, fun _ => ?_, fun hnone => absurd hmem hnone⟩
  show [] = Bytes.lastN capacity ([] ++ [])
  rw [Bytes.lastN_of_length_le (Nat.zero_le _)]
  rfl

end Mirrors

/-- An observer of the outlook follows the terminal through all that is published. -/
theorem Outlook.Reports.mirrors {o p : Outlook} {us : List Update} (h : o.Reports us p)
    {v : RemoteView} (hconfig : v.terminal.config = o.terminal.config)
    (hshown : v.window.length ≤ v.capacity) (hwindow : o.terminal.history.length ≤ v.capacity) :
    Mirrors v.capacity v.window o.terminal.history o.terminal.pending us (v.applyAll us).window
      p.terminal := by
  induction h with
  | refl => exact .nil hshown hwindow
  | runState state _ _ ih =>
    rw [RemoteView.applyAll_append]
    exact ih.snoc_other rfl (by simp)
  | busState state _ _ ih =>
    rw [RemoteView.applyAll_append]
    exact ih.snoc_other rfl (by simp)
  | bootError error _ _ ih =>
    rw [RemoteView.applyAll_append]
    exact ih.snoc_other rfl (by simp)
  | media device present _ ih =>
    rw [RemoteView.applyAll_append]
    exact ih.snoc_other rfl (by simp)
  | write data hreports ih =>
    refine ih.write ?_ data
    rw [hreports.terminal_config, ← hconfig]
    rfl
  | input staged input displayOnly _ ih => exact ⟨ih.fits, ih.reset, ih.kept⟩
  | @flush us p _ _ ih =>
    rw [RemoteView.applyAll_append]
    have hcapacity : (v.applyAll us).terminal.config = v.terminal.config := v.applyAll_config us
    have hseen : ((v.applyAll us).applyAll [.terminalOutput p.terminal.pending]).window =
        Bytes.lastN v.capacity ((v.applyAll us).window ++ p.terminal.pending) := by
      unfold RemoteView.capacity
      rw [← hcapacity]
      rfl
    rw [hseen]
    exact ih.flush
  | reset _ ih =>
    rw [RemoteView.applyAll_append]
    exact .snoc_reset

/-- Once nothing is unpublished, an observer's window is the terminal's exactly if the terminal was
reset, or the output that was unpublished at first makes no difference when it is shown twice. -/
theorem Outlook.Reports.window_iff {o p : Outlook} {us : List Update} (h : o.Reports us p)
    {v : RemoteView} (hconfig : v.terminal.config = o.terminal.config)
    (hshown : v.window = o.terminal.history) (hwindow : o.terminal.history.length ≤ v.capacity)
    (hpending : p.terminal.pending = []) :
    (v.applyAll us).window = p.terminal.history ↔
      .terminalReset ∈ us ∨
        Bytes.lastN v.capacity (o.terminal.history ++ Update.output us) =
          Bytes.lastN v.capacity
            (o.terminal.history ++ (Update.output us).drop o.terminal.pending.length) := by
  have hmirrors := h.mirrors hconfig (by rw [hshown]; exact hwindow) hwindow
  by_cases hmem : .terminalReset ∈ us
  · have hequal : (v.applyAll us).window = p.terminal.history := by
      rw [hmirrors.reset hmem, hpending, List.append_nil, Bytes.lastN_of_length_le hmirrors.fits]
    exact ⟨fun _ => .inl hmem, fun _ => hequal⟩
  · obtain ⟨later, hlater, hhistory, hseen⟩ := hmirrors.kept hmem
    rw [hpending, List.append_nil] at hlater
    have hdrop : (Update.output us).drop o.terminal.pending.length = later := by
      rw [hlater, List.drop_left]
    rw [hdrop, hhistory, hseen, hshown]
    exact ⟨.inr, fun hor => hor.resolve_left hmem⟩

/-! ## Terminals of machines -/

namespace Terminal

/-- A terminal of the given sizes whose window is no larger than it may be. -/
structure Fits (sizes : TerminalConfig) (t : Terminal) : Prop where
  config : t.config = sizes
  history : t.history.length ≤ sizes.historyCapacity.toNat

variable {sizes : TerminalConfig} {t : Terminal}

theorem Fits.same {t' : Terminal} (h : t.Fits sizes) (hconfig : t'.config = t.config)
    (hhistory : t'.history = t.history) : t'.Fits sizes :=
  ⟨hconfig.trans h.config, by rw [hhistory]; exact h.history⟩

/-- Whatever is added to a window, it keeps its size. -/
theorem Fits.extend {t' : Terminal} (h : t.Fits sizes) (hconfig : t'.config = t.config)
    {history chunk : Bytes}
    (hhistory : t'.history = extendHistory t.config.historyCapacity.toNat history chunk) :
    t'.Fits sizes := by
  refine ⟨hconfig.trans h.config, ?_⟩
  rw [hhistory, h.config]
  unfold extendHistory
  rw [Bytes.length_lastN]
  exact Nat.min_le_left _ _

theorem Fits.reset (h : t.Fits sizes) : t.reset.Fits sizes := ⟨h.config, Nat.zero_le _⟩

theorem fits_new (sizes : TerminalConfig) : (new sizes).Fits sizes := ⟨rfl, Nat.zero_le _⟩

theorem Fits.perform (h : t.Fits sizes) (call : Call) : (t.perform call).2.Fits sizes := by
  cases call with
  | write data => exact h.extend rfl rfl
  | applyOutput chunk => exact h.extend rfl rfl
  | restoreHistory data => exact h.extend rfl rfl
  | reset => exact h.reset
  | deliverInput => exact h.same rfl rfl
  | setDisplayOnly value => exact h.same rfl rfl
  | sendInput data =>
    show (t.sendInput data).2.Fits sizes
    unfold sendInput
    split <;> exact h.same rfl rfl
  | readInput =>
    show t.readInput.2.Fits sizes
    unfold readInput
    split <;> exact h.same rfl rfl
  | takeOutput =>
    show t.takeOutput.2.Fits sizes
    unfold takeOutput
    split <;> exact h.same rfl rfl

end Terminal

theorem Outlook.Reports.fits {sizes : TerminalConfig} {o p : Outlook} {us : List Update}
    (h : o.Reports us p) (ho : o.terminal.Fits sizes) : p.terminal.Fits sizes := by
  induction h with
  | refl => exact ho
  | write data _ ih => exact ih.extend rfl rfl
  | input staged input displayOnly _ ih => exact ih.same rfl rfl
  | flush _ _ ih => exact ih.same rfl rfl
  | reset _ ih => exact ih.reset
  | _ => assumption

/-- Whether a call leaves it to the machine to publish and to empty its output. -/
def Terminal.Call.leavesOutput : Terminal.Call → Bool
  | .takeOutput => false
  | .applyOutput _ => false
  | .restoreHistory _ => false
  | .reset => false
  | _ => true

/-- Whether observers are told of all that an operation does to the output: taking over a record is
not published, and neither is what others than the machine do to the output. -/
def MachineOp.tells : MachineOp → Bool
  | .loadRecord _ => false
  | .terminal call => call.leavesOutput
  | _ => true

theorem Terminal.perform_serves (t : Terminal) {call : Terminal.Call} (h : call.leavesOutput = true) :
    t.Serves (t.perform call).2 := by
  cases call with
  | write data => exact t.write_serves data
  | deliverInput => exact t.deliverInput_serves
  | setDisplayOnly value => exact t.input_serves t.staged t.input value
  | sendInput data =>
    show t.Serves (t.sendInput data).2
    unfold sendInput
    split
    · exact .refl t
    · exact t.input_serves _ t.input t.displayOnly
  | readInput =>
    show t.Serves t.readInput.2
    unfold readInput
    split
    · exact .refl t
    · next b rest _ => exact t.input_serves t.staged rest t.displayOnly
  | _ => cases h

theorem Machine.loadRecord_fits {sizes : TerminalConfig} {m : Machine} (h : m.terminal.Fits sizes)
    (r : Record) (hw : Hardware) : (m.loadRecord r hw).1.terminal.Fits sizes := by
  have hcancel := (m.cancel_acts hw).outside
  unfold loadRecord
  generalize m.cancel hw = p at hcancel
  obtain ⟨m', hw'⟩ := p
  obtain ⟨us, hreports, -⟩ := (hcancel.trans (m'.releaseDevices_acts hw')).relays.speaks
  dsimp only
  generalize m'.releaseDevices hw' = p at hreports
  obtain ⟨m'', hw''⟩ := p
  have hadopt : (m''.adoptRecord r).terminal.Fits sizes :=
    (hreports.fits h).extend rfl rfl
  have hrestore : ((m''.adoptRecord r).restoreEmulator r.emulation hw'').2.1.terminal.Fits sizes := by
    unfold restoreEmulator
    split <;> exact hadopt
  dsimp only
  split
  · exact hadopt
  · split
    · next he => rwa [he] at hrestore
    · next fault m₃ hw₃ he =>
      rw [he] at hrestore
      unfold rejectEmulation
      dsimp only
      split <;> exact hrestore

namespace Station

/-- Observers hear of all that an operation does, apart from the operations that do not tell. -/
theorem step_speaks (station : Station) (s : Site) {op : MachineOp} (htells : op.tells = true)
    (hdrain : op ≠ .drainUpdates) : station.machine.Speaks (station.step s op).2.1.machine := by
  cases op with
  | start => exact (station.machine.start_acts s.hardware).relays.speaks
  | stop => exact (station.machine.stop_acts s.hardware).relays.speaks
  | tick =>
    exact (station.machine.look_speaks s).trans (station.machine.tick_acts station.energy s).relays.speaks
  | advance slices => exact (station.machine.advance_acts slices s.hardware).relays.speaks
  | quiesce => exact (station.machine.quiesce_acts s.hardware).relays.speaks
  | suspend => exact station.machine.suspend_speaks s
  | finalize =>
    exact (station.machine.suspend_speaks s).trans (station.machine.finalize_acts s).relays.speaks
  | readMemory address count =>
    exact (readMemory_acts station.machine address count s.hardware).relays.speaks
  | writeMemory address data =>
    exact (writeMemory_acts station.machine address data s.hardware).relays.speaks
  | saveRecord => exact (station.machine.saveRecord_acts s.hardware).relays.speaks
  | terminal call =>
    have hrelays : station.machine.Relays
        { station.machine with terminal := (station.machine.terminal.perform call).2 } :=
      Machine.relays_of_serves rfl rfl rfl rfl rfl rfl rfl
        (station.machine.terminal.perform_serves htells)
    exact hrelays.speaks
  | loadRecord r => cases htells
  | drainUpdates => exact absurd rfl hdrain
  | scheduleScan => exact ⟨[], .refl, rfl⟩
  | recharge amount simulate => exact ⟨[], .refl, rfl⟩
  | script change => exact ⟨[], .refl, rfl⟩
  | platform platform => exact ⟨[], .refl, rfl⟩

/-- The window of a machine's terminal never outgrows its size. -/
theorem step_fits {station : Station} (s : Site) (op : MachineOp)
    (h : station.machine.terminal.Fits station.machine.config.terminal) :
    (station.step s op).2.1.machine.terminal.Fits
      (station.step s op).2.1.machine.config.terminal := by
  rw [step_config]
  have hspeaks {m' : Machine} (hs : station.machine.Speaks m') :
      m'.terminal.Fits station.machine.config.terminal := by
    obtain ⟨us, hreports, -⟩ := hs
    exact hreports.fits h
  cases op with
  | loadRecord r => exact station.machine.loadRecord_fits h r s.hardware
  | drainUpdates => exact h
  | terminal call => exact h.perform call
  | _ => exact hspeaks (station.step_speaks s rfl (by simp))

end Station

/-! ## Runs -/

/-- The updates that wait to be drained. -/
def Sink.waiting : Sink → List Update
  | .queue waiting => waiting
  | .discard => []

theorem Sink.foldl_publish_queue (waiting us : List Update) :
    us.foldl Sink.publish (.queue waiting) = .queue (waiting ++ us) := by
  induction us generalizing waiting with
  | nil => exact congrArg Sink.queue (List.append_nil _).symm
  | cons u us ih =>
    show us.foldl Sink.publish (.queue (waiting ++ [u])) = _
    rw [ih, List.append_assoc]
    rfl

/-- Whether an operation leaves it to the machine at a position to publish and to empty its output,
and takes over no record. -/
def Op.tells (i : Nat) : Op → Bool
  | .machine j op => j ≠ i || op.tells
  | _ => true

namespace World

/-- The updates that wait in the queue of a machine. -/
def waiting (w : World) (i : Nat) : List Update :=
  (w.machine? i).elim [] fun m => m.sink.waiting

/-- The updates that a machine publishes in an operation: those that come to wait in its queue. -/
def published (w : World) (i : Nat) (op : Op) : List Update :=
  ((w.step op).2.waiting i).drop (w.waiting i).length

/-- The updates that a machine publishes in a run. -/
def updates (w : World) (i : Nat) : List Op → List Update
  | [] => []
  | op :: ops => w.published i op ++ (w.step op).2.updates i ops

/-- The window of every machine's terminal keeps its size in every run. -/
theorem run_fits (ops : List Op) {i : Nat} {m : Machine} (hm : (empty.run ops).machine? i = some m) :
    m.terminal.Fits m.config.terminal := by
  refine machine_induction (I := fun _ m => m.terminal.Fits m.config.terminal) ?_ ?_ ops hm
  · intro i root emulator config sink t
    exact Terminal.fits_new config.terminal
  · intro i station s op h
    exact Station.step_fits s op h

/-- What comes to wait in a queue was published. -/
theorem published_eq {w : World} {i : Nat} {m m' : Machine} {op : Op} {waiting us : List Update}
    (hm : w.machine? i = some m) (hsink : m.sink = .queue waiting)
    (hm' : (w.step op).2.machine? i = some m') (hsink' : m'.sink = us.foldl Sink.publish m.sink) :
    w.published i op = us := by
  rw [hsink, Sink.foldl_publish_queue] at hsink'
  have hbefore : w.waiting i = waiting := by
    unfold World.waiting
    rw [hm, Option.elim_some, hsink]
    rfl
  have hafter : (w.step op).2.waiting i = waiting ++ us := by
    unfold World.waiting
    rw [hm', Option.elim_some, hsink']
    rfl
  unfold published
  rw [hbefore, hafter, List.drop_left]

/-- Emptying a queue publishes nothing. -/
theorem published_drain {w : World} {i : Nat} {station : Station} {waiting : List Update}
    (hs : w.stations[i]? = some station) (hsink : station.machine.sink = .queue waiting) :
    (station.step w.site .drainUpdates).2.1.machine.sink = .queue [] ∧
      w.published i (.machine i .drainUpdates) = [] := by
  have hempty : (station.step w.site .drainUpdates).2.1.machine.sink = .queue [] := by
    show station.machine.sink.drain.2 = _
    rw [hsink]
    rfl
  refine ⟨hempty, ?_⟩
  unfold published World.waiting
  rw [machine?_of_station (step_machine? hs .drainUpdates), Option.elim_some, hempty]
  exact List.drop_nil

/-- What a machine with a queue publishes in an operation is what changes of its outlook. -/
theorem step_reports {w : World} {i : Nat} {m : Machine} {waiting : List Update}
    (hm : w.machine? i = some m) (hsink : m.sink = .queue waiting) {op : Op}
    (hop : op.tells i = true) : ∃ m' waiting', (w.step op).2.machine? i = some m' ∧
      m.outlook.Reports (w.published i op) m'.outlook ∧ m'.sink = .queue waiting' := by
  obtain ⟨station, hs, rfl⟩ := machine?_eq_some hm
  obtain ⟨station', hs', hcases⟩ := step_station hs op
  have hm' := machine?_of_station hs'
  have hspeaks (h : station.machine.Speaks station'.machine) :
      ∃ waiting', station.machine.outlook.Reports (w.published i op) station'.machine.outlook ∧
        station'.machine.sink = .queue waiting' := by
    obtain ⟨us, hreports, hus⟩ := h
    rw [published_eq hm hsink hm' hus]
    rw [hsink, Sink.foldl_publish_queue] at hus
    exact ⟨waiting ++ us, hreports, hus⟩
  refine ⟨station'.machine, ?_⟩
  rcases hcases with rfl | rfl | ⟨mop, rfl, rfl⟩
  · obtain ⟨waiting', h⟩ := hspeaks (.refl _)
    exact ⟨waiting', hm', h⟩
  · obtain ⟨waiting', h⟩ := hspeaks (station.step_speaks w.site rfl (by simp))
    exact ⟨waiting', hm', h⟩
  · by_cases hdrain : mop = .drainUpdates
    · subst hdrain
      obtain ⟨hempty, hnone⟩ := published_drain hs hsink
      refine ⟨[], hm', ?_, hempty⟩
      rw [hnone]
      exact .refl
    · have htells : mop.tells = true := by simpa [Op.tells] using hop
      obtain ⟨waiting', h⟩ := hspeaks (station.step_speaks w.site htells hdrain)
      exact ⟨waiting', hm', h⟩

/-- What a machine with a queue publishes in a run is what changes of its outlook. -/
theorem run_reports {w : World} {i : Nat} {m m' : Machine} {waiting : List Update} {ops : List Op}
    (hm : w.machine? i = some m) (hsink : m.sink = .queue waiting)
    (hops : ∀ op ∈ ops, op.tells i = true) (hm' : (w.run ops).machine? i = some m') :
    m.outlook.Reports (w.updates i ops) m'.outlook := by
  induction ops generalizing w m waiting with
  | nil =>
    rw [run_nil, hm] at hm'
    cases hm'
    exact .refl
  | cons op ops ih =>
    obtain ⟨m'', waiting', hm'', hreports, hsink''⟩ :=
      step_reports hm hsink (hops op List.mem_cons_self)
    exact hreports.trans (ih hm'' hsink'' (fun op hop => hops op (List.mem_cons_of_mem _ hop)) hm')

/-- An observer that starts from a snapshot and applies every update published since sees, whenever
nothing is unpublished, the window of the machine's terminal exactly if the terminal was reset since,
or the output that was unpublished in the snapshot makes no difference when it is shown twice.  It
makes none if there was none. -/
theorem mirror_iff {pre post : List Op} {i : Nat} {m m' : Machine} {waiting : List Update}
    (hm : (empty.run pre).machine? i = some m) (hsink : m.sink = .queue waiting)
    (hpost : ∀ op ∈ post, op.tells i = true)
    (hm' : (empty.run (pre ++ post)).machine? i = some m') (hpending : m'.terminal.pending = []) :
    let us := (empty.run pre).updates i post
    let seen := ((RemoteView.ofSnapshot m.snapshot m.config.terminal).applyAll us).terminal.history
    let visible := Bytes.lastN m.config.terminal.historyCapacity.toNat
    (seen = m'.terminal.history ↔ .terminalReset ∈ us ∨
      visible (m.terminal.history ++ Update.output us) =
        visible (m.terminal.history ++ (Update.output us).drop m.terminal.pending.length)) ∧
      (m.terminal.pending = [] → seen = m'.terminal.history) := by
  intro us seen visible
  have hfits := run_fits pre hm
  rw [run_append] at hm'
  have hreports := run_reports hm hsink hpost hm'
  have hshown : (RemoteView.ofSnapshot m.snapshot m.config.terminal).window = m.terminal.history := by
    exact Bytes.lastN_of_length_le hfits.history
  have hiff := hreports.window_iff (v := .ofSnapshot m.snapshot m.config.terminal) hfits.config.symm
    hshown hfits.history hpending
  refine ⟨hiff, fun hnone => hiff.2 (.inr ?_)⟩
  rw [show m.outlook.terminal.pending = [] from hnone]
  rfl

/-- An observer that starts before the machine wrote anything sees what the machine writes. -/
theorem byte_shown_once :
    let pre : List Op := [.topology (.insert ⟨1⟩ [] []),
      .newMachine ⟨1⟩ (.scripted { output := [65] }) { cyclesPerTick := 1 } (.queue []) .unmetered,
      .machine 0 .start, .machine 0 .tick, .machine 0 .tick]
    let post : List Op := [.machine 0 (.advance 1), .machine 0 .tick]
    ∃ m m', (empty.run pre).machine? 0 = some m ∧ (empty.run (pre ++ post)).machine? 0 = some m' ∧
      m'.terminal.history = [65] ∧
      ((RemoteView.ofSnapshot m.snapshot m.config.terminal).applyAll
        ((empty.run pre).updates 0 post)).terminal.history = m'.terminal.history :=
  ⟨_, _, rfl, rfl, by decide, (mirror_iff rfl rfl (by decide) rfl (by decide)).2 (by decide)⟩

/-- An observer that starts to track the machine while a byte waits to be published is shown the byte
twice. -/
theorem byte_shown_twice :
    let pre : List Op := [.topology (.insert ⟨1⟩ [] []),
      .newMachine ⟨1⟩ (.scripted { output := [65] }) { cyclesPerTick := 1 } (.queue []) .unmetered,
      .machine 0 .start, .machine 0 .tick, .machine 0 .tick, .machine 0 (.advance 1)]
    let post : List Op := [.machine 0 .tick]
    ∃ m m', (empty.run pre).machine? 0 = some m ∧ (empty.run (pre ++ post)).machine? 0 = some m' ∧
      m'.terminal.pending = [] ∧ m'.terminal.history = [65] ∧
      ((RemoteView.ofSnapshot m.snapshot m.config.terminal).applyAll
        ((empty.run pre).updates 0 post)).terminal.history = [65, 65] :=
  ⟨_, _, rfl, rfl, by decide, by decide, by decide⟩

end World

end DeviceBus
