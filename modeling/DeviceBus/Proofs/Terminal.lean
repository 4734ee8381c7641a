import DeviceBus.Terminal
import Mathlib.Data.List.DropRight
import Mathlib.Order.Bounds.Basic

/-!
# Streams of a terminal

A terminal is told by the calls that were made on it and by their replies (`Terminal.log`): which bytes
were accepted, taken, shown, sent and read.  Since the last reset no byte of either stream is lost, doubled
or out of order, whatever the sizes of the buffers:

    taken ++ pending        = written                                 (output_kept)
    read ++ input ++ staged = sent                                    (input_kept)

Input that was read was delivered, and sent before that delivery.  The visible window is the end of what it
was set to last and everything shown since, however long the chunks are; it is kept as a queue, which lets
bytes go in front as others enter behind (`pushHistory_eq`).
-/

namespace DeviceBus

namespace Terminal

/-! ## The window as a queue -/

/-- A queue of at most `capacity` bytes takes a chunk: only the end of the chunk that fits is entered, and so
many bytes are let go in front as are too many then. -/
def pushHistory (capacity : Nat) (history chunk : Bytes) : Bytes :=
  let kept := chunk.drop (chunk.length - capacity)
  let overflow := history.length + kept.length - capacity
  history.drop (min overflow history.length) ++ kept

theorem pushHistory_eq (capacity : Nat) (history chunk : Bytes) :
    pushHistory capacity history chunk = extendHistory capacity history chunk := by
  unfold pushHistory extendHistory Bytes.lastN
  simp only [List.length_drop, List.length_append, List.drop_append]
  by_cases hchunk : chunk.length ≤ capacity
  · have hkept : chunk.length - capacity = 0 := by omega
    have hover : min (history.length + (chunk.length - 0) - capacity) history.length =
        history.length + chunk.length - capacity := by omega
    have hbehind : history.length + chunk.length - capacity - history.length = 0 := by omega
    rw [hkept, hover, hbehind]
  · -- the chunk alone fills the window
    have hover : min (history.length + (chunk.length - (chunk.length - capacity)) - capacity)
        history.length = history.length := by omega
    have hbehind : history.length + chunk.length - capacity - history.length =
        chunk.length - capacity := by omega
    have hgone : history.drop (history.length + chunk.length - capacity) = [] :=
      List.drop_eq_nil_of_le (by omega)
    rw [hover, hbehind, hgone, List.drop_length]

example : pushHistory 4 [1, 2, 3] [4, 5] = [2, 3, 4, 5] := by decide

/-! ## Runs -/

/-- A call and the reply to it. -/
structure Exchange where
  call : Call
  reply : Reply
  deriving DecidableEq, Repr

/-- The terminal after a list of calls. -/
def run (t : Terminal) (calls : List Call) : Terminal := calls.foldl (fun t c => (t.perform c).2) t

/-- The calls with their replies. -/
def log (t : Terminal) : List Call → List Exchange
  | [] => []
  | c :: cs => ⟨c, (t.perform c).1⟩ :: log (t.perform c).2 cs

theorem run_snoc (t : Terminal) (cs : List Call) (c : Call) :
    t.run (cs ++ [c]) = ((t.run cs).perform c).2 := by
  simp [run]

theorem log_snoc (t : Terminal) (cs : List Call) (c : Call) :
    t.log (cs ++ [c]) = t.log cs ++ [⟨c, ((t.run cs).perform c).1⟩] := by
  induction cs generalizing t with
  | nil => rfl
  | cons d cs ih => simp [log, run, ih]

namespace Exchange

/-- The output that was accepted. -/
def written : Exchange → Bytes
  | ⟨.write data, .accepted n⟩ => data.take n
  | _ => []

/-- The output that was taken. -/
def taken : Exchange → Bytes
  | ⟨.takeOutput, .chunk (some data)⟩ => data
  | _ => []

/-- What entered the visible window behind what was there. -/
def shown : Exchange → Bytes
  | ⟨.write data, .accepted n⟩ => data.take n
  | ⟨.applyOutput chunk, _⟩ => chunk
  | _ => []

/-- What the visible window was replaced by. -/
def restored : Exchange → Bytes
  | ⟨.restoreHistory data, _⟩ => data
  | _ => []

/-- The input that was accepted. -/
def sent : Exchange → Bytes
  | ⟨.sendInput data, .accepted n⟩ => data.take n
  | _ => []

/-- The input that was read. -/
def read : Exchange → Bytes
  | ⟨.readInput, .byte (some b)⟩ => [b]
  | _ => []

/-- Whether the buffers were emptied. -/
def isReset : Exchange → Bool
  | ⟨.reset, _⟩ => true
  | _ => false

/-- Whether the visible window was replaced, or emptied with all the buffers. -/
def setsWindow : Exchange → Bool
  | ⟨.reset, _⟩ | ⟨.restoreHistory _, _⟩ => true
  | _ => false

/-- Whether the staged input was delivered. -/
def isDelivery : Exchange → Bool
  | ⟨.deliverInput, _⟩ => true
  | _ => false

/-- Whether the terminal was made display-only, or accepting again. -/
def display? : Exchange → Option Bool
  | ⟨.setDisplayOnly value, _⟩ => some value
  | _ => none

end Exchange

/-- The exchanges after the last of a kind. -/
def since (last : Exchange → Bool) (log : List Exchange) : List Exchange := log.rtakeWhile fun e => !last e

/-- The exchanges up to the last of a kind. -/
def upTo (last : Exchange → Bool) (log : List Exchange) : List Exchange := log.rdropWhile fun e => !last e

/-- The exchanges since the last reset. -/
def session (log : List Exchange) : List Exchange := since Exchange.isReset log

/-- What the visible window shows the end of: the content it was set to last, and what was shown since. -/
def content (log : List Exchange) : Bytes :=
  ((log.reverse.find? Exchange.setsWindow).elim [] Exchange.restored) ++
    (since Exchange.setsWindow log).flatMap Exchange.shown

/-- Whether the terminal was last made display-only. -/
def display (log : List Exchange) : Bool := (log.filterMap Exchange.display?).getLast?.getD false

section Since

variable {last : Exchange → Bool} {log : List Exchange} {e : Exchange}

theorem since_snoc_last (h : last e = true) : since last (log ++ [e]) = [] :=
  List.rtakeWhile_concat_neg _ _ _ (by simp [h])

theorem since_snoc (h : last e = false) : since last (log ++ [e]) = since last log ++ [e] :=
  List.rtakeWhile_concat_pos _ _ _ (by simp [h])

theorem upTo_snoc_last (h : last e = true) : upTo last (log ++ [e]) = log ++ [e] :=
  List.rdropWhile_concat_neg _ _ _ (by simp [h])

theorem upTo_snoc (h : last e = false) : upTo last (log ++ [e]) = upTo last log :=
  List.rdropWhile_concat_pos _ _ _ (by simp [h])

theorem upTo_append_since (last : Exchange → Bool) (log : List Exchange) :
    upTo last log ++ since last log = log := List.rdropWhile_append_rtakeWhile

theorem session_snoc (h : e.isReset = false) : session (log ++ [e]) = session log ++ [e] := since_snoc h

theorem session_snoc_reset (h : e.isReset = true) : session (log ++ [e]) = [] := since_snoc_last h

theorem content_snoc_last (h : e.setsWindow = true) : content (log ++ [e]) = e.restored := by
  simp [content, since_snoc_last h, h]

theorem content_snoc (h : e.setsWindow = false) : content (log ++ [e]) = content log ++ e.shown := by
  simp [content, since_snoc h, h]

theorem display_snoc_of_some {value : Bool} (h : e.display? = some value) :
    display (log ++ [e]) = value := by
  simp [display, List.filterMap_append, h]

theorem display_snoc_of_none (h : e.display? = none) : display (log ++ [e]) = display log := by
  simp [display, List.filterMap_append, h]

end Since

/-- As much as fits is the longest part of the data that does. -/
theorem isGreatest_length_take (data : Bytes) {used capacity : Nat} (h : used ≤ capacity) :
    IsGreatest { n | n ≤ data.length ∧ used + n ≤ capacity } (data.take (capacity - used)).length := by
  rw [List.length_take]
  constructor
  · show _ ≤ _ ∧ _ ≤ _
    omega
  · rintro n ⟨hn, hfits⟩
    omega

theorem take_length_take (data : Bytes) (n : Nat) : data.take (data.take n).length = data.take n := by
  rw [List.length_take, List.take_eq_take_iff]
  omega

/-! ## Output -/

variable {config : TerminalConfig} {log : List Exchange} {t t' : Terminal} {e : Exchange}

/-- The output side of a terminal, told by the exchanges that led to it. -/
structure Prints (config : TerminalConfig) (log : List Exchange) (t : Terminal) : Prop where
  config_eq : t.config = config
  stream : (session log).flatMap Exchange.taken ++ t.pending = (session log).flatMap Exchange.written
  room : t.pending.length ≤ config.outputCapacity.toNat
  window : t.history = Bytes.lastN config.historyCapacity.toNat (content log)

theorem new_prints (config : TerminalConfig) : (new config).Prints config [] :=
  ⟨rfl, rfl, Nat.zero_le _, (Bytes.lastN_of_length_le (Nat.zero_le _)).symm⟩

/-- What is taken is what was pending, and what is written is pending behind it. -/
theorem Prints.snoc (h : t.Prints config log) (hconfig : t'.config = t.config)
    (hreset : e.isReset = false) (hpending : e.taken ++ t'.pending = t.pending ++ e.written)
    (hroom : t'.pending.length ≤ t.config.outputCapacity.toNat)
    (hwindow : t'.history = Bytes.lastN config.historyCapacity.toNat (content (log ++ [e]))) :
    t'.Prints config (log ++ [e]) where
  config_eq := hconfig.trans h.config_eq
  stream := by
    rw [session_snoc hreset]
    simp only [List.flatMap_append, List.flatMap_singleton, List.append_assoc, hpending]
    rw [← List.append_assoc, h.stream]
  room := h.config_eq ▸ hroom
  window := hwindow

/-- A call that is about something else. -/
theorem Prints.other (h : t.Prints config log) (hconfig : t'.config = t.config)
    (hpending : t'.pending = t.pending) (hhistory : t'.history = t.history)
    (hreset : e.isReset = false) (hset : e.setsWindow = false) (htaken : e.taken = [])
    (hwritten : e.written = []) (hshown : e.shown = []) : t'.Prints config (log ++ [e]) := by
  refine h.snoc hconfig hreset ?_ ?_ ?_
  · rw [htaken, hwritten, hpending, List.append_nil]
    rfl
  · rw [hpending, h.config_eq]
    exact h.room
  · rw [content_snoc hset, hshown, List.append_nil, hhistory]
    exact h.window

/-- A window that is extended shows the end of all that was shown. -/
theorem Prints.extend (h : t.Prints config log) (chunk : Bytes) :
    extendHistory t.config.historyCapacity.toNat t.history chunk =
      Bytes.lastN config.historyCapacity.toNat (content log ++ chunk) := by
  rw [extendHistory, h.config_eq, h.window, Bytes.lastN_lastN_append]

theorem Prints.write (h : t.Prints config log) (data : Bytes) :
    (t.write data).2.Prints config (log ++ [⟨.write data, .accepted (t.write data).1⟩]) := by
  have haccepted : data.take (t.write data).1 = data.take t.outputRoom := take_length_take data _
  refine h.snoc rfl rfl ?_ ?_ ?_
  · show t.pending ++ data.take t.outputRoom = t.pending ++ data.take (t.write data).1
    rw [haccepted]
  · have hroom := h.room
    show (t.pending ++ data.take t.outputRoom).length ≤ _
    simp only [List.length_append, List.length_take, outputRoom, h.config_eq]
    omega
  · rw [content_snoc rfl]
    show _ = Bytes.lastN _ (content log ++ data.take (t.write data).1)
    rw [haccepted]
    exact h.extend _

theorem Prints.takeOutput (h : t.Prints config log) :
    t.takeOutput.2.Prints config (log ++ [⟨.takeOutput, .chunk t.takeOutput.1⟩]) := by
  unfold Terminal.takeOutput
  split
  · exact h.other rfl rfl rfl rfl rfl rfl rfl rfl
  · refine h.snoc rfl rfl rfl (Nat.zero_le _) ?_
    rw [content_snoc rfl]
    show t.history = Bytes.lastN _ (content log ++ [])
    rw [List.append_nil]
    exact h.window

theorem Prints.applyOutput (h : t.Prints config log) (chunk : Bytes) (reply : Reply) :
    (t.applyOutput chunk).Prints config (log ++ [⟨.applyOutput chunk, reply⟩]) := by
  refine h.snoc rfl rfl (List.append_nil _).symm (h.config_eq ▸ h.room) ?_
  rw [content_snoc rfl]
  exact h.extend chunk

theorem Prints.restoreHistory (h : t.Prints config log) (data : Bytes) (reply : Reply) :
    (t.restoreHistory data).Prints config (log ++ [⟨.restoreHistory data, reply⟩]) := by
  refine h.snoc rfl rfl (List.append_nil _).symm (h.config_eq ▸ h.room) ?_
  rw [content_snoc_last rfl, ← h.config_eq]
  rfl

theorem Prints.reset (h : t.Prints config log) (reply : Reply) :
    t.reset.Prints config (log ++ [⟨.reset, reply⟩]) where
  config_eq := h.config_eq
  stream := by
    rw [session_snoc_reset rfl]
    rfl
  room := Nat.zero_le _
  window := by
    rw [content_snoc_last rfl]
    exact (Bytes.lastN_of_length_le (Nat.zero_le _)).symm

/-- What a call leaves alone if it is about the input. -/
theorem sendInput_output (t : Terminal) (data : Bytes) : (t.sendInput data).2.config = t.config ∧
    (t.sendInput data).2.pending = t.pending ∧ (t.sendInput data).2.history = t.history := by
  unfold sendInput
  split <;> exact ⟨rfl, rfl, rfl⟩

theorem readInput_output (t : Terminal) : t.readInput.2.config = t.config ∧
    t.readInput.2.pending = t.pending ∧ t.readInput.2.history = t.history := by
  unfold readInput
  split <;> exact ⟨rfl, rfl, rfl⟩

/-- One call. -/
theorem Prints.perform (h : t.Prints config log) (c : Call) :
    (t.perform c).2.Prints config (log ++ [⟨c, (t.perform c).1⟩]) := by
  cases c with
  | write data => exact h.write data
  | takeOutput => exact h.takeOutput
  | applyOutput chunk => exact h.applyOutput chunk _
  | restoreHistory data => exact h.restoreHistory data _
  | reset => exact h.reset _
  | sendInput data =>
    obtain ⟨hconfig, hpending, hhistory⟩ := t.sendInput_output data
    exact h.other hconfig hpending hhistory rfl rfl rfl rfl rfl
  | readInput =>
    obtain ⟨hconfig, hpending, hhistory⟩ := t.readInput_output
    exact h.other hconfig hpending hhistory rfl rfl rfl rfl rfl
  | deliverInput => exact h.other rfl rfl rfl rfl rfl rfl rfl rfl
  | setDisplayOnly value => exact h.other rfl rfl rfl rfl rfl rfl rfl rfl

theorem run_prints (config : TerminalConfig) (cs : List Call) :
    ((new config).run cs).Prints config ((new config).log cs) := by
  induction cs using List.reverseRecOn with
  | nil => exact new_prints config
  | append_singleton cs c ih =>
    rw [run_snoc, log_snoc]
    exact ih.perform c

/-- After any calls the output taken since the last reset and what is pending are together the output accepted
since then, in order.  What is pending never exceeds the capacity, and the next write accepts the longest part of
its data that fits.  The window shows the end of the content that it was set to last with all that was accepted
or mirrored since, and the next chunk enters it as it enters a queue. -/
theorem output_kept (config : TerminalConfig) (cs : List Call) :
    let t := (new config).run cs
    let log := (new config).log cs
    (session log).flatMap Exchange.taken ++ t.pending = (session log).flatMap Exchange.written ∧
    t.pending.length ≤ config.outputCapacity.toNat ∧
    (∀ data, IsGreatest { n | n ≤ data.length ∧ t.pending.length + n ≤ config.outputCapacity.toNat }
        (t.write data).1 ∧
      (t.write data).2.pending = t.pending ++ data.take (t.write data).1) ∧
    t.history = Bytes.lastN config.historyCapacity.toNat (content log) ∧
    ∀ chunk, (t.applyOutput chunk).history = pushHistory config.historyCapacity.toNat t.history chunk := by
  intro t log
  have h : t.Prints config log := run_prints config cs
  refine ⟨h.stream, h.room, fun data => ⟨?_, ?_⟩, h.window, fun chunk => ?_⟩
  · show IsGreatest _ (data.take t.outputRoom).length
    rw [outputRoom, h.config_eq]
    exact isGreatest_length_take data h.room
  · show t.pending ++ data.take t.outputRoom = t.pending ++ data.take (data.take t.outputRoom).length
    rw [take_length_take]
  · rw [pushHistory_eq, ← h.config_eq]
    rfl

/-! ## Input -/

/-- The input side of a terminal, told by the exchanges that led to it. -/
structure Listens (config : TerminalConfig) (log : List Exchange) (t : Terminal) : Prop where
  config_eq : t.config = config
  /-- What was read and what can be read was sent before the last delivery. -/
  delivered : (session log).flatMap Exchange.read ++ t.input =
    (upTo Exchange.isDelivery (session log)).flatMap Exchange.sent
  staged : t.staged = (since Exchange.isDelivery (session log)).flatMap Exchange.sent
  room : t.staged.length + t.input.length ≤ config.inputCapacity.toNat
  display_eq : t.displayOnly = display log

theorem new_listens (config : TerminalConfig) : (new config).Listens config [] :=
  ⟨rfl, rfl, rfl, Nat.zero_le _, rfl⟩

/-- What is read was in front of the delivered input, and what is sent is staged behind the other. -/
theorem Listens.snoc (h : t.Listens config log) (hconfig : t'.config = t.config)
    (hreset : e.isReset = false) (hdelivery : e.isDelivery = false)
    (hinput : e.read ++ t'.input = t.input) (hstaged : t'.staged = t.staged ++ e.sent)
    (hroom : t'.staged.length + t'.input.length ≤ t.config.inputCapacity.toNat)
    (hdisplay : t'.displayOnly = display (log ++ [e])) : t'.Listens config (log ++ [e]) where
  config_eq := hconfig.trans h.config_eq
  delivered := by
    rw [session_snoc hreset, upTo_snoc hdelivery]
    simp only [List.flatMap_append, List.flatMap_singleton, List.append_assoc, hinput]
    exact h.delivered
  staged := by
    rw [session_snoc hreset, since_snoc hdelivery, List.flatMap_append, List.flatMap_singleton,
      hstaged, h.staged]
  room := h.config_eq ▸ hroom
  display_eq := hdisplay

/-- A call that is about something else. -/
theorem Listens.other (h : t.Listens config log) (hconfig : t'.config = t.config)
    (hinput : t'.input = t.input) (hstaged : t'.staged = t.staged)
    (hreset : e.isReset = false) (hdelivery : e.isDelivery = false) (hread : e.read = [])
    (hsent : e.sent = []) (hdisplay : t'.displayOnly = display (log ++ [e])) :
    t'.Listens config (log ++ [e]) := by
  refine h.snoc hconfig hreset hdelivery ?_ ?_ ?_ hdisplay
  · rw [hread, hinput]
    rfl
  · rw [hsent, hstaged, List.append_nil]
  · rw [hstaged, hinput, h.config_eq]
    exact h.room

theorem Listens.sendInput (h : t.Listens config log) (data : Bytes) :
    (t.sendInput data).2.Listens config (log ++ [⟨.sendInput data, .accepted (t.sendInput data).1⟩]) := by
  have hdisplay : t.displayOnly = display (log ++ [⟨.sendInput data, .accepted (t.sendInput data).1⟩]) :=
    h.display_eq.trans (display_snoc_of_none rfl).symm
  unfold Terminal.sendInput at hdisplay ⊢
  split
  · next hclosed =>
    rw [if_pos hclosed] at hdisplay
    exact h.other rfl rfl rfl rfl rfl rfl rfl hdisplay
  · next hopen =>
    rw [if_neg hopen] at hdisplay
    refine h.snoc rfl rfl rfl rfl ?_ ?_ hdisplay
    · show t.staged ++ data.take t.inputRoom = t.staged ++ data.take (data.take t.inputRoom).length
      rw [take_length_take]
    · have hroom := h.room
      show (t.staged ++ data.take t.inputRoom).length + t.input.length ≤ _
      simp only [List.length_append, List.length_take, inputRoom, h.config_eq]
      omega

theorem Listens.deliverInput (h : t.Listens config log) (reply : Reply) :
    t.deliverInput.Listens config (log ++ [⟨.deliverInput, reply⟩]) where
  config_eq := h.config_eq
  delivered := by
    rw [session_snoc rfl, upTo_snoc_last rfl]
    simp only [List.flatMap_append, List.flatMap_singleton, Exchange.read, Exchange.sent, List.append_nil]
    show (session log).flatMap Exchange.read ++ (t.input ++ t.staged) = (session log).flatMap Exchange.sent
    rw [← List.append_assoc, h.delivered, h.staged, ← List.flatMap_append, upTo_append_since]
  staged := by
    rw [session_snoc rfl, since_snoc_last rfl]
    rfl
  room := by
    have hroom := h.room
    show 0 + (t.input ++ t.staged).length ≤ _
    rw [List.length_append]
    omega
  display_eq := h.display_eq.trans (display_snoc_of_none rfl).symm

theorem Listens.readInput (h : t.Listens config log) :
    t.readInput.2.Listens config (log ++ [⟨.readInput, .byte t.readInput.1⟩]) := by
  have hdisplay : t.displayOnly = display (log ++ [⟨.readInput, .byte t.readInput.1⟩]) :=
    h.display_eq.trans (display_snoc_of_none rfl).symm
  have hroom := h.room
  unfold Terminal.readInput at hdisplay ⊢
  cases hinput : t.input with
  | nil =>
    rw [hinput] at hdisplay
    exact h.other rfl rfl rfl rfl rfl rfl rfl hdisplay
  | cons b rest =>
    rw [hinput] at hdisplay hroom
    refine h.snoc rfl rfl rfl hinput.symm (List.append_nil _).symm ?_ hdisplay
    rw [List.length_cons] at hroom
    rw [h.config_eq]
    show t.staged.length + rest.length ≤ _
    omega

theorem Listens.reset (h : t.Listens config log) (reply : Reply) :
    t.reset.Listens config (log ++ [⟨.reset, reply⟩]) where
  config_eq := h.config_eq
  delivered := by
    rw [session_snoc_reset rfl]
    rfl
  staged := by
    rw [session_snoc_reset rfl]
    rfl
  room := Nat.zero_le _
  display_eq := h.display_eq.trans (display_snoc_of_none rfl).symm

/-- What a call leaves alone if it is about the output. -/
theorem takeOutput_input (t : Terminal) : t.takeOutput.2.config = t.config ∧
    t.takeOutput.2.input = t.input ∧ t.takeOutput.2.staged = t.staged ∧
      t.takeOutput.2.displayOnly = t.displayOnly := by
  unfold takeOutput
  split <;> exact ⟨rfl, rfl, rfl, rfl⟩

/-- One call. -/
theorem Listens.perform (h : t.Listens config log) (c : Call) :
    (t.perform c).2.Listens config (log ++ [⟨c, (t.perform c).1⟩]) := by
  have hsame (hc : (Exchange.mk c (t.perform c).1).display? = none) :
      t.displayOnly = display (log ++ [⟨c, (t.perform c).1⟩]) :=
    h.display_eq.trans (display_snoc_of_none hc).symm
  cases c with
  | sendInput data => exact h.sendInput data
  | deliverInput => exact h.deliverInput _
  | readInput => exact h.readInput
  | reset => exact h.reset _
  | setDisplayOnly value =>
    exact h.other rfl rfl rfl rfl rfl rfl rfl (display_snoc_of_some rfl).symm
  | takeOutput =>
    obtain ⟨hconfig, hinput, hstaged, hdisplay⟩ := t.takeOutput_input
    exact h.other hconfig hinput hstaged rfl rfl rfl rfl (hdisplay.trans (hsame rfl))
  | write data => exact h.other rfl rfl rfl rfl rfl rfl rfl (hsame rfl)
  | applyOutput chunk => exact h.other rfl rfl rfl rfl rfl rfl rfl (hsame rfl)
  | restoreHistory data => exact h.other rfl rfl rfl rfl rfl rfl rfl (hsame rfl)

theorem run_listens (config : TerminalConfig) (cs : List Call) :
    ((new config).run cs).Listens config ((new config).log cs) := by
  induction cs using List.reverseRecOn with
  | nil => exact new_listens config
  | append_singleton cs c ih =>
    rw [run_snoc, log_snoc]
    exact ih.perform c

theorem readInput_eq_head? (t : Terminal) : t.readInput.1 = t.input.head? := by
  unfold readInput
  split <;> next h => rw [h]; rfl

/-- After any calls the input read since the last reset, what was delivered and not read, and what is staged are
together the input accepted since then, in order.  What was read and what can be read is what was accepted before
the last delivery, and the next byte read is the next of those.  Staged and unread input together never exceed the
capacity.  The next call accepts the longest part of its data with which that is so, and nothing if the terminal
was last made display-only. -/
theorem input_kept (config : TerminalConfig) (cs : List Call) :
    let t := (new config).run cs
    let log := (new config).log cs
    let read := (session log).flatMap Exchange.read
    let delivered := (upTo Exchange.isDelivery (session log)).flatMap Exchange.sent
    read ++ t.input ++ t.staged = (session log).flatMap Exchange.sent ∧
    read ++ t.input = delivered ∧
    t.readInput.1 = delivered[read.length]? ∧
    t.staged.length + t.input.length ≤ config.inputCapacity.toNat ∧
    t.displayOnly = display log ∧
    ∀ data,
      (t.displayOnly = true → t.sendInput data = (0, t)) ∧
      (t.displayOnly = false →
        IsGreatest { n | n ≤ data.length ∧
          t.staged.length + t.input.length + n ≤ config.inputCapacity.toNat } (t.sendInput data).1 ∧
        (t.sendInput data).2.staged = t.staged ++ data.take (t.sendInput data).1) := by
  intro t log read delivered
  have h : t.Listens config log := run_listens config cs
  have hdelivered : read ++ t.input = delivered := h.delivered
  refine ⟨?_, hdelivered, ?_, h.room, h.display_eq, fun data => ⟨fun hclosed => if_pos hclosed, ?_⟩⟩
  · rw [hdelivered, h.staged, ← List.flatMap_append, upTo_append_since]
  · rw [readInput_eq_head?, ← hdelivered, List.getElem?_append_right (Nat.le_refl _), Nat.sub_self,
      List.head?_eq_getElem?]
  · intro hopen
    have hsend : t.sendInput data = ((data.take t.inputRoom).length,
        { t with staged := t.staged ++ data.take t.inputRoom }) := if_neg (by simp [hopen])
    rw [hsend, take_length_take]
    refine ⟨?_, rfl⟩
    rw [inputRoom, h.config_eq]
    exact isGreatest_length_take data h.room

end Terminal

end DeviceBus
