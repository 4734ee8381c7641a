import DeviceBus.Proofs.Record
import DeviceBus.Proofs.Terminal

/-!
# What the demo machine prints

A demo machine at a terminal boots and runs, and a new machine takes over what it saved, while the host
delivers input and takes output (`Console`).  What the terminal accepted, and what still waits to be
accepted, is what the boots printed and what was typed, in order:

    accepted ++ outbox = printed                                              (output_conserved)

A run of the machine is a call on the terminal for each byte, and one for the output (`step_eq_follow`).
The host's calls may come between any two of them, so the books are kept by these parts (`Console.Books`).
-/

namespace DeviceBus

namespace DemoMachine

/-- What a boot prints. -/
def greeting (boots : UInt32) (map : DeviceMap) (hw : Hardware) : Bytes :=
  Bytes.ofText (banner boots map hw ++
    if (map.memoryAt? hw map.windowStart).isSome then "memory check ok\n" else "")

/-- Every boot counts.  It prints its greeting, unless the memory check fails. -/
theorem install_machine (m : DemoMachine) (map : DeviceMap) (hw : Hardware) :
    (m.install map hw).2.1 = { m with
      boots := m.boots + 1
      outbox := m.outbox ++
        ((m.install map hw).1.toOption.map fun _ => greeting (m.boots + 1) map hw).getD [] } := by
  unfold install checkMemory greeting
  cases map.memoryAt? hw map.windowStart with
  | none =>
    rw [Option.isSome_none, if_neg Bool.false_ne_true, String.append_empty]
    rfl
  | some place =>
    dsimp only
    cases decide (((hw.writeMemory place.1 place.2 signature).readMemory place.1 place.2
      signature.length).1 = signature) with
    | false =>
      show _ = DemoMachine.mk _ _ _ (m.outbox ++ [])
      rw [List.append_nil]
    | true => rfl

end DemoMachine

namespace Terminal

theorem run_append (t : Terminal) (cs ds : List Call) : t.run (cs ++ ds) = (t.run cs).run ds :=
  List.foldl_append

theorem readInput_nil {t : Terminal} (h : t.input = []) : t.readInput = (none, t) := by
  rw [readInput, h]

theorem readInput_cons {t : Terminal} {b : UInt8} {rest : Bytes} (h : t.input = b :: rest) :
    t.readInput = (some b, { t with input := rest }) := by
  rw [readInput, h]

theorem log_append (t : Terminal) (cs ds : List Call) :
    t.log (cs ++ ds) = t.log cs ++ (t.run cs).log ds := by
  induction cs generalizing t with
  | nil => rfl
  | cons c cs ih => exact congrArg (_ :: ·) (ih _)

end Terminal

/-! ## A machine at a terminal -/

/-- A demo machine and the terminal it prints on. -/
structure Console where
  machine : DemoMachine
  terminal : Terminal

namespace Console

/-- The least that happens at once. -/
inductive Part where
  | install (map : DeviceMap) (hw : Hardware)
  /-- A new machine is given what this one saved. -/
  | renew
  /-- The cycles of a run are counted. -/
  | count (cycles : Nat)
  /-- One byte is read, if there is one. -/
  | echo
  /-- The terminal is offered what waits. -/
  | flush
  /-- Someone else calls on the terminal. -/
  | host (call : Terminal.Call)

/-- What may be asked of the machine, and what the host does. -/
inductive Act where
  | part (p : Part)
  | run (cycles : Nat)

/-- What a part has to show. -/
inductive Entry where
  /-- A boot and what it printed, if it succeeded. -/
  | booted (text : Option Bytes)
  /-- A call of the machine on the terminal. -/
  | own (x : Terminal.Exchange)
  /-- A call of someone else. -/
  | host (x : Terminal.Exchange)
  deriving DecidableEq, Repr

namespace Entry

/-- Output of the machine that the terminal accepted. -/
def accepted : Entry → Bytes
  | own x => x.written
  | _ => []

/-- Input that the machine read. -/
def typed : Entry → Bytes
  | own x => x.read
  | _ => []

/-- What the terminal is to show of it. -/
def printed : Entry → Bytes
  | booted text => text.getD []
  | own x => x.read
  | host _ => []

/-- Whether the machine booted. -/
def isBoot : Entry → Bool
  | booted _ => true
  | _ => false

/-- The call on the terminal, if it is one. -/
def exchange? : Entry → Option Terminal.Exchange
  | own x | host x => some x
  | booted _ => none

end Entry

/-- The calls on the terminal, whoever made them. -/
def calls (es : List Entry) : List Terminal.Call := (es.filterMap Entry.exchange?).map Terminal.Exchange.call

/-- What a part makes of the machine and the terminal. -/
def advance (c : Console) : Part → Console
  | .install map hw => { c with machine := (c.machine.install map hw).2.1 }
  | .renew => { c with machine := (DemoMachine.restore c.machine.save).toOption.getD .new }
  | .count cycles => { c with machine.cycles := c.machine.cycles + UInt64.ofNat cycles }
  | .echo =>
    match c.terminal.readInput with
    | (none, t) => { c with terminal := t }
    | (some b, t) =>
      ⟨{ c.machine with outbox := c.machine.outbox ++ [b], echoed := c.machine.echoed + 1 }, t⟩
  | .flush =>
    let (accepted, t) := c.terminal.write c.machine.outbox
    ⟨{ c.machine with outbox := c.machine.outbox.drop accepted }, t⟩
  | .host call => { c with terminal := (c.terminal.perform call).2 }

/-- What there is to show of a part. -/
def entries (c : Console) : Part → List Entry
  | .install map hw =>
    [.booted ((c.machine.install map hw).1.toOption.map fun _ =>
      DemoMachine.greeting (c.machine.boots + 1) map hw)]
  | .echo => [.own ⟨.readInput, (c.terminal.perform .readInput).1⟩]
  | .flush => [.own ⟨.write c.machine.outbox, (c.terminal.perform (.write c.machine.outbox)).1⟩]
  | .host call => [.host ⟨call, (c.terminal.perform call).1⟩]
  | .renew | .count _ => []

/-- The parts one after the other. -/
def follow (c : Console) (ps : List Part) : Console := ps.foldl advance c

/-- What there is to show of parts. -/
def trace (c : Console) : List Part → List Entry
  | [] => []
  | p :: ps => c.entries p ++ trace (c.advance p) ps

/-- What an act makes of the machine and the terminal. -/
def step (c : Console) : Act → Console
  | .part p => c.advance p
  | .run cycles =>
    let (m, t) := c.machine.run cycles c.terminal
    ⟨m, t⟩

/-- The parts of an act.  A run reads until there is nothing to read. -/
def parts (c : Console) : Act → List Part
  | .part p => [p]
  | .run cycles => .count cycles :: (List.replicate (c.terminal.input.length + 1) .echo ++ [.flush])

/-- The machine and the terminal after some acts. -/
def run (c : Console) (acts : List Act) : Console := acts.foldl step c

/-- What there is to show of acts. -/
def log (c : Console) : List Act → List Entry
  | [] => []
  | a :: acts => c.trace (c.parts a) ++ log (c.step a) acts

/-! ## A run is its parts -/

theorem follow_append (c : Console) (ps qs : List Part) : c.follow (ps ++ qs) = (c.follow ps).follow qs :=
  List.foldl_append

theorem advance_echo_nil {c : Console} (h : c.terminal.input = []) : c.advance .echo = c := by
  rw [advance, Terminal.readInput_nil h]

theorem advance_echo_cons {c : Console} {b : UInt8} {rest : Bytes} (h : c.terminal.input = b :: rest) :
    c.advance .echo =
      ⟨{ c.machine with outbox := c.machine.outbox ++ [b], echoed := c.machine.echoed + 1 },
        { c.terminal with input := rest }⟩ := by
  rw [advance, Terminal.readInput_cons h]

/-- Reading byte by byte takes the whole input over. -/
theorem follow_echo (c : Console) {input : Bytes} (h : c.terminal.input = input) :
    c.follow (List.replicate (input.length + 1) .echo) =
      ⟨{ c.machine with
          outbox := c.machine.outbox ++ input
          echoed := c.machine.echoed + UInt64.ofNat input.length },
        { c.terminal with input := [] }⟩ := by
  induction input generalizing c with
  | nil =>
    -- the last call finds nothing to read
    have hempty : { c.terminal with input := [] } = c.terminal := by rw [← h]
    show c.advance .echo = _
    rw [advance_echo_nil h, hempty, List.append_nil]
    show _ = Console.mk { c.machine with echoed := c.machine.echoed + 0 } c.terminal
    rw [UInt64.add_zero]
  | cons b rest ih =>
    show follow (c.advance .echo) (List.replicate (rest.length + 1) .echo) = _
    rw [advance_echo_cons h, ih _ rfl, List.append_assoc, List.singleton_append, UInt64.add_assoc,
      List.length_cons, Nat.add_comm rest.length, UInt64.ofNat_add]
    rfl

/-- A run of the machine is its parts, one after the other. -/
theorem step_eq_follow (c : Console) (a : Act) : c.step a = c.follow (c.parts a) := by
  cases a with
  | part p => rfl
  | run cycles =>
    have hinput : (c.advance (.count cycles)).terminal.input = c.terminal.input := rfl
    show _ = follow (c.advance (.count cycles)) _
    rw [follow_append, follow_echo _ hinput]
    rfl

/-! ## The books -/

/-- What was accepted and what waits is what waited and what was printed.  The machine counts its boots and
the bytes it read, and the calls are all that was made of the terminal. -/
structure Books (c : Console) (es : List Entry) (c' : Console) : Prop where
  output : es.flatMap Entry.accepted ++ c'.machine.outbox = c.machine.outbox ++ es.flatMap Entry.printed
  echoed : c'.machine.echoed = c.machine.echoed + UInt64.ofNat (es.flatMap Entry.typed).length
  boots : c'.machine.boots = c.machine.boots + UInt32.ofNat (es.countP Entry.isBoot)
  terminal : c'.terminal = c.terminal.run (calls es)
  replies : es.filterMap Entry.exchange? = c.terminal.log (calls es)

namespace Books

variable {c c' c'' : Console} {es es' : List Entry}

theorem refl (c : Console) : c.Books [] c :=
  ⟨(List.append_nil _).symm, (UInt64.add_zero _).symm, (UInt32.add_zero _).symm, rfl, rfl⟩

theorem calls_append (es es' : List Entry) : calls (es ++ es') = calls es ++ calls es' := by
  unfold calls
  rw [List.filterMap_append, List.map_append]

/-- Books are continued. -/
theorem trans (h : c.Books es c') (h' : c'.Books es' c'') : c.Books (es ++ es') c'' where
  output := by
    rw [List.flatMap_append, List.flatMap_append, List.append_assoc, h'.output, ← List.append_assoc, h.output,
      List.append_assoc]
  echoed := by
    rw [List.flatMap_append, List.length_append, UInt64.ofNat_add, h'.echoed, h.echoed, UInt64.add_assoc]
  boots := by
    rw [List.countP_append, UInt32.ofNat_add, h'.boots, h.boots, UInt32.add_assoc]
  terminal := by rw [calls_append, Terminal.run_append, h'.terminal, h.terminal]
  replies := by
    rw [calls_append, Terminal.log_append, List.filterMap_append, h.replies, h'.replies, h.terminal]

/-- One call on the terminal, with what it makes of the machine. -/
theorem ofCall {e : Entry} {call : Terminal.Call}
    (hexchange : e.exchange? = some ⟨call, (c.terminal.perform call).1⟩)
    (hterminal : c'.terminal = (c.terminal.perform call).2)
    (houtput : e.accepted ++ c'.machine.outbox = c.machine.outbox ++ e.printed)
    (hechoed : c'.machine.echoed = c.machine.echoed + UInt64.ofNat e.typed.length)
    (hboots : c'.machine.boots = c.machine.boots) : c.Books [e] c' := by
  have hexchanges : [e].filterMap Entry.exchange? = [⟨call, (c.terminal.perform call).1⟩] :=
    List.filterMap_cons_some hexchange
  have hcalls : calls [e] = [call] := congrArg (·.map Terminal.Exchange.call) hexchanges
  have hboot : [e].countP Entry.isBoot = 0 := by
    cases e with
    | booted text => exact nomatch hexchange
    | own x => rfl
    | host x => rfl
  refine ⟨?_, ?_, ?_, ?_, ?_⟩
  · rw [List.flatMap_singleton, List.flatMap_singleton, houtput]
  · rw [List.flatMap_singleton, hechoed]
  · rw [hboot, hboots]
    exact (UInt32.add_zero _).symm
  · rw [hcalls]
    exact hterminal
  · rw [hcalls]
    exact hexchanges

end Books

theorem install_books (c : Console) (map : DeviceMap) (hw : Hardware) :
    c.Books (c.entries (.install map hw)) (c.advance (.install map hw)) := by
  have hmachine : (c.advance (.install map hw)).machine = _ := c.machine.install_machine map hw
  refine ⟨?_, ?_, ?_, rfl, rfl⟩
  · rw [hmachine]
    exact congrArg (c.machine.outbox ++ ·) (List.append_nil _).symm
  · rw [hmachine]
    exact (UInt64.add_zero _).symm
  · rw [hmachine]
    rfl

theorem renew_books (c : Console) : c.Books (c.entries .renew) (c.advance .renew) := by
  have hsame : c.advance .renew = c := by
    unfold advance
    rw [DemoMachine.restore_save]
    rfl
  rw [hsame]
  exact .refl c

theorem echo_books (c : Console) : c.Books (c.entries .echo) (c.advance .echo) := by
  cases hinput : c.terminal.input with
  | nil =>
    have hperform : c.terminal.perform .readInput = (.byte none, c.terminal) := by
      rw [Terminal.perform, Terminal.readInput_nil hinput]
    have hentries : c.entries .echo = [.own ⟨.readInput, .byte none⟩] := by rw [entries, hperform]
    rw [hentries, advance_echo_nil hinput]
    exact .ofCall (by rw [hperform]; rfl) (by rw [hperform]) (List.append_nil _).symm
      (UInt64.add_zero _).symm rfl
  | cons b rest =>
    have hperform : c.terminal.perform .readInput =
        (.byte (some b), { c.terminal with input := rest }) := by
      rw [Terminal.perform, Terminal.readInput_cons hinput]
    have hentries : c.entries .echo = [.own ⟨.readInput, .byte (some b)⟩] := by rw [entries, hperform]
    rw [hentries, advance_echo_cons hinput]
    exact .ofCall (by rw [hperform]; rfl) (by rw [hperform]) rfl rfl rfl

theorem flush_books (c : Console) : c.Books (c.entries .flush) (c.advance .flush) := by
  refine .ofCall rfl rfl ?_ (UInt64.add_zero _).symm rfl
  -- what is dropped from the queue is what the terminal says it took
  show c.machine.outbox.take (c.terminal.write c.machine.outbox).1 ++
    c.machine.outbox.drop (c.terminal.write c.machine.outbox).1 = c.machine.outbox ++ []
  rw [List.append_nil, List.take_append_drop]

/-- Every part keeps the books. -/
theorem advance_books (c : Console) (p : Part) : c.Books (c.entries p) (c.advance p) := by
  cases p with
  | install map hw => exact c.install_books map hw
  | renew => exact c.renew_books
  | count cycles => exact { Books.refl c with }
  | echo => exact c.echo_books
  | flush => exact c.flush_books
  | host call => exact .ofCall rfl rfl (List.append_nil _).symm (UInt64.add_zero _).symm rfl

theorem follow_books (c : Console) (ps : List Part) : c.Books (c.trace ps) (c.follow ps) := by
  induction ps generalizing c with
  | nil => exact .refl c
  | cons p ps ih => exact (c.advance_books p).trans (ih _)

theorem run_books (c : Console) (acts : List Act) : c.Books (c.log acts) (c.run acts) := by
  induction acts generalizing c with
  | nil => exact .refl c
  | cons a acts ih =>
    have hstep := c.follow_books (c.parts a)
    rw [← step_eq_follow] at hstep
    exact hstep.trans (ih _)

/-- From its first boot on, a demo machine loses, doubles and reorders nothing: what the terminal accepted of
it, and then what waits, is what its boots printed and the input it read, as they happened.  It counts what
it read.  The terminal got these calls, and gave these replies. -/
theorem output_conserved (t : Terminal) (acts : List Act) :
    let start : Console := ⟨.new, t⟩
    let log := start.log acts
    let now := start.run acts
    log.flatMap Entry.accepted ++ now.machine.outbox = log.flatMap Entry.printed ∧
      now.machine.echoed = UInt64.ofNat (log.flatMap Entry.typed).length ∧
      now.machine.boots = UInt32.ofNat (log.countP Entry.isBoot) ∧
      now.terminal = t.run (calls log) ∧ log.filterMap Entry.exchange? = t.log (calls log) := by
  intro start log now
  have hbooks : start.Books log now := start.run_books acts
  refine ⟨hbooks.output, ?_, ?_, hbooks.terminal, hbooks.replies⟩
  · rw [hbooks.echoed]
    exact UInt64.zero_add _
  · rw [hbooks.boots]
    exact UInt32.zero_add _

end Console

end DeviceBus
