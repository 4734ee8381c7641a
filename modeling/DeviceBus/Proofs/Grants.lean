import DeviceBus.Proofs.Machine.Rest
import Mathlib.Data.List.DropRight

/-!
# Grants of a worker

What happened to a worker is told by a log: what its host did, and each call of the emulator with its
cycles and its end (`Worker.logged`).  The log falls into the grants that were accepted, each with all that
came until the next (`Worker.jobs`), and from it can be read what the worker answers: whether it takes a
grant, how many cycles it executed, and which failure nobody took.  Of a grant of `n` cycles

    call i runs min size (n - i * size)                              (Job.Lawful)
    there are (n + size - 1) / size calls in all                     (Job.Lawful.length_eq)
    executed = the sum of the credits of the grants that are over    (Books.executed_eq_sum)

unless it fails or is cancelled.  What carries this is that all grants but the latest are over, and that the
latest is as far as the worker says, or over as well (`Worker.Books`).
-/

namespace DeviceBus

namespace Worker

variable {σ τ : Type}

/-! ## Calls -/

/-- What a host does with a worker, and what the thread does in the meantime.  A cancellation meets the
thread inside of a slice, or before it begins the next one. -/
inductive Call where
  /-- The platform may refuse a thread, and say why. -/
  | start (refusal : Option String)
  | grant (cycles : Nat)
  | takeFault
  | quiesce
  | cancel (inside : Bool)
  | shutdown (inside : Bool)
  | progress (slices : Nat)
  deriving DecidableEq, Repr

/-- The worker and the state of the emulator after a call. -/
def act (run : Nat → σ → SliceEnd × σ) (c : Call) (w : Worker) (s : σ) : Worker × σ :=
  match c with
  | .start refusal => ((w.start refusal).2, s)
  | .grant cycles => ((w.grant cycles).2, s)
  | .takeFault => (w.takeFault.2, s)
  | .quiesce => w.quiesce run s
  | .cancel inside => (if inside then w else w.drop).cancel run s
  | .shutdown inside => (if inside then w else w.drop).shutdown run s
  | .progress slices => w.progress run slices s

/-- Both after a list of calls. -/
def acts (run : Nat → σ → SliceEnd × σ) (cs : List Call) (w : Worker) (s : σ) : Worker × σ :=
  cs.foldl (fun x c => act run c x.1 x.2) (w, s)

section Map

variable {run : Nat → σ → SliceEnd × σ} {run' : Nat → τ → SliceEnd × τ} {f : τ → σ}
  (h : ∀ cycles t, run cycles (f t) = ((run' cycles t).1, f (run' cycles t).2))

include h

/-! An emulator that keeps more in its state than another, and is like it otherwise, makes no difference to
the worker. -/

theorem runSlice_map (w : Worker) (t : τ) :
    w.runSlice run (f t) = ((w.runSlice run' t).1, f (w.runSlice run' t).2) := by
  unfold runSlice
  split
  · simp only [h]
  · rfl

theorem runSlices_map (n : Nat) (w : Worker) (t : τ) :
    runSlices run n w (f t) = ((runSlices run' n w t).1, f (runSlices run' n w t).2) := by
  induction n generalizing w t with
  | zero => rfl
  | succ n ih =>
    unfold runSlices
    split
    · rfl
    · simp only [runSlice_map h, ih]

theorem stopSlices_map (w : Worker) (t : τ) :
    w.stopSlices run (f t) = ((w.stopSlices run' t).1, f (w.stopSlices run' t).2) := by
  simp only [stopSlices, runSlice_map h]

theorem shutdown_map (w : Worker) (t : τ) :
    w.shutdown run (f t) = ((w.shutdown run' t).1, f (w.shutdown run' t).2) := by
  unfold shutdown
  split
  · rw [stopSlices_map h]
  · rfl

theorem act_map (c : Call) (w : Worker) (t : τ) :
    act run c w (f t) = ((act run' c w t).1, f (act run' c w t).2) := by
  cases c with
  | start refusal => rfl
  | grant cycles => rfl
  | takeFault => rfl
  | quiesce => exact runSlices_map h _ _ _
  | progress slices => exact runSlices_map h _ _ _
  | cancel inside => simp only [act, cancel, stopSlices_map h]
  | shutdown inside => exact shutdown_map h _ _

end Map

/-! ## The log -/

/-- Something that happened to a worker. -/
inductive Entry where
  | started
  /-- A grant was accepted. -/
  | granted (cycles : Nat)
  /-- The emulator was called. -/
  | ran (cycles : Nat) (outcome : SliceEnd)
  | cancelled
  | shutDown
  /-- The failure was taken, if there was one. -/
  | taken
  deriving DecidableEq, Repr

namespace Entry

/-- The call of the emulator. -/
def call? : Entry → Option (Nat × SliceEnd)
  | ran cycles outcome => some (cycles, outcome)
  | _ => none

/-- Whether the rest of the grant was dropped. -/
def isStop : Entry → Bool
  | cancelled | shutDown => true
  | _ => false

/-- Whether the thread was started, or ended. -/
def running? : Entry → Option Bool
  | started => some true
  | shutDown | ran _ .panicked => some false
  | _ => none

/-- Whether the failure was taken or discarded. -/
def clears : Entry → Bool
  | cancelled | taken => true
  | _ => false

/-- The failure that the emulator raised. -/
def fault? : Entry → Option Fault
  | ran _ (.faulted fault) => some fault
  | _ => none

/-- Whether the emulator panicked. -/
def isPanic : Entry → Bool
  | ran _ .panicked => true
  | _ => false

end Entry

/-- An emulator that keeps a log of its calls. -/
def recording (run : Nat → σ → SliceEnd × σ) (cycles : Nat) (x : σ × List Entry) :
    SliceEnd × σ × List Entry :=
  ((run cycles x.1).1, (run cycles x.1).2, x.2 ++ [.ran cycles (run cycles x.1).1])

/-- What a call adds to the log. -/
def entries (w : Worker) : Call → List Entry
  | .start refusal => match (w.start refusal).1 with
    | .ok () => [.started]
    | .error _ => []
  | .grant cycles => if (w.grant cycles).1 then [.granted cycles] else []
  | .takeFault => [.taken]
  | .cancel _ => [.cancelled]
  | .shutdown _ => [.shutDown]
  | .quiesce | .progress _ => []

/-- A call, with the log. -/
def perform (run : Nat → σ → SliceEnd × σ) (c : Call) (x : Worker × σ × List Entry) :
    Worker × σ × List Entry :=
  let y := act (recording run) c x.1 x.2
  (y.1, y.2.1, y.2.2 ++ x.1.entries c)

/-- A new worker after a list of calls, with the log. -/
def logged (run : Nat → σ → SliceEnd × σ) (slice : Nat) (s : σ) (cs : List Call) :
    Worker × σ × List Entry := cs.foldl (fun x c => perform run c x) (new slice, s, [])

theorem logged_snoc (run : Nat → σ → SliceEnd × σ) (slice : Nat) (s : σ) (cs : List Call) (c : Call) :
    logged run slice s (cs ++ [c]) = perform run c (logged run slice s cs) := by
  simp [logged]

/-- The log makes no difference. -/
theorem acts_eq_logged (run : Nat → σ → SliceEnd × σ) (slice : Nat) (s : σ) (cs : List Call) :
    acts run cs (new slice) s = ((logged run slice s cs).1, (logged run slice s cs).2.1) := by
  induction cs using List.reverseRecOn with
  | nil => rfl
  | append_singleton cs c ih =>
    have hstep : acts run (cs ++ [c]) (new slice) s =
        act run c (acts run cs (new slice) s).1 (acts run cs (new slice) s).2 := by
      simp [acts]
    have hrecording (cycles : Nat) (x : σ × List Entry) : run cycles (Prod.fst x) =
        ((recording run cycles x).1, Prod.fst (recording run cycles x).2) := rfl
    rw [hstep, ih, logged_snoc]
    exact act_map hrecording c _ _

/-! ## What the log says -/

/-- Whether the thread was last started. -/
def started (log : List Entry) : Bool := (log.filterMap Entry.running?).getLast?.getD false

/-- What happened since a failure was last taken or discarded. -/
def untaken (log : List Entry) : List Entry := log.rtakeWhile fun e => !e.clears

/-- The latest failure that nobody took or discarded.  A panic does not replace a failure. -/
def outstanding (log : List Entry) : Option Fault :=
  ((untaken log).filterMap Entry.fault?).getLast?.or
    (if (untaken log).any Entry.isPanic then some panicFault else none)

section Snoc

variable {log : List Entry} {e : Entry}

theorem started_snoc (log : List Entry) (e : Entry) :
    started (log ++ [e]) = e.running?.getD (started log) := by
  unfold started
  cases h : e.running? <;> simp [h]

theorem untaken_snoc_of_clears (h : e.clears = true) : untaken (log ++ [e]) = [] :=
  List.rtakeWhile_concat_neg _ _ _ (by simp [h])

theorem untaken_snoc (h : e.clears = false) : untaken (log ++ [e]) = untaken log ++ [e] :=
  List.rtakeWhile_concat_pos _ _ _ (by simp [h])

theorem outstanding_snoc_of_clears (h : e.clears = true) : outstanding (log ++ [e]) = none := by
  simp [outstanding, untaken_snoc_of_clears h]

theorem outstanding_snoc (h : e.clears = false) (hfault : e.fault? = none) (hpanic : e.isPanic = false) :
    outstanding (log ++ [e]) = outstanding log := by
  simp [outstanding, untaken_snoc h, hfault, hpanic]

theorem outstanding_snoc_faulted (log : List Entry) (cycles : Nat) (fault : Fault) :
    outstanding (log ++ [.ran cycles (.faulted fault)]) = some fault := by
  simp [outstanding, untaken_snoc (e := .ran cycles (.faulted fault)) rfl, Entry.fault?]

theorem outstanding_snoc_panicked (log : List Entry) (cycles : Nat) :
    outstanding (log ++ [.ran cycles .panicked]) = some ((outstanding log).getD panicFault) := by
  unfold outstanding
  rw [untaken_snoc rfl]
  cases h : ((untaken log).filterMap Entry.fault?).getLast? with
  | none =>
    have hpanic : (untaken log ++ [Entry.ran cycles .panicked]).any Entry.isPanic = true := by
      simp [Entry.isPanic]
    have hfault : ((untaken log ++ [Entry.ran cycles .panicked]).filterMap Entry.fault?).getLast? = none := by
      simpa [Entry.fault?] using h
    rw [hpanic, hfault]
    cases (untaken log).any Entry.isPanic <;> rfl
  | some fault => simp [h, Entry.fault?]

end Snoc

/-! ## Grants in the log -/

/-- A grant that was accepted, and all that came until the next. -/
structure Job where
  cycles : Nat
  entries : List Entry
  deriving DecidableEq, Repr

/-- The first slices of a grant: each is as long as can be, but no longer than what is left. -/
def slices (size cycles count : Nat) : List Nat :=
  (List.range count).map fun i => min size (cycles - i * size)

namespace Job

def add (j : Job) (e : Entry) : Job := ⟨j.cycles, j.entries ++ [e]⟩

/-- The calls of the emulator. -/
def calls (j : Job) : List (Nat × SliceEnd) := j.entries.filterMap Entry.call?

/-- Whether a call failed or panicked. -/
def failed (j : Job) : Bool := j.calls.any fun c => c.2 ≠ .completed

/-- Whether the rest was dropped. -/
def stopped (j : Job) : Bool := j.entries.any Entry.isStop

/-- How many slices the whole grant takes. -/
def total (size : Nat) (j : Job) : Nat := (j.cycles + size - 1) / size

/-- Whether nothing is left to be run. -/
def isOver (size : Nat) (j : Job) : Bool := j.failed || j.stopped || j.calls.length = j.total size

/-- A cancellation came while something was left to be run. -/
def Cancelled (size : Nat) (j : Job) : Prop :=
  ∃ before e after, j.entries = before ++ e :: after ∧ e.isStop = true ∧
    (Job.mk j.cycles before).isOver size = false

/-- The cycles that count as executed once the grant is over: those of the calls that succeeded, unless the
emulator panicked. -/
def credit (j : Job) : Nat :=
  if j.calls.any fun c => c.2 = .panicked then 0
  else ((j.calls.filter fun c => c.2 = .completed).map Prod.fst).sum

/-- How a grant is run: slice by slice, all but the last call successful, and none after a cancellation. -/
structure Lawful (size : Nat) (j : Job) : Prop where
  sizes : j.calls.map Prod.fst = slices size j.cycles j.calls.length
  length_le : j.calls.length ≤ j.total size
  succeeded : ∀ c ∈ j.calls.dropLast, c.2 = .completed
  halted : (j.entries.dropWhile fun e => !e.isStop).filterMap Entry.call? = []

end Job

/-- The grants of a log, the latest first, after one more entry. -/
def record : List Job → Entry → List Job
  | jobs, .granted cycles => ⟨cycles, []⟩ :: jobs
  | [], _ => []
  | j :: jobs, e => j.add e :: jobs

/-- The grants of a log, the latest first. -/
def jobs (log : List Entry) : List Job := log.foldl record []

theorem jobs_snoc (log : List Entry) (e : Entry) : jobs (log ++ [e]) = record (jobs log) e := by
  simp [jobs]

theorem slices_succ (size cycles count : Nat) :
    slices size cycles (count + 1) = slices size cycles count ++ [min size (cycles - count * size)] := by
  simp [slices, List.range_succ]

/-- No cycle is given twice. -/
theorem sum_slices (size cycles count : Nat) : (slices size cycles count).sum = min (count * size) cycles := by
  induction count with
  | zero => simp [slices]
  | succ count ih =>
    rw [slices_succ, List.sum_append, List.sum_singleton, ih, Nat.succ_mul]
    omega

example : slices 10 25 3 = [10, 10, 5] := by decide

namespace Job

variable {size : Nat} {j : Job} {e : Entry}

theorem add_calls (j : Job) (e : Entry) : (j.add e).calls = j.calls ++ e.call?.toList := by
  unfold calls add
  cases h : e.call? <;> simp [h]

theorem add_calls_of_none (h : e.call? = none) : (j.add e).calls = j.calls := by
  rw [add_calls, h]
  exact List.append_nil _

theorem failed_eq_false_iff : j.failed = false ↔ ∀ c ∈ j.calls, c.2 = .completed := by
  simp [failed]

theorem stopped_add (j : Job) (e : Entry) : (j.add e).stopped = (j.stopped || e.isStop) := by
  simp [stopped, add]

/-- The slices of a grant end where its cycles do. -/
theorem lt_total_iff (hsize : 0 < size) (count : Nat) (j : Job) :
    count < j.total size ↔ count * size < j.cycles := by
  unfold total
  rw [Nat.lt_iff_add_one_le, Nat.le_div_iff_mul_le hsize, Nat.succ_mul]
  omega

theorem Lawful.sum_le (h : j.Lawful size) : (j.calls.map Prod.fst).sum ≤ j.cycles := by
  rw [h.sizes, sum_slices]
  exact Nat.min_le_right _ _

/-- A grant that is over was run to its end, unless it failed or was cancelled. -/
theorem Lawful.length_eq (h : j.Lawful size) (hover : j.isOver size = true) (hfailed : j.failed = false)
    (hcancelled : ¬ j.Cancelled size) : j.calls.length = j.total size := by
  by_contra hlength
  have hstopped : (j.entries.find? Entry.isStop).isSome = true := by
    have hany : j.stopped = true := by simpa [isOver, hfailed, hlength] using hover
    simpa [stopped] using hany
  obtain ⟨e, he⟩ := Option.isSome_iff_exists.mp hstopped
  obtain ⟨hstop, before, after, hentries, hbefore⟩ := List.find?_eq_some_iff_append.mp he
  have hcalls : j.calls = (Job.mk j.cycles before).calls ++ (e :: after).filterMap Entry.call? := by
    rw [calls, hentries, List.filterMap_append]
    rfl
  refine hcancelled ⟨before, e, after, hentries, hstop, ?_⟩
  have hless : (Job.mk j.cycles before).calls.length < j.total size := by
    have hle := h.length_le
    have hbefore := congrArg List.length hcalls
    rw [List.length_append] at hbefore
    omega
  have hnone : (Job.mk j.cycles before).stopped = false := by simpa [stopped] using hbefore
  have hsucceeded : (Job.mk j.cycles before).failed = false := by
    rw [failed_eq_false_iff] at hfailed ⊢
    intro c hc
    exact hfailed c (hcalls ▸ List.mem_append_left _ hc)
  have hne : (Job.mk j.cycles before).calls.length ≠ (Job.mk j.cycles before).total size := Nat.ne_of_lt hless
  simp [isOver, hnone, hsucceeded, hne]

/-- What is no call of the emulator changes nothing of how the grant was run. -/
theorem Lawful.note (h : j.Lawful size) (he : e.call? = none) : (j.add e).Lawful size where
  sizes := by
    rw [add_calls_of_none he]
    exact h.sizes
  length_le := by
    rw [add_calls_of_none he]
    exact h.length_le
  succeeded := by
    rw [add_calls_of_none he]
    exact h.succeeded
  halted := by
    have hhalted := h.halted
    rw [List.filterMap_eq_nil_iff] at hhalted ⊢
    unfold add
    rw [List.dropWhile_append]
    intro e' he'
    split at he'
    · have := List.dropWhile_sublist _ |>.mem he'
      rw [List.mem_singleton.mp this]
      exact he
    · rcases List.mem_append.mp he' with hold | hnew
      · exact hhalted e' hold
      · rw [List.mem_singleton.mp hnew]
        exact he

theorem failed_note (he : e.call? = none) : (j.add e).failed = j.failed := by
  unfold failed
  rw [add_calls_of_none he]

theorem isOver_note (he : e.call? = none) : (j.add e).isOver size = (j.isOver size || e.isStop) := by
  have htotal : (j.add e).total size = j.total size := rfl
  rw [isOver, isOver, failed_note he, add_calls_of_none he, stopped_add, htotal]
  ac_rfl

theorem credit_note (he : e.call? = none) : (j.add e).credit = j.credit := by
  unfold credit
  rw [add_calls_of_none he]

/-- The next slice. -/
theorem Lawful.run (h : j.Lawful size) (hfailed : j.failed = false) (hstopped : j.stopped = false)
    (hlength : j.calls.length < j.total size) (outcome : SliceEnd) :
    (j.add (.ran (min size (j.cycles - j.calls.length * size)) outcome)).Lawful size where
  sizes := by
    rw [add_calls, List.map_append, h.sizes, List.length_append]
    exact (slices_succ size j.cycles j.calls.length).symm
  length_le := by
    rw [add_calls, List.length_append]
    exact hlength
  succeeded := by
    rw [add_calls]
    simp only [Entry.call?, Option.toList_some, List.dropLast_concat]
    exact failed_eq_false_iff.mp hfailed
  halted := by
    have hnone : ∀ e ∈ j.entries, (!e.isStop) = true := by simpa [stopped] using hstopped
    unfold add
    rw [List.dropWhile_append_of_pos hnone]
    rfl

section Credit

variable (hfailed : j.failed = false) (cycles : Nat)

include hfailed

theorem failed_add (outcome : SliceEnd) :
    (j.add (.ran cycles outcome)).failed = decide (outcome ≠ .completed) := by
  unfold failed at *
  rw [add_calls, List.any_append, hfailed]
  simp [Entry.call?]

theorem not_panicked : (j.calls.any fun c => c.2 = .panicked) = false := by
  rw [failed_eq_false_iff] at hfailed
  simp only [List.any_eq_false, decide_eq_true_eq]
  intro c hc
  rw [hfailed c hc]
  exact SliceEnd.noConfusion

theorem credit_add_completed : (j.add (.ran cycles .completed)).credit = j.credit + cycles := by
  simp [credit, add_calls, Entry.call?, not_panicked hfailed]

theorem credit_add_faulted (fault : Fault) : (j.add (.ran cycles (.faulted fault))).credit = j.credit := by
  simp [credit, add_calls, Entry.call?, not_panicked hfailed]

end Credit

theorem credit_add_panicked (j : Job) (cycles : Nat) : (j.add (.ran cycles .panicked)).credit = 0 := by
  simp [credit, add_calls, Entry.call?]

end Job

/-! ## Records -/

section Record

variable {size : Nat} {log : List Entry} {e : Entry} {j : Job} {past : List Job}

theorem record_cons (hgrant : ∀ cycles, e ≠ .granted cycles) (j : Job) (past : List Job) :
    record (j :: past) e = j.add e :: past := by
  cases e with
  | granted cycles => exact absurd rfl (hgrant cycles)
  | _ => rfl

theorem record_nil (hgrant : ∀ cycles, e ≠ .granted cycles) : record [] e = [] := by
  cases e with
  | granted cycles => exact absurd rfl (hgrant cycles)
  | _ => rfl

/-- Each call of the emulator belongs to the grant it was made for, and each grant is run as it should be. -/
structure Orderly (size : Nat) (log : List Entry) : Prop where
  calls_eq : log.filterMap Entry.call? = (jobs log).reverse.flatMap Job.calls
  lawful : ∀ j ∈ jobs log, j.Lawful size

theorem Orderly.nil (size : Nat) : Orderly size [] := ⟨rfl, fun _ h => nomatch h⟩

/-- A grant of which nothing was run yet. -/
theorem Job.lawful_new (size cycles : Nat) : (Job.mk cycles []).Lawful size :=
  ⟨rfl, Nat.zero_le _, (fun _ h => nomatch h), rfl⟩

theorem Orderly.note (h : Orderly size log) (he : e.call? = none) : Orderly size (log ++ [e]) := by
  have hcalls : (log ++ [e]).filterMap Entry.call? = (jobs log).reverse.flatMap Job.calls := by
    rw [List.filterMap_append, h.calls_eq]
    simp [he]
  have hlawful := h.lawful
  by_cases hgrant : ∃ cycles, e = .granted cycles
  · obtain ⟨cycles, rfl⟩ := hgrant
    have hjobs : jobs (log ++ [.granted cycles]) = ⟨cycles, []⟩ :: jobs log := by
      rw [jobs_snoc]
      cases jobs log <;> rfl
    refine ⟨?_, ?_⟩
    · rw [hcalls, hjobs]
      simp [Job.calls]
    · rw [hjobs]
      exact List.forall_mem_cons.mpr ⟨Job.lawful_new size cycles, hlawful⟩
  · have hgrant : ∀ cycles, e ≠ .granted cycles := fun cycles h => hgrant ⟨cycles, h⟩
    cases hjobs : jobs log with
    | nil =>
      rw [hjobs] at hcalls
      have hsame : jobs (log ++ [e]) = [] := by rw [jobs_snoc, hjobs, record_nil hgrant]
      exact ⟨by rw [hsame, hcalls], by simp [hsame]⟩
    | cons j past =>
      rw [hjobs] at hcalls hlawful
      have hadd : jobs (log ++ [e]) = j.add e :: past := by rw [jobs_snoc, hjobs, record_cons hgrant]
      refine ⟨?_, ?_⟩
      · rw [hcalls, hadd]
        simp [Job.add_calls_of_none he]
      · rw [hadd]
        obtain ⟨hj, hpast⟩ := List.forall_mem_cons.mp hlawful
        exact List.forall_mem_cons.mpr ⟨hj.note he, hpast⟩

theorem Orderly.run (h : Orderly size log) (hjobs : jobs log = j :: past) (cycles : Nat) (outcome : SliceEnd)
    (hj : (j.add (.ran cycles outcome)).Lawful size) : Orderly size (log ++ [.ran cycles outcome]) := by
  have hadd : jobs (log ++ [.ran cycles outcome]) = j.add (.ran cycles outcome) :: past := by
    rw [jobs_snoc, hjobs]
    rfl
  refine ⟨?_, ?_⟩
  · rw [hadd, List.filterMap_append, h.calls_eq, hjobs]
    simp [Job.add_calls, Entry.call?]
  · have hlawful := h.lawful
    rw [hjobs] at hlawful
    rw [hadd]
    exact List.forall_mem_cons.mpr ⟨hj, (List.forall_mem_cons.mp hlawful).2⟩

end Record

/-! ## Books -/

/-- The grant in hand is as far as the worker says. -/
structure Open (size : Nat) (w : Worker) (j : Job) : Prop where
  busy : w.isIdle = false
  failed : j.failed = false
  stopped : j.stopped = false
  left_eq : w.left + j.calls.length * size = j.cycles
  left_pos : 0 < w.left
  credit : w.drop.executed = w.executed + j.credit

/-- What a worker has in hand: a grant, or nothing. -/
def InHand (size : Nat) (w : Worker) : Option Job → Prop
  | none => w.isIdle = true
  | some j => Open size w j

/-- The grants of a log are those that are over and the one in hand. -/
structure Books (size : Nat) (log : List Entry) (w : Worker) (hand : Option Job) (past : List Job) : Prop where
  jobs_eq : jobs log = hand.toList ++ past
  ended : ∀ j ∈ past, j.isOver size = true
  executed_eq : w.executed = (past.map Job.credit).sum
  inHand : InHand size w hand

section Books

variable {size : Nat} {log : List Entry} {e : Entry} {j : Job} {past : List Job} {hand : Option Job}
  {w w' : Worker}

theorem Open.of_eq (h : Open size w j) (hactivity : w'.activity = w.activity) : Open size w' j := by
  obtain ⟨slice, activity, running, spawned, executed, fault⟩ := w
  obtain ⟨slice', activity', running', spawned', executed', fault'⟩ := w'
  subst hactivity
  refine ⟨h.busy, h.failed, h.stopped, h.left_eq, h.left_pos, ?_⟩
  cases activity' with
  | idle => cases h.busy
  | granted cycles =>
    have hcredit : executed = executed + j.credit := h.credit
    show executed' = executed' + j.credit
    omega
  | busy left done =>
    have hcredit : executed + done = executed + j.credit := h.credit
    show executed' + done = executed' + j.credit
    omega

theorem Open.note (h : Open size w j) (he : e.call? = none) (hstop : e.isStop = false) :
    Open size w (j.add e) where
  busy := h.busy
  failed := (Job.failed_note he).trans h.failed
  stopped := by
    rw [Job.stopped_add, h.stopped, hstop]
    rfl
  left_eq := by
    rw [Job.add_calls_of_none he]
    exact h.left_eq
  left_pos := h.left_pos
  credit := by
    rw [Job.credit_note he]
    exact h.credit

theorem Open.isOver (hsize : 0 < size) (h : Open size w j) : j.isOver size = false := by
  have hcycles : j.calls.length * size < j.cycles := by
    have hleft := h.left_eq
    have hpos := h.left_pos
    omega
  have hlength := (Job.lt_total_iff hsize _ j).mpr hcycles
  unfold Job.isOver
  rw [h.failed, h.stopped]
  simpa using Nat.ne_of_lt hlength

/-- A worker that is not idle has a grant in hand. -/
theorem Books.exists_open (h : Books size log w hand past) (hbusy : w.isIdle = false) :
    ∃ j, hand = some j ∧ Open size w j := by
  cases hand with
  | none =>
    have hidle : w.isIdle = true := h.inHand
    rw [hbusy] at hidle
    cases hidle
  | some j => exact ⟨j, rfl, h.inHand⟩

theorem isIdle_iff {w : Worker} : w.isIdle = true ↔ w.activity = .idle := decide_eq_true_iff

theorem drop_of_isIdle (h : w.isIdle = true) : w.drop = w := by
  unfold drop
  rw [isIdle_iff.mp h]

/-- Something that happens to an idle worker, and leaves it so. -/
theorem Books.rest (h : Books size log w none past) (he : e.call? = none)
    (hgrant : ∀ cycles, e ≠ .granted cycles) (hidle : w'.isIdle = true)
    (hexecuted : w'.executed = w.executed) : ∃ hand past, Books size (log ++ [e]) w' hand past := by
  cases past with
  | nil =>
    refine ⟨none, [], ?_, h.ended, hexecuted.trans h.executed_eq, hidle⟩
    rw [jobs_snoc, h.jobs_eq]
    exact record_nil hgrant
  | cons j past =>
    obtain ⟨hj, hpast⟩ := List.forall_mem_cons.mp h.ended
    refine ⟨none, j.add e :: past, ?_, ?_, ?_, hidle⟩
    · rw [jobs_snoc, h.jobs_eq]
      exact record_cons hgrant j past
    · refine List.forall_mem_cons.mpr ⟨?_, hpast⟩
      rw [Job.isOver_note he, hj, Bool.true_or]
    · rw [hexecuted, h.executed_eq, List.map_cons, List.map_cons, Job.credit_note he]

/-- Something that is about the grants no more than about what was run of them. -/
theorem Books.note (h : Books size log w hand past) (he : e.call? = none)
    (hgrant : ∀ cycles, e ≠ .granted cycles) (hstop : e.isStop = false)
    (hactivity : w'.activity = w.activity) (hexecuted : w'.executed = w.executed) :
    ∃ hand past, Books size (log ++ [e]) w' hand past := by
  cases hand with
  | none =>
    have hidle : w.isIdle = true := h.inHand
    rw [isIdle_iff, ← hactivity, ← isIdle_iff] at hidle
    exact h.rest he hgrant hidle hexecuted
  | some j =>
    have hopen : Open size w' j := Open.of_eq h.inHand hactivity
    refine ⟨some (j.add e), past, ?_, h.ended, hexecuted.trans h.executed_eq, hopen.note he hstop⟩
    rw [jobs_snoc, h.jobs_eq]
    exact record_cons hgrant j past

/-- The rest of the grant in hand was dropped. -/
theorem Books.stop (h : Books size log w hand past) (he : e.call? = none) (hstop : e.isStop = true)
    (hidle : w'.isIdle = true) (hexecuted : w'.executed = w.drop.executed) :
    ∃ hand past, Books size (log ++ [e]) w' hand past := by
  have hgrant : ∀ cycles, e ≠ .granted cycles := by
    rintro cycles rfl
    cases hstop
  cases hand with
  | none =>
    rw [drop_of_isIdle h.inHand] at hexecuted
    exact h.rest he hgrant hidle hexecuted
  | some j =>
    have hopen : Open size w j := h.inHand
    refine ⟨none, j.add e :: past, ?_, ?_, ?_, hidle⟩
    · rw [jobs_snoc, h.jobs_eq]
      exact record_cons hgrant j past
    · refine List.forall_mem_cons.mpr ⟨?_, h.ended⟩
      rw [Job.isOver_note he, hstop, Bool.or_true]
    · rw [hexecuted, hopen.credit, h.executed_eq, List.map_cons, List.sum_cons, Job.credit_note he,
        Nat.add_comm]

/-- A grant was accepted. -/
theorem Books.grant (h : Books size log w hand past) (hidle : w.isIdle = true) {cycles : Nat}
    (hcycles : 0 < cycles) : Books size (log ++ [.granted cycles]) { w with activity := .granted cycles }
      (some ⟨cycles, []⟩) past where
  jobs_eq := by
    cases hand with
    | some j =>
      have hbusy := h.inHand.busy
      rw [hidle] at hbusy
      cases hbusy
    | none =>
      rw [jobs_snoc, h.jobs_eq]
      cases past <;> rfl
  ended := h.ended
  executed_eq := h.executed_eq
  inHand := {
    busy := rfl
    failed := rfl
    stopped := rfl
    left_eq := by simp [left, Job.calls]
    left_pos := hcycles
    credit := rfl }

theorem Books.begin (h : Books size log w hand past) : Books size log w.begin hand past := by
  obtain ⟨slice, activity, running, spawned, executed, fault⟩ := w
  cases activity with
  | idle => exact h
  | busy left done => exact h
  | granted cycles =>
    refine ⟨h.jobs_eq, h.ended, h.executed_eq, ?_⟩
    cases hand with
    | none => cases h.inHand
    | some j =>
      have hopen : Open size _ j := h.inHand
      exact ⟨rfl, hopen.failed, hopen.stopped, hopen.left_eq, hopen.left_pos, hopen.credit⟩

section Slice

variable {left done : Nat} (hopen : Open size w j) (hbusy : w.activity = .busy left done)

include hopen hbusy

theorem Open.left_done : left + j.calls.length * size = j.cycles ∧ 0 < left ∧ j.credit = done := by
  obtain ⟨slice, activity, running, spawned, executed, fault⟩ := w
  subst hbusy
  have hcredit : executed + done = executed + j.credit := hopen.credit
  exact ⟨hopen.left_eq, hopen.left_pos, by omega⟩

/-- A slice is the next of the grant. -/
theorem Open.min_left : min left size = min size (j.cycles - j.calls.length * size) := by
  obtain ⟨hleft, -⟩ := hopen.left_done hbusy
  rw [Nat.min_comm, ← hleft, Nat.add_sub_cancel]

theorem Open.lawful_run (hsize : 0 < size) (h : j.Lawful size) (outcome : SliceEnd) :
    (j.add (.ran (min left size) outcome)).Lawful size := by
  obtain ⟨hleft, hpos, -⟩ := hopen.left_done hbusy
  rw [hopen.min_left hbusy]
  refine h.run hopen.failed hopen.stopped ?_ outcome
  rw [Job.lt_total_iff hsize]
  omega

end Slice

/-- A slice ended. -/
theorem Books.slice (h : Books size log w hand past) (hsize : 0 < size) {left done : Nat}
    (hbusy : w.activity = .busy left done) (outcome : SliceEnd) :
    ∃ hand past, Books size (log ++ [.ran (min left size) outcome])
      (w.afterSlice left done (min left size) outcome) hand past := by
  obtain ⟨j, rfl, hopen⟩ := h.exists_open (isIdle_of_busy hbusy)
  obtain ⟨hleft, hpos, hcredit⟩ := hopen.left_done hbusy
  have hjobs : jobs (log ++ [.ran (min left size) outcome]) =
      j.add (.ran (min left size) outcome) :: past := by
    rw [jobs_snoc, h.jobs_eq]
    rfl
  have hlength : (j.add (.ran (min left size) outcome)).calls.length = j.calls.length + 1 := by
    rw [Job.add_calls, List.length_append]
    rfl
  have hfailed := Job.failed_add hopen.failed (min left size) outcome
  have hstopped : (j.add (.ran (min left size) outcome)).stopped = false := by
    rw [Job.stopped_add, hopen.stopped]
    rfl
  -- the grant is over, and counts what is added to the cycles executed
  have hover {w' : Worker} (hidle : w'.isIdle = true)
      (hdone : (j.add (.ran (min left size) outcome)).isOver size = true)
      (hexecuted : w'.executed = w.executed + (j.add (.ran (min left size) outcome)).credit) :
      ∃ hand past, Books size (log ++ [.ran (min left size) outcome]) w' hand past := by
    refine ⟨none, _ :: past, hjobs, List.forall_mem_cons.mpr ⟨hdone, h.ended⟩, ?_, hidle⟩
    rw [hexecuted, h.executed_eq, List.map_cons, List.sum_cons, Nat.add_comm]
  cases outcome with
  | completed =>
    have hadded := Job.credit_add_completed hopen.failed (min left size)
    unfold afterSlice
    dsimp only
    split
    · next hused =>
      refine hover rfl ?_ (by rw [hadded, hcredit]; rfl)
      have hend : (j.add (.ran (min left size) .completed)).calls.length =
          (j.add (.ran (min left size) .completed)).total size := by
        have hnow := (Job.lt_total_iff hsize j.calls.length j).mpr (by omega)
        have hnext := mt (Job.lt_total_iff hsize (j.calls.length + 1) j).mp (by rw [Nat.succ_mul]; omega)
        rw [hlength]
        show _ = j.total size
        omega
      simp [Job.isOver, hend]
    · next hmore =>
      refine ⟨some _, past, hjobs, h.ended, h.executed_eq, rfl, hfailed, hstopped, ?_, ?_, ?_⟩
      · rw [hlength, Nat.succ_mul]
        show left - min left size + _ = j.cycles
        omega
      · show 0 < left - min left size
        omega
      · rw [hadded, hcredit]
        rfl
  | faulted fault =>
    refine hover rfl (by simp [Job.isOver, hfailed]) ?_
    rw [Job.credit_add_faulted hopen.failed, hcredit]
    rfl
  | panicked =>
    refine hover rfl (by simp [Job.isOver, hfailed]) ?_
    rw [Job.credit_add_panicked]
    rfl

/-- The worker is idle exactly if all grants are over. -/
theorem Books.isIdle_iff_over (h : Books size log w hand past) (hsize : 0 < size) :
    w.isIdle = true ↔ ∀ j ∈ jobs log, j.isOver size = true := by
  rw [h.jobs_eq]
  cases hand with
  | none => exact ⟨fun _ => h.ended, fun _ => h.inHand⟩
  | some j =>
    have hopen : Open size w j := h.inHand
    constructor
    · intro hidle
      rw [hopen.busy] at hidle
      cases hidle
    · intro hover
      have hj := hover j List.mem_cons_self
      rw [hopen.isOver hsize] at hj
      cases hj

theorem Books.executed_eq_sum (h : Books size log w hand past) (hsize : 0 < size) :
    w.executed = (((jobs log).filter (Job.isOver size)).map Job.credit).sum := by
  have hpast : past.filter (Job.isOver size) = past := List.filter_eq_self.mpr h.ended
  have hhand : hand.toList.filter (Job.isOver size) = [] := by
    cases hand with
    | none => rfl
    | some j =>
      have hopen : Open size w j := h.inHand
      simp [hopen.isOver hsize]
  rw [h.executed_eq, h.jobs_eq, List.filter_append, hhand, hpast, List.nil_append]

end Books

/-! ## Accounts -/

/-- A worker that is as its log says. -/
structure Accounts (size : Nat) (log : List Entry) (w : Worker) : Prop where
  slice_eq : w.slice = size
  running_eq : w.running = started log
  thread : w.running = true → w.spawned = true
  busy : w.isIdle = false → w.running = true
  fault_eq : w.fault = outstanding log
  orderly : Orderly size log
  books : ∃ hand past, Books size log w hand past

theorem new_accounts (slice : Nat) : Accounts (max slice 1) [] (new slice) :=
  ⟨rfl, rfl, (fun h => nomatch h), (fun h => nomatch h), rfl, Orderly.nil _,
    none, [], rfl, (fun _ h => nomatch h), rfl, rfl⟩

section Accounts

variable {size : Nat} {log : List Entry} {e : Entry} {w w' : Worker}

theorem Accounts.begin (h : Accounts size log w) : Accounts size log w.begin := by
  obtain ⟨hand, past, hbooks⟩ := h.books
  have hbooks' := hbooks.begin
  obtain ⟨slice, activity, running, spawned, executed, fault⟩ := w
  cases activity with
  | idle => exact h
  | busy left done => exact h
  | granted cycles =>
    exact ⟨h.slice_eq, h.running_eq, h.thread, fun _ => h.busy rfl, h.fault_eq, h.orderly, hand, past, hbooks'⟩

/-- A slice ended. -/
theorem Accounts.slice (h : Accounts size log w) (hsize : 0 < size) {left done : Nat}
    (hbusy : w.activity = .busy left done) (outcome : SliceEnd) :
    Accounts size (log ++ [.ran (min left size) outcome])
      (w.afterSlice left done (min left size) outcome) := by
  obtain ⟨hand, past, hbooks⟩ := h.books
  have hbooks' := hbooks.slice hsize hbusy outcome
  have horderly : Orderly size (log ++ [.ran (min left size) outcome]) := by
    obtain ⟨j, rfl, hopen⟩ := hbooks.exists_open (isIdle_of_busy hbusy)
    have hj : j.Lawful size := h.orderly.lawful j (by rw [hbooks.jobs_eq]; exact List.mem_cons_self)
    exact h.orderly.run hbooks.jobs_eq _ _ (hopen.lawful_run hbusy hsize hj outcome)
  have hrunning : w.running = true := h.busy (isIdle_of_busy hbusy)
  cases outcome with
  | completed =>
    have hstarted : w.running = started (log ++ [.ran (min left size) .completed]) := by
      rw [started_snoc]
      exact h.running_eq
    have hfault : w.fault = outstanding (log ++ [.ran (min left size) .completed]) := by
      rw [outstanding_snoc rfl rfl rfl]
      exact h.fault_eq
    unfold afterSlice at *
    dsimp only at *
    split at hbooks'
    · next hused =>
      rw [if_pos hused]
      exact ⟨h.slice_eq, hstarted, h.thread, fun _ => hrunning, hfault, horderly, hbooks'⟩
    · next hmore =>
      rw [if_neg hmore]
      exact ⟨h.slice_eq, hstarted, h.thread, fun _ => hrunning, hfault, horderly, hbooks'⟩
  | faulted fault =>
    refine ⟨h.slice_eq, ?_, h.thread, fun _ => hrunning, ?_, horderly, hbooks'⟩
    · rw [started_snoc]
      exact h.running_eq
    · rw [outstanding_snoc_faulted]
      rfl
  | panicked =>
    refine ⟨h.slice_eq, ?_, (fun hrun => nomatch hrun), (fun hidle => nomatch hidle), ?_, horderly, hbooks'⟩
    · rw [started_snoc]
      rfl
    · rw [outstanding_snoc_panicked, ← h.fault_eq]
      rfl

theorem Accounts.paced (h : Accounts size log w) (hsize : 0 < size) : w.Paced := by
  refine ⟨h.slice_eq ▸ hsize, fun hbusy => ?_⟩
  obtain ⟨hand, past, hbooks⟩ := h.books
  obtain ⟨j, -, hopen⟩ := hbooks.exists_open hbusy
  exact hopen.left_pos

/-- The rest of the grant in hand was dropped, and the worker is idle. -/
theorem Accounts.stop (h : Accounts size log w) (he : e.call? = none) (hstop : e.isStop = true)
    (hslice : w'.slice = w.slice) (hidle : w'.isIdle = true) (hexecuted : w'.executed = w.drop.executed)
    (hrunning : w'.running = started (log ++ [e])) (hthread : w'.running = true → w'.spawned = true)
    (hfault : w'.fault = outstanding (log ++ [e])) : Accounts size (log ++ [e]) w' where
  slice_eq := hslice.trans h.slice_eq
  running_eq := hrunning
  thread := hthread
  busy hbusy := by
    rw [hidle] at hbusy
    cases hbusy
  fault_eq := hfault
  orderly := h.orderly.note he
  books := by
    obtain ⟨hand, past, hbooks⟩ := h.books
    exact hbooks.stop he hstop hidle hexecuted

/-- What dropping a grant leaves alone. -/
theorem drop_switches (w : Worker) : w.drop.running = w.running ∧ w.drop.spawned = w.spawned ∧
    w.drop.fault = w.fault := by
  obtain ⟨slice, activity, running, spawned, executed, fault⟩ := w
  cases activity <;> exact ⟨rfl, rfl, rfl⟩

theorem Accounts.cancel (h : Accounts size log w) : Accounts size (log ++ [.cancelled]) w.drop.takeFault.2 := by
  obtain ⟨hrunning, hspawned, -⟩ := w.drop_switches
  refine h.stop rfl rfl w.drop_slice w.drop_isIdle rfl ?_ ?_ ?_
  · rw [started_snoc]
    exact hrunning.trans h.running_eq
  · show w.drop.running = true → w.drop.spawned = true
    rw [hrunning, hspawned]
    exact h.thread
  · exact (outstanding_snoc_of_clears rfl).symm

theorem Accounts.join (h : Accounts size log w) :
    Accounts size (log ++ [.shutDown]) { w.drop with running := false, spawned := false } := by
  obtain ⟨-, -, hfault⟩ := w.drop_switches
  refine h.stop rfl rfl w.drop_slice w.drop_isIdle rfl ?_ (fun hrun => nomatch hrun) ?_
  · rw [started_snoc]
    rfl
  · rw [outstanding_snoc rfl rfl rfl]
    exact hfault.trans h.fault_eq

/-- The host did something that is not about what was run. -/
theorem Accounts.note (h : Accounts size log w) (he : e.call? = none)
    (hgrant : ∀ cycles, e ≠ .granted cycles) (hstop : e.isStop = false)
    (hslice : w'.slice = w.slice) (hactivity : w'.activity = w.activity) (hexecuted : w'.executed = w.executed)
    (hrunning : w'.running = started (log ++ [e])) (hthread : w'.running = true → w'.spawned = true)
    (hbusy : w.running = true → w'.running = true)
    (hfault : w'.fault = outstanding (log ++ [e])) : Accounts size (log ++ [e]) w' where
  slice_eq := hslice.trans h.slice_eq
  running_eq := hrunning
  thread := hthread
  busy hw := by
    unfold isIdle at hw
    rw [hactivity] at hw
    exact hbusy (h.busy hw)
  fault_eq := hfault
  orderly := h.orderly.note he
  books := by
    obtain ⟨hand, past, hbooks⟩ := h.books
    exact hbooks.note he hgrant hstop hactivity hexecuted

theorem Accounts.takeFault (h : Accounts size log w) : Accounts size (log ++ [.taken]) w.takeFault.2 := by
  refine h.note rfl (fun _ hgrant => nomatch hgrant) rfl rfl rfl rfl ?_ h.thread id ?_
  · rw [started_snoc]
    exact h.running_eq
  · exact (outstanding_snoc_of_clears rfl).symm

theorem Accounts.start (h : Accounts size log w) (refusal : Option String) :
    Accounts size (log ++ w.entries (.start refusal)) (w.start refusal).2 := by
  have hstarted : started (log ++ [.started]) = true := by
    rw [started_snoc]
    rfl
  have hfault : w.fault = outstanding (log ++ [.started]) := by
    rw [outstanding_snoc rfl rfl rfl]
    exact h.fault_eq
  unfold entries
  rcases w.start_cases refusal with ⟨hrunning, he⟩ | ⟨-, he⟩ | ⟨reason, -, hrunning, he⟩ <;> dsimp only <;>
    rw [he] <;> dsimp only
  · exact h.note rfl (fun _ hgrant => nomatch hgrant) rfl rfl rfl rfl (hrunning.trans hstarted.symm) h.thread id
      hfault
  · exact h.note rfl (fun _ hgrant => nomatch hgrant) rfl rfl rfl rfl hstarted.symm (fun _ => rfl)
      (fun _ => rfl) hfault
  · -- nothing is started, and a dead thread is joined
    rw [List.append_nil]
    obtain ⟨hand, past, hbooks⟩ := h.books
    refine ⟨h.slice_eq, h.running_eq, fun hruns => ?_, h.busy, h.fault_eq, h.orderly, hand, past,
      hbooks.jobs_eq, hbooks.ended, hbooks.executed_eq, ?_⟩
    · cases hrunning.symm.trans hruns
    · have hhand := hbooks.inHand
      cases hand with
      | none => exact hhand
      | some j => exact Open.of_eq hhand rfl

theorem grant_accepted {cycles : Nat} :
    (w.grant cycles).1 = true ↔ w.running = true ∧ w.isIdle = true ∧ 0 < cycles := by
  unfold grant
  split <;> simp_all [Nat.pos_iff_ne_zero]

theorem Accounts.grant (h : Accounts size log w) (cycles : Nat) :
    Accounts size (log ++ w.entries (.grant cycles)) (w.grant cycles).2 := by
  by_cases haccepted : (w.grant cycles).1 = true
  · obtain ⟨hrunning, hidle, hcycles⟩ := grant_accepted.mp haccepted
    have hentries : w.entries (.grant cycles) = [.granted cycles] := if_pos haccepted
    obtain ⟨hand, past, hbooks⟩ := h.books
    rw [hentries, grant_of_isIdle hrunning hidle hcycles]
    refine ⟨h.slice_eq, ?_, h.thread, fun _ => hrunning, ?_, h.orderly.note rfl, _, past,
      hbooks.grant hidle hcycles⟩
    · rw [started_snoc]
      exact h.running_eq
    · rw [outstanding_snoc rfl rfl rfl]
      exact h.fault_eq
  · have hentries : w.entries (.grant cycles) = [] := if_neg haccepted
    have hsame : (w.grant cycles).2 = w := by
      unfold Worker.grant at haccepted ⊢
      split at haccepted
      · exact absurd rfl haccepted
      · next hc => rw [if_neg hc]
    rw [hentries, hsame, List.append_nil]
    exact h

end Accounts

/-! ## Runs -/

section Runs

variable {size : Nat} {w : Worker} (run : Nat → σ → SliceEnd × σ)

theorem runSlice_accounts (hsize : 0 < size) {x : σ × List Entry} (h : Accounts size x.2 w) :
    Accounts size (w.runSlice (recording run) x).2.2 (w.runSlice (recording run) x).1 := by
  unfold runSlice
  split
  · next left done hbusy =>
    rw [h.slice_eq]
    exact h.slice hsize hbusy _
  · exact h

theorem runSlices_accounts (hsize : 0 < size) (n : Nat) {x : σ × List Entry} (h : Accounts size x.2 w) :
    Accounts size (runSlices (recording run) n w x).2.2 (runSlices (recording run) n w x).1 := by
  induction n generalizing w x with
  | zero => exact h
  | succ n ih =>
    unfold runSlices
    split
    · exact h
    · exact ih (runSlice_accounts run hsize h)

/-- The cancellation meets the thread inside of a slice or not. -/
theorem cancel_accounts (hsize : 0 < size) (inside : Bool) {x : σ × List Entry} (h : Accounts size x.2 w) :
    let y := (if inside then w else w.drop).cancel (recording run) x
    Accounts size (y.2.2 ++ [.cancelled]) y.1 := by
  cases inside with
  | true => exact (runSlice_accounts run hsize h).cancel
  | false =>
    rw [if_neg Bool.false_ne_true, cancel_of_isIdle (recording run) w.drop_isIdle]
    exact h.cancel

theorem shutdown_accounts (hsize : 0 < size) (inside : Bool) {x : σ × List Entry} (h : Accounts size x.2 w) :
    let y := (if inside then w else w.drop).shutdown (recording run) x
    Accounts size (y.2.2 ++ [.shutDown]) y.1 := by
  obtain ⟨hrunning, hspawned, -⟩ := w.drop_switches
  have hoff : (w.drop.running && !w.drop.spawned) = false := by
    have hthread := h.thread
    rw [hrunning, hspawned]
    cases hrun : w.running with
    | false => rfl
    | true => rw [hthread hrun]; rfl
  have hdrop (x : σ × List Entry) : w.drop.shutdown (recording run) x =
      ({ w.drop with running := false, spawned := false }, x) := by
    rw [shutdown_of_isIdle (recording run) w.drop_isIdle, hoff]
  cases inside with
  | false =>
    rw [if_neg Bool.false_ne_true, hdrop]
    exact h.join
  | true =>
    rw [if_pos rfl]
    by_cases hthread : w.spawned = true
    · unfold Worker.shutdown
      rw [if_pos hthread]
      exact (runSlice_accounts run hsize h).join
    · -- without a thread there is nothing in hand
      have hidle : w.isIdle = true := by
        by_contra hbusy
        exact hthread (h.thread (h.busy (Bool.eq_false_iff.mpr hbusy)))
      have hsame : w.drop = w := drop_of_isIdle hidle
      rw [← hsame, hdrop]
      exact h.join

theorem perform_accounts (hsize : 0 < size) (c : Call) {x : Worker × σ × List Entry}
    (h : Accounts size x.2.2 x.1) : Accounts size (perform run c x).2.2 (perform run c x).1 := by
  cases c with
  | start refusal => exact h.start refusal
  | grant cycles => exact h.grant cycles
  | takeFault => exact h.takeFault
  | cancel inside => exact cancel_accounts run hsize inside h
  | shutdown inside => exact shutdown_accounts run hsize inside h
  | quiesce =>
    unfold perform
    rw [show x.1.entries .quiesce = [] from rfl]
    simp only [List.append_nil]
    exact runSlices_accounts run hsize _ h.begin
  | progress slices =>
    unfold perform
    rw [show x.1.entries (.progress slices) = [] from rfl]
    simp only [List.append_nil]
    exact runSlices_accounts run hsize slices h.begin

theorem logged_accounts (slice : Nat) (s : σ) (cs : List Call) :
    Accounts (max slice 1) (logged run slice s cs).2.2 (logged run slice s cs).1 := by
  induction cs using List.reverseRecOn with
  | nil => exact new_accounts slice
  | append_singleton cs c ih =>
    rw [logged_snoc]
    exact perform_accounts run (by omega) c ih

end Runs

/-- A worker and an emulator of any kind, after any calls of the host and as much progress of the thread in
between as may be.  The worker is idle exactly if all grants are over, takes a grant exactly if it was last
started, is idle and the grant is of some cycles, and is idle once it was waited for.  Each call of the
emulator belongs to a grant.  A grant is run slice by slice, its last call alone may have failed, no call comes
after a cancellation and no cycle is run twice; a grant that is over, and neither failed nor was cancelled, was
run to its end.  What was executed is what succeeded in the grants that are over, unless the emulator panicked.
The failure that is taken is the latest that nobody took or discarded. -/
theorem slices_accounted (run : Nat → σ → SliceEnd × σ) (slice : Nat) (s : σ) (cs : List Call) :
    let size := max slice 1
    let w := (logged run slice s cs).1
    let log := (logged run slice s cs).2.2
    acts run cs (new slice) s = (w, (logged run slice s cs).2.1) ∧
    (w.isIdle = true ↔ ∀ j ∈ jobs log, j.isOver size = true) ∧
    (∀ cycles, (w.grant cycles).1 = true ↔ started log = true ∧ w.isIdle = true ∧ 0 < cycles) ∧
    (∀ t, (w.quiesce run t).1.isIdle = true) ∧
    log.filterMap Entry.call? = (jobs log).reverse.flatMap Job.calls ∧
    (∀ j ∈ jobs log, j.Lawful size ∧ (j.calls.map Prod.fst).sum ≤ j.cycles ∧
      (j.isOver size = true → j.failed = false → ¬ j.Cancelled size →
        j.calls.length = (j.cycles + size - 1) / size)) ∧
    w.executed = (((jobs log).filter (Job.isOver size)).map Job.credit).sum ∧
    w.takeFault = (outstanding log, { w with fault := none }) := by
  intro size w log
  have hsize : 0 < size := by omega
  have h : Accounts size log w := logged_accounts run slice s cs
  obtain ⟨hand, past, hbooks⟩ := h.books
  refine ⟨acts_eq_logged run slice s cs, ?_, fun cycles => ?_, fun t => ?_, h.orderly.calls_eq,
    fun j hj => ⟨h.orderly.lawful j hj, (h.orderly.lawful j hj).sum_le, ?_⟩, ?_, ?_⟩
  · exact hbooks.isIdle_iff_over hsize
  · rw [grant_accepted, h.running_eq]
  · exact quiesce_isIdle run (h.paced hsize) t
  · exact (h.orderly.lawful j hj).length_eq
  · exact hbooks.executed_eq_sum hsize
  · rw [takeFault, h.fault_eq]

end Worker

end DeviceBus
