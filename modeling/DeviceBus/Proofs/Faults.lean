import DeviceBus.Proofs.Emulation
import DeviceBus.Proofs.Machine.Stale
import DeviceBus.Proofs.RunStates

/-!
# Failures stay in their session

A session of a machine lasts as long as the machine runs and takes over no record.  What its emulator
raises in a session is found by the next tick of that session that steps the emulation, whatever swaps,
suspensions and ticks on a bus that is not ready come between, and the machine halts with it; if nothing
was raised in the session the tick does not halt (`World.fault_halts_its_session`).

A slice may fail after a tick looked for a failure and before the tick looks whether the worker is idle.  Such
a tick may grant cycles, and a later slice may raise a second failure in its place
(`World.RaisedLate`): the machine halts then with one of those that its session raised.  What it halted with
stays its boot error until it runs again (`World.fault_shows_again_or_is_replaced`).

A finalization may leave a failure with the worker.  The world in which it is forgotten gives the same
answers from there on, so it neither halts a later session nor becomes its boot error.
-/

namespace DeviceBus

open Event (Silent)
open Machine (Closes Leaves)

theorem Event.raised?_of_heard? {id : MachineId} {e : Event} (h : e.heard? id = none) :
    e.raised? id = none := by
  cases e with
  | emulator machine call =>
    have hne : machine ≠ id := by
      rintro rfl
      cases (if_pos rfl).symm.trans h
    cases call with
    | run cycles outcome input output => exact if_neg hne
    | _ => rfl
  | _ => rfl

theorem Event.Silent.mild {e : Event} (h : e.Silent) : e.Mild := fun id => raised?_of_heard? (h id)

/-- Another list of calls that another emulator received raises nothing. -/
theorem Hardware.Adds.yields_unheard {hw hw' : Hardware} {id : MachineId}
    (h : hw.Adds (·.heard? id = none) hw') : hw.Yields id none hw' := by
  obtain ⟨es, hes, hunheard⟩ := h
  refine ⟨es, hes, List.findSome?_eq_none_iff.2 fun e he => ?_⟩
  exact Event.raised?_of_heard? (hunheard e (List.mem_reverse.1 he))

namespace World

/-- The failure that the emulator of the machine at a position raises in an operation. -/
def raised (i : Nat) (w : World) (op : Op) : Option Fault := (w.calls op).findSome? (Event.raised? ⟨i⟩)

/-- Something came about in an operation, and the machine at a position runs ever since and took over no
record. -/
def InSession (i : Nat) (happened : World → Op → Prop) (ops : List Op) : Prop :=
  ∃ pre op post, ops = pre ++ op :: post ∧ happened (empty.run pre) op ∧
    (empty.run (pre ++ [op])).KeepsRunning i post ∧ ∀ o ∈ op :: post, o.takesRecord i = false

/-- The emulator of the machine at a position raised a failure in the session that goes on. -/
def RaisedInSession (i : Nat) (failure : Fault) (ops : List Op) : Prop :=
  InSession i (fun w op => w.raised i op = some failure) ops

/-- A slice failed in the session that goes on after a tick looked for a failure. -/
def RaisedLate (i : Nat) (ops : List Op) : Prop :=
  InSession i (fun w op => (w.lateFault? i op).isSome = true) ops

/-- The world in which the failure is forgotten that the worker of the machine at a position has. -/
def forget (i : Nat) (w : World) : World := { w with stations := w.stations.modify i Station.forget }

variable {w : World} {i : Nat} {station : Station} {op : Op} {ops : List Op}

/-! ## Operations -/

/-- What an operation of the host leaves of a failure, unless it has the machine take over a record. -/
theorem step_leaves (hs : (empty.run ops).stations[i]? = some station) (hop : op.takesRecord i = false) :
    ∃ station', ((empty.run ops).step op).2.stations[i]? = some station' ∧
      Leaves ((empty.run ops).raised i op) (station.machine, (empty.run ops).site.hardware)
        (station'.machine, ((empty.run ops).step op).2.site.hardware) := by
  have hm := machine?_of_station hs
  have hid : station.machine.id = ⟨i⟩ := machine?_id ops hm
  have hsound := run_sound ops hm
  have hposed := run_poised ops hm
  obtain ⟨station', failure, hs', hleaves⟩ : ∃ station' failure,
      ((empty.run ops).step op).2.stations[i]? = some station' ∧
      Leaves failure (station.machine, (empty.run ops).site.hardware)
        (station'.machine, ((empty.run ops).step op).2.site.hardware) := by
    cases hown : op.isOf i with
    | true =>
      cases op with
      | machine j mop =>
        obtain rfl : j = i := of_decide_eq_true hown
        have hload : ∀ r, mop ≠ .loadRecord r := by
          rintro r rfl
          exact absurd (decide_eq_true rfl) (ne_true_of_eq_false hop)
        obtain ⟨failure, hleaves⟩ := Station.step_leaves hsound hposed (empty.run ops).site hload
        refine ⟨_, failure, step_machine? hs mop, ?_⟩
        rw [step_site hs mop]
        exact hleaves
      | _ => cases hown
    | false =>
      obtain ⟨station', hs', hcases⟩ := step_other_cases hs (fun j m hm => machine?_id ops hm) hown
      refine ⟨station', ?_⟩
      rcases hcases with ⟨rfl, hadds⟩ | ⟨hwaited, hadds⟩
      · have hsame := (Closes.refl hsound (empty.run ops).site.hardware).toLeaves
        exact ⟨none, hs', rfl, hid ▸ hadds.yields_unheard, hsame.sound, hsame.pends, hsame.spared,
          hsame.still⟩
      · obtain ⟨failure, hquiesce⟩ := Machine.quiesce_bears hsound.worker (empty.run ops).site.hardware
        have hbears := hquiesce.idles (Machine.idles_of_adds _ (hadds.mono fun _ => Event.Silent.mild))
        refine ⟨failure, hs', ?_⟩
        rw [hwaited]
        exact (hbears.closes hsound rfl fun hsome => hsome).toLeaves
  have hraised : (empty.run ops).raised i op = failure := by
    have hyields := hleaves.yields
    rw [hid] at hyields
    exact hyields.callsTo
  rw [hraised]
  exact ⟨station', hs', hleaves⟩

/-! ## Sessions -/

theorem takesRecord_iff : op.takesRecord i = true ↔ ∃ r, op = .machine i (.loadRecord r) := by
  constructor
  · intro h
    cases op with
    | machine j mop =>
      cases mop with
      | loadRecord r =>
        obtain rfl : j = i := of_decide_eq_true h
        exact ⟨r, rfl⟩
      | _ => cases h
    | _ => cases h
  · rintro ⟨r, rfl⟩
    exact decide_eq_true rfl

theorem keepsRunning_nil : w.KeepsRunning i [] ↔ (w.machine? i).map Machine.runState = some .running := by
  constructor
  · exact fun h => h [] (List.prefix_refl [])
  · intro h q hq
    rw [List.prefix_nil.1 hq]
    exact h

theorem keepsRunning_snoc : w.KeepsRunning i (ops ++ [op]) ↔
    w.KeepsRunning i ops ∧ ((w.run (ops ++ [op])).machine? i).map Machine.runState = some .running := by
  constructor
  · exact fun h => ⟨fun q hq => h q (hq.trans (List.prefix_append _ _)), h _ (List.prefix_refl _)⟩
  · rintro ⟨hkeeps, hrunning⟩ q hq
    rcases List.prefix_concat_iff.1 hq with rfl | hq
    · exact hrunning
    · exact hkeeps q hq

theorem InSession.running {happened : World → Op → Prop} (h : InSession i happened ops) :
    ((empty.run ops).machine? i).map Machine.runState = some .running := by
  obtain ⟨pre, op, post, rfl, -, hkeeps, -⟩ := h
  have hlast := hkeeps post (List.prefix_refl post)
  rwa [← run_append, List.append_assoc] at hlast

/-- What came about in the session that goes on did so in the last operation or before. -/
theorem inSession_snoc {happened : World → Op → Prop} :
    InSession i happened (ops ++ [op]) ↔
      ((empty.run (ops ++ [op])).machine? i).map Machine.runState = some .running ∧
        op.takesRecord i = false ∧
        (happened (empty.run ops) op ∨ InSession i happened ops) := by
  constructor
  · intro h
    have hrunning := h.running
    obtain ⟨pre, o, post, heq, hhappened, hkeeps, hrecord⟩ := h
    refine ⟨hrunning, ?_⟩
    induction post using List.reverseRecOn with
    | nil =>
      obtain ⟨rfl, hlast⟩ := List.append_inj' heq rfl
      cases hlast
      exact ⟨hrecord op List.mem_cons_self, .inl hhappened⟩
    | append_singleton post o' _ =>
      rw [← List.cons_append, ← List.append_assoc] at heq
      obtain ⟨rfl, hlast⟩ := List.append_inj' heq rfl
      cases hlast
      rw [← List.cons_append] at hrecord
      exact ⟨hrecord op (List.mem_append_right _ (List.mem_singleton_self op)),
        .inr ⟨pre, o, post, rfl, hhappened, (keepsRunning_snoc.1 hkeeps).1,
          fun o' ho' => hrecord o' (List.mem_append_left _ ho')⟩⟩
  · rintro ⟨hrunning, hop, hhappened | ⟨pre, o, post, rfl, hhappened, hkeeps, hrecord⟩⟩
    · refine ⟨ops, op, [], rfl, hhappened, keepsRunning_nil.2 hrunning, fun o ho => ?_⟩
      rw [List.mem_singleton.1 ho]
      exact hop
    · refine ⟨pre, o, post ++ [op], by simp, hhappened, keepsRunning_snoc.2 ⟨hkeeps, ?_⟩, fun o' ho' => ?_⟩
      · rw [← run_append]
        simpa using hrunning
      · rw [← List.cons_append] at ho'
        rcases List.mem_append.1 ho' with ho' | ho'
        · exact hrecord o' ho'
        · rw [List.mem_singleton.1 ho']
          exact hop

theorem takesRecord_fault {before : Station} (hbefore : (empty.run ops).stations[i]? = some before)
    (hop : op.takesRecord i = true) (hs : ((empty.run ops).step op).2.stations[i]? = some station) :
    station.machine.worker.fault = none := by
  obtain ⟨r, rfl⟩ := takesRecord_iff.1 hop
  rw [← Option.some.inj ((step_machine? hbefore _).symm.trans hs)]
  exact (Machine.loadRecord_sound (run_sound ops (machine?_of_station hbefore)) r _).2

/-- A session begins with nothing pending. -/
theorem step_begins {before : Station} (hbefore : (empty.run ops).stations[i]? = some before)
    (hnot : before.machine.runState ≠ .running)
    (hs : ((empty.run ops).step op).2.stations[i]? = some station)
    (hrun : station.machine.runState = .running) : station.machine.worker.fault = none := by
  cases hop : op.takesRecord i with
  | true => exact takesRecord_fault hbefore hop hs
  | false =>
    obtain ⟨station', hs', hleaves⟩ := step_leaves hbefore hop
    obtain rfl : station' = station := Option.some.inj (hs'.symm.trans hs)
    have hpends := hleaves.pends hrun
    rw [Machine.pending_of_running hrun, Machine.pending_of_not_running hnot, hleaves.still hnot] at hpends
    exact Worker.none_pends.1 hpends

/-- An operation has a worker that failed hold cycles only if it failed after a tick looked for a failure. -/
theorem step_prompt {before : Station} (hbefore : w.stations[i]? = some before)
    (hprompt : before.machine.worker.Prompt) (hlate : w.lateFault? i op = none)
    (hs : (w.step op).2.stations[i]? = some station) : station.machine.worker.Prompt := by
  obtain ⟨station', hs', hcases⟩ := step_station hbefore op
  obtain rfl : station' = station := Option.some.inj (hs'.symm.trans hs)
  rcases hcases with rfl | rfl | ⟨mop, rfl, rfl⟩
  · exact hprompt
  · have hquiesce : MachineOp.quiesce ≠ .tick := by simp
    exact (before.step_goesOn w.site hquiesce).prompt hprompt
  · by_cases htick : mop = .tick
    · subst htick
      rw [lateFault?_tick hbefore] at hlate
      exact Machine.tick_prompt hprompt before.energy hlate
    · exact (before.step_goesOn w.site htick).prompt hprompt

/-- While a machine runs its worker holds no cycles once it failed, unless it failed after a tick looked for a
failure. -/
theorem run_prompt (hs : (empty.run ops).stations[i]? = some station)
    (hrun : station.machine.runState = .running) (hlate : ¬RaisedLate i ops) :
    station.machine.worker.Prompt := by
  induction ops using List.reverseRecOn generalizing station with
  | nil => cases hs
  | append_singleton ops op ih =>
    have hrunning : ((empty.run (ops ++ [op])).machine? i).map Machine.runState = some .running := by
      rw [machine?_of_station hs, Option.map_some, hrun]
    rw [run_snoc] at hs
    rcases step_station_inv hs with ⟨before, hbefore⟩ | ⟨root, emulator, config, sink, -, hbuilt⟩
    · cases hop : op.takesRecord i with
      | true => exact Worker.prompt_of_fault (takesRecord_fault hbefore hop hs)
      | false =>
        by_cases hstate : before.machine.runState = .running
        · rw [RaisedLate, inSession_snoc, and_iff_right hrunning, and_iff_right hop, not_or,
            Option.not_isSome_iff_eq_none] at hlate
          exact step_prompt hbefore (ih hbefore hstate hlate.2) hlate.1 hs
        · exact Worker.prompt_of_fault (step_begins hbefore hstate hs hrun)
    · rw [hbuilt] at hrun
      cases hrun

/-- While a machine runs its worker has a failure that was raised in the session, if one was; and if none was
raised late it has the only one. -/
theorem run_pending (hs : (empty.run ops).stations[i]? = some station)
    (hrun : station.machine.runState = .running) (failure : Fault) :
    (station.machine.worker.fault = some failure → RaisedInSession i failure ops) ∧
      (RaisedInSession i failure ops → station.machine.worker.fault.isSome = true ∧
        (¬RaisedLate i ops → station.machine.worker.fault = some failure)) := by
  induction ops using List.reverseRecOn generalizing station with
  | nil => cases hs
  | append_singleton ops op ih =>
    have hrunning : ((empty.run (ops ++ [op])).machine? i).map Machine.runState = some .running := by
      rw [machine?_of_station hs, Option.map_some, hrun]
    unfold RaisedLate RaisedInSession
    rw [inSession_snoc, inSession_snoc, and_iff_right hrunning, and_iff_right hrunning]
    rw [run_snoc] at hs
    rcases step_station_inv hs with ⟨before, hbefore⟩ | ⟨root, emulator, config, sink, -, hbuilt⟩
    · cases hop : op.takesRecord i with
      | true =>
        rw [takesRecord_fault hbefore hop hs]
        exact ⟨nofun, fun h => nomatch h.1⟩
      | false =>
        rw [and_iff_right rfl, and_iff_right rfl]
        obtain ⟨station', hs', hleaves⟩ := step_leaves hbefore hop
        obtain rfl : station' = station := Option.some.inj (hs'.symm.trans hs)
        by_cases hstate : before.machine.runState = .running
        · obtain ⟨hsource, hkept⟩ := ih hbefore hstate
          have hpends := hleaves.pends hrun
          rw [Machine.pending_of_running hrun, Machine.pending_of_running hstate] at hpends
          refine ⟨fun hfault => (hpends.source hfault).symm.imp_right hsource, fun h => ⟨?_, fun hlate => ?_⟩⟩
          · refine hpends.isSome (h.symm.imp (fun hsession => (hkept hsession).1) fun hnow => ?_)
            rw [hnow]
            rfl
          · -- a worker that failed before is idle, and raises nothing
            have hprompt := run_prompt hbefore hstate fun hraised => hlate (.inr hraised)
            rcases h with hnow | hsession
            · have hnone : before.machine.worker.fault = none := by
                rw [← Option.not_isSome_iff_eq_none]
                intro hsome
                cases hnow.symm.trans (hleaves.spared (hprompt hsome))
              rw [hnone, Worker.none_pends] at hpends
              exact hpends.trans hnow
            · obtain ⟨hsome, honly⟩ := hkept hsession
              rw [hleaves.spared (hprompt hsome), Worker.pends_none] at hpends
              exact hpends.trans (honly fun hraised => hlate (.inr hraised))
        · rw [step_begins hbefore hstate hs hrun]
          refine ⟨nofun, ?_⟩
          rintro (hnow | hsession)
          · cases hnow.symm.trans (hleaves.still hstate)
          · have hbefore' := hsession.running
            rw [machine?_of_station hbefore] at hbefore'
            exact absurd (Option.some.inj hbefore') hstate
    · rw [hbuilt] at hrun
      cases hrun

/-! ## Forgotten failures -/

theorem forget_eq (hs : w.stations[i]? = some station) :
    w.forget i = { w with stations := w.stations.set i station.forget } := by
  unfold forget
  rw [List.modify_eq_set_getElem?, hs]
  rfl

theorem forget_station (hs : w.stations[i]? = some station) :
    (w.forget i).stations[i]? = some station.forget := by
  show (w.stations.modify i Station.forget)[i]? = _
  rw [List.getElem?_modify_eq, hs]
  rfl

theorem forget_idem (w : World) (i : Nat) : (w.forget i).forget i = w.forget i := by
  unfold forget
  rw [List.modify_modify_eq]
  rfl

/-- There is nothing to forget without a failure. -/
theorem forget_of_fault (hs : w.stations[i]? = some station) (h : station.machine.worker.fault = none) :
    w.forget i = w := by
  have hstation : station.forget = station := by
    unfold Station.forget
    rw [Machine.forget_of_fault h]
  obtain ⟨hlt, hget⟩ := List.getElem?_eq_some_iff.1 hs
  rw [forget_eq hs, hstation, ← hget, List.set_getElem_self hlt]

theorem stepMachine_of_some (hs : w.stations[i]? = some station) (mop : MachineOp) :
    w.stepMachine i mop = ((station.step w.site mop).1,
      { w with
        site := (station.step w.site mop).2.2
        stations := w.stations.set i (station.step w.site mop).2.1 }) := by
  unfold stepMachine
  rw [hs]

section

variable (hs : w.stations[i]? = some station) (hsound : station.machine.Sound)
  (hpoised : station.machine.Poised) (hnot : station.machine.runState ≠ .running)

include hs hsound hpoised hnot

theorem stepMachine_forget (j : Nat) (mop : MachineOp) :
    (w.forget i).stepMachine j mop = ((w.stepMachine j mop).1, (w.stepMachine j mop).2.forget i) := by
  by_cases hij : i = j
  · subst hij
    have hstep := Station.step_forget hsound hpoised hnot w.site mop
    have hstepped : (w.stepMachine i mop).2.stations[i]? = some (station.step w.site mop).2.1 :=
      step_machine? hs mop
    have hset := stepMachine_of_some (forget_station hs) mop
    rw [show (w.forget i).site = w.site from rfl, hstep, forget_eq hs] at hset
    rw [forget_eq hstepped, stepMachine_of_some hs, forget_eq hs, hset, List.set_set, List.set_set]
  · have hsame : (w.forget i).stations[j]? = w.stations[j]? := List.getElem?_modify_ne _ _ hij
    cases hj : w.stations[j]? with
    | none =>
      unfold stepMachine
      rw [hsame, hj]
    | some x =>
      have hother : (w.stepMachine j mop).2.stations[i]? = some station := by
        rw [stepMachine_stations, if_neg (Ne.symm hij), hs]
      rw [forget_eq hother, stepMachine_of_some (hsame.trans hj), forget_eq hs, stepMachine_of_some hj,
        List.set_comm _ _ hij]

theorem awaitBarrier_forget (h : Handle) : (w.forget i).awaitBarrier h = (w.awaitBarrier h).forget i := by
  have hsame : (w.forget i).deviceAt h = w.deviceAt h := rfl
  unfold awaitBarrier
  rw [hsame]
  cases (w.deviceAt h).barrier? with
  | none => rfl
  | some machine => exact congrArg Prod.snd (stepMachine_forget hs hsound hpoised hnot machine.index .quiesce)

theorem changeDrive_forget (h : Handle) (f : Drive → Drive) :
    (w.forget i).changeDrive h f = ((w.changeDrive h f).1, (w.changeDrive h f).2.forget i) := by
  unfold changeDrive
  rw [awaitBarrier_forget hs hsound hpoised hnot]
  rfl

theorem stepDevice_forget (h : Handle) (dop : DeviceOp) :
    (w.forget i).stepDevice h dop = ((w.stepDevice h dop).1, (w.stepDevice h dop).2.forget i) := by
  cases dop with
  | insertMedium medium => exact changeDrive_forget hs hsound hpoised hnot h _
  | ejectMedium => exact changeDrive_forget hs hsound hpoised hnot h _
  | exportMedium => exact changeDrive_forget hs hsound hpoised hnot h _
  | restore state =>
    have hawait : (if (w.forget i).restoresMedium h state then (w.forget i).awaitBarrier h else w.forget i) =
        (if w.restoresMedium h state then w.awaitBarrier h else w).forget i := by
      rw [awaitBarrier_forget hs hsound hpoised hnot]
      show (if w.restoresMedium h state then _ else _) = _
      split <;> rfl
    unfold stepDevice
    dsimp only
    rw [hawait]
    rfl
  | writeStorage offset data =>
    have hsame : (w.forget i).deviceAt h = w.deviceAt h := rfl
    unfold stepDevice
    dsimp only
    rw [hsame]
    cases (w.deviceAt h).writeStorage offset data <;> rfl
  | _ => rfl

/-- Out of a session an operation does the same in the world in which the failure is forgotten. -/
theorem step_forget (op : Op) :
    (w.forget i).step op = ((w.step op).1, (w.step op).2.forget i) := by
  cases op with
  | machine j mop => exact stepMachine_forget hs hsound hpoised hnot j mop
  | device h dop => exact stepDevice_forget hs hsound hpoised hnot h dop
  | controller j cop =>
    have hsame : (w.forget i).controllers = w.controllers := rfl
    unfold step stepController
    dsimp only
    rw [hsame]
    cases w.controllers[j]? <;> rfl
  | newMachine root emulator config sink energy =>
    have hlt : i < w.stations.length := (List.getElem?_eq_some_iff.1 hs).1
    have hstay : (w.step (.newMachine root emulator config sink energy)).2.stations[i]? = some station :=
      (List.getElem?_append_left hlt).trans hs
    rw [forget_eq hstay, forget_eq hs]
    unfold step
    dsimp only
    rw [List.length_set, List.set_append_left _ _ hlt]
  | build d => rfl
  | topology top => rfl
  | newController root config => rfl

end

/-- From the end of a session on, a run goes on as if the failure had been forgotten: in the next session
the two worlds are the same. -/
theorem run_forget (hs : (empty.run ops).stations[i]? = some station)
    (hfault : station.machine.runState = .running → station.machine.worker.fault = none) (post : List Op) :
    ((empty.run ops).forget i).run post = empty.run (ops ++ post) ∨
      ∃ station', (empty.run (ops ++ post)).stations[i]? = some station' ∧
        station'.machine.runState ≠ .running ∧
        ((empty.run ops).forget i).run post = (empty.run (ops ++ post)).forget i := by
  induction post using List.reverseRecOn with
  | nil =>
    rw [List.append_nil]
    by_cases hrun : station.machine.runState = .running
    · exact .inl (forget_of_fault hs (hfault hrun))
    · exact .inr ⟨station, hs, hrun, rfl⟩
  | append_singleton post op ih =>
    rw [← List.append_assoc, run_snoc, run_snoc]
    rcases ih with heq | ⟨before, hbefore, hnot, heq⟩
    · rw [heq]
      exact .inl rfl
    · have hm := machine?_of_station hbefore
      rw [heq, step_forget hbefore (run_sound _ hm) (run_poised _ hm) hnot]
      obtain ⟨station', hs', -⟩ := step_station hbefore op
      by_cases hrun : station'.machine.runState = .running
      · exact .inl (forget_of_fault hs' (step_begins hbefore hnot hs' hrun))
      · exact .inr ⟨station', hs', hrun, rfl⟩

/-! ## Ends and beginnings -/

/-- A session lasts until the machine is stopped or finalized, takes over a record, or halts in a tick. -/
theorem step_session (hs : w.stations[i]? = some station) (hrun : station.machine.runState = .running)
    (op : Op) : ∃ station', (w.step op).2.stations[i]? = some station' ∧
      (station'.machine.runState = .running ∨ op = .machine i .stop ∨ op = .machine i .finalize ∨
        (∃ r, op = .machine i (.loadRecord r)) ∨
        op = .machine i .tick ∧ station'.machine.runState = .error) := by
  obtain ⟨station', hs', hcases⟩ := step_station hs op
  refine ⟨station', hs', ?_⟩
  rcases hcases with rfl | rfl | ⟨mop, rfl, rfl⟩
  · exact .inl hrun
  · exact .inl hrun
  · rcases Station.step_session hrun w.site mop with
      hstays | rfl | rfl | ⟨r, rfl⟩ | ⟨rfl, herror⟩
    · exact .inl hstays
    · exact .inr (.inl rfl)
    · exact .inr (.inr (.inl rfl))
    · exact .inr (.inr (.inr (.inl ⟨r, rfl⟩)))
    · exact .inr (.inr (.inr (.inr ⟨rfl, herror⟩)))

/-- The machine at a position runs ever since it took over a record with this boot error. -/
def RunsFromRecord (i : Nat) (error : Option String) (ops : List Op) : Prop :=
  ∃ pre r post, ops = pre ++ .machine i (.loadRecord r) :: post ∧
    (empty.run (pre ++ [.machine i (.loadRecord r)])).KeepsRunning i post ∧ error = r.bootError

/-- A machine that runs has no boot error, but what a record brought that it runs since. -/
theorem run_bootError (hs : (empty.run ops).stations[i]? = some station)
    (hrun : station.machine.runState = .running) :
    station.machine.bootError = none ∨ RunsFromRecord i station.machine.bootError ops := by
  induction ops using List.reverseRecOn generalizing station with
  | nil => cases hs
  | append_singleton ops op ih =>
    have hrunning : ((empty.run (ops ++ [op])).machine? i).map Machine.runState = some .running := by
      rw [machine?_of_station hs, Option.map_some, hrun]
    rw [run_snoc] at hs
    rcases step_station_inv hs with ⟨before, hbefore⟩ | ⟨root, emulator, config, sink, -, hbuilt⟩
    · cases hop : op.takesRecord i with
      | true =>
        obtain ⟨r, rfl⟩ := takesRecord_iff.1 hop
        obtain rfl := Option.some.inj ((step_machine? hbefore _).symm.trans hs)
        exact .inr ⟨ops, r, [], rfl, keepsRunning_nil.2 hrunning, Machine.loadRecord_bootError r _ hrun⟩
      | false =>
        have hsteps : station.machine.bootError = none ∨ before.machine.runState = .running ∧
            station.machine.bootError = before.machine.bootError := by
          obtain ⟨station', hs', hcases⟩ := step_station hbefore op
          obtain rfl : station' = station := Option.some.inj (hs'.symm.trans hs)
          rcases hcases with rfl | rfl | ⟨mop, rfl, rfl⟩
          · exact .inr ⟨hrun, rfl⟩
          · exact .inr ⟨hrun, rfl⟩
          · refine before.step_bootError (empty.run ops).site (fun r hr => ?_) hrun
            rw [takesRecord_iff.2 ⟨r, by rw [hr]⟩] at hop
            cases hop
        rcases hsteps with hnone | ⟨hstate, hsame⟩
        · exact .inl hnone
        · rw [hsame]
          refine (ih hbefore hstate).imp id ?_
          rintro ⟨pre, r, post, rfl, hkeeps, herror⟩
          refine ⟨pre, r, post ++ [op], by simp, keepsRunning_snoc.2 ⟨hkeeps, ?_⟩, herror⟩
          rw [← run_append]
          simpa using hrunning
    · rw [hbuilt] at hrun
      cases hrun

/-! ## Halts -/

/-- A tick that steps the emulation halts the machine with a failure that was raised in the session, or by
the tick before it looked for one, and has it run on if there is none. -/
theorem tick_halts (hs : (empty.run ops).stations[i]? = some station)
    (hreaches : station.machine.Reaches (empty.run ops).site) :
    ∃ station', ((empty.run ops).step (.machine i .tick)).2.stations[i]? = some station' ∧
      (∀ failure, RaisedInSession i failure ops ∨
          (empty.run ops).raised i (.machine i .tick) = some failure ∧
            (empty.run ops).lateFault? i (.machine i .tick) = none →
        station'.energy = station.energy ∧
        station.machine.worker.GoesOn station'.machine.worker ∧
        ∃ found, (RaisedInSession i found ops ∨
            (empty.run ops).raised i (.machine i .tick) = some found) ∧
          (¬RaisedLate i ops → found = failure) ∧ station'.machine.Halted found) ∧
      ((∀ failure, ¬RaisedInSession i failure ops) →
        (empty.run ops).raised i (.machine i .tick) = none ∨
          ((empty.run ops).lateFault? i (.machine i .tick)).isSome = true →
        station'.machine.runState = .running) := by
  have hm := machine?_of_station hs
  have hrun := hreaches.running
  have hpending (failure : Fault) := run_pending hs hrun failure
  have hprompt := run_prompt hs hrun
  obtain ⟨early, late, hyields, hraises⟩ := hreaches.raises (run_sound ops hm) station.energy
  obtain ⟨hhalts, hruns⟩ := hreaches.halts station.energy
  have hraised : (empty.run ops).raised i (.machine i .tick) = early.or late := by
    rw [machine?_id ops hm, ← show ((empty.run ops).step (.machine i .tick)).2.site.hardware =
      (station.machine.tick station.energy (empty.run ops).site).2.2.hardware from
        congrArg Site.hardware (step_site hs .tick)] at hyields
    exact hyields.callsTo
  have hpends := hraises.pends
  rw [Machine.pending_of_running hrun] at hpends
  rw [hraised, lateFault?_tick hs]
  refine ⟨_, step_machine? hs .tick, fun failure hfailure => ?_, fun hnone hquiet => ?_⟩
  · -- the tick finds something
    have hfound : (station.machine.takeUp (empty.run ops).site).1.worker.fault.isSome = true := by
      by_contra hmissed
      rw [Option.not_isSome_iff_eq_none] at hmissed
      have hnothing : ¬(station.machine.worker.fault.isSome = true ∨ early.isSome = true) := by
        intro hsome
        have hkept := hpends.isSome hsome
        rw [hmissed] at hkept
        cases hkept
      rw [not_or, Option.not_isSome_iff_eq_none, Option.not_isSome_iff_eq_none] at hnothing
      rcases hfailure with hsession | ⟨hnow, hlate⟩
      · have hkept := ((hpending failure).2 hsession).1
        rw [hnothing.1] at hkept
        cases hkept
      · rw [hnothing.2, Option.none_or, hraises.late hmissed, hlate] at hnow
        cases hnow
    obtain ⟨found, hfault⟩ := Option.isSome_iff_exists.1 hfound
    obtain ⟨henergy, hgoesOn, hhalted⟩ := hhalts found hfault
    refine ⟨henergy, hgoesOn, found, ?_, fun hlate => ?_, hhalted⟩
    · refine (hpends.source hfault).imp (hpending found).1 fun hearly => ?_
      rw [hearly]
      rfl
    · -- a worker that failed before is idle, and raises nothing in the tick
      cases hbefore : station.machine.worker.fault with
      | some first =>
        have hsome : station.machine.worker.fault.isSome = true := by
          rw [hbefore]
          rfl
        obtain ⟨hearly, hlast⟩ := hraises.spared (hprompt hlate hsome)
        rw [hearly, Worker.pends_none, hfault] at hpends
        rcases hfailure with hsession | ⟨hnow, -⟩
        · exact Option.some.inj (hpends.trans (((hpending failure).2 hsession).2 hlate))
        · rw [hearly, hlast] at hnow
          cases hnow
      | none =>
        rw [hbefore, Worker.none_pends, hfault] at hpends
        rcases hfailure with hsession | ⟨hnow, -⟩
        · have hkept := ((hpending failure).2 hsession).1
          rw [hbefore] at hkept
          cases hkept
        · rw [← hpends] at hnow
          exact Option.some.inj hnow
  · -- the tick finds nothing
    have hnothing : station.machine.worker.fault = none :=
      Option.eq_none_iff_forall_ne_some.2 fun failure hf => hnone failure ((hpending failure).1 hf)
    refine hruns ?_
    rcases hquiet with hquiet | hlate
    · rw [hnothing, (Option.or_eq_none_iff.1 hquiet).1] at hpends
      exact Worker.pends_none.1 hpends
    · exact Machine.fault_of_lateFault? hlate

/-- In every run, what the worker of a machine has pending while the machine runs was raised by its emulator
in the session, and something is pending if anything was; it is the only failure unless one was raised after
a tick looked for a failure.  A session lasts until the machine is stopped or finalized, takes over a record,
or halts in a tick.  The tick that gets as far as to step the emulation, with the bus ready, then takes no
energy, grants no cycles and ends in the error state with such a failure as the boot error; if there is
nothing for it to find the machine runs on.  Once the machine does not run any more, whatever it does from
there on is the same as if the failure had been forgotten; and while it runs again it has no boot error, but
one that a record brought. -/
theorem fault_halts_its_session {ops : List Op} {i : Nat} {station : Station}
    (hs : (empty.run ops).stations[i]? = some station) :
    (station.machine.runState = .running →
      (∀ failure, (station.machine.worker.fault = some failure → RaisedInSession i failure ops) ∧
        (RaisedInSession i failure ops → station.machine.worker.fault.isSome = true ∧
          (¬RaisedLate i ops → station.machine.worker.fault = some failure))) ∧
      (station.machine.bootError = none ∨ RunsFromRecord i station.machine.bootError ops) ∧
      ∀ op, ∃ station', ((empty.run ops).step op).2.stations[i]? = some station' ∧
        (station'.machine.runState = .running ∨ op = .machine i .stop ∨ op = .machine i .finalize ∨
          (∃ r, op = .machine i (.loadRecord r)) ∨
          op = .machine i .tick ∧ station'.machine.runState = .error)) ∧
    (station.machine.Reaches (empty.run ops).site →
      ∃ station', ((empty.run ops).step (.machine i .tick)).2.stations[i]? = some station' ∧
        (∀ failure, RaisedInSession i failure ops ∨
            (empty.run ops).raised i (.machine i .tick) = some failure ∧
              (empty.run ops).lateFault? i (.machine i .tick) = none →
          station'.energy = station.energy ∧
          station.machine.worker.GoesOn station'.machine.worker ∧
          ∃ found, (RaisedInSession i found ops ∨
              (empty.run ops).raised i (.machine i .tick) = some found) ∧
            (¬RaisedLate i ops → found = failure) ∧ station'.machine.Halted found) ∧
        ((∀ failure, ¬RaisedInSession i failure ops) →
          (empty.run ops).raised i (.machine i .tick) = none ∨
            ((empty.run ops).lateFault? i (.machine i .tick)).isSome = true →
          station'.machine.runState = .running)) ∧
    ((∀ failure, ¬RaisedInSession i failure ops) → ∀ post,
      (∀ op, ((((empty.run ops).forget i).run post).step op).1 = ((empty.run (ops ++ post)).step op).1) ∧
      (((empty.run ops).forget i).run post).forget i = (empty.run (ops ++ post)).forget i) := by
  refine ⟨fun hrun => ⟨run_pending hs hrun, run_bootError hs hrun, step_session hs hrun⟩, tick_halts hs,
    fun hnone post => ?_⟩
  have hfault : station.machine.runState = .running → station.machine.worker.fault = none := fun hrun =>
    Option.eq_none_iff_forall_ne_some.2 fun failure hf => hnone failure ((run_pending hs hrun failure).1 hf)
  rcases run_forget hs hfault post with heq | ⟨station', hs', hnot, heq⟩
  · rw [heq]
    exact ⟨fun op => rfl, rfl⟩
  · have hm := machine?_of_station hs'
    refine ⟨fun op => ?_, ?_⟩
    · rw [heq, step_forget hs' (run_sound _ hm) (run_poised _ hm) hnot]
    · rw [heq]
      exact forget_idem _ i

/-- A machine that halted and is started again before its bus is ready has the failure of the session that is
over as its boot error while it loads.  And a failure that is raised after a tick looked for one is replaced by
a second one, with which the machine halts. -/
theorem fault_shows_again_or_is_replaced :
    let pre (first : Fault) : List Op := [.build (.ram (.new ⟨10⟩ 4 0)),
      .topology (.insert ⟨1⟩ [] [⟨⟨0⟩, ⟨10⟩⟩]),
      .newMachine ⟨1⟩ (.scripted { faultAt := some 0, fault := first }) { cyclesPerTick := 2 } .discard .unmetered,
      .machine 0 .start, .machine 0 .tick, .machine 0 .tick]
    let second : Emulator := .scripted { faultAt := some 0, fault := ⟨"second"⟩ }
    let restarted := pre ⟨"first"⟩ ++ [.machine 0 .quiesce, .machine 0 .tick, .topology (.unload ⟨1⟩),
      .machine 0 .tick, .machine 0 .start]
    let overtaken := pre ⟨"first"⟩ ++ [.machine 0 (.platform { look := some 1 })]
    let replaced := overtaken ++ [.machine 0 .tick, .machine 0 (.script fun _ => second), .machine 0 .quiesce]
    ((empty.run restarted).machine? 0).map (fun m => (m.runState, m.bootError)) =
        some (.loading, some (BootError.emulation ⟨"first"⟩).message) ∧
      (empty.run overtaken).raised 0 (.machine 0 .tick) = some ⟨"first"⟩ ∧
      ((empty.run replaced).machine? 0).map (fun m => m.runState) = some .running ∧
      ((empty.run (replaced ++ [.machine 0 .tick])).machine? 0).map (fun m => (m.runState, m.bootError)) =
        some (.error, some (BootError.emulation ⟨"second"⟩).message) := by
  decide +kernel

/-- A failure outlasts ticks on a bus that was unloaded, a suspension and what follows it, and halts the
machine in the tick that attaches another memory.  Left by a finalization, it is there when the machine is
started again, which runs on without it. -/
theorem fault_outlasts_suspension :
    let fault : Fault := ⟨"illegal instruction"⟩
    let pre : List Op := [.build (.ram (.new ⟨10⟩ 4 0)), .build (.ram (.new ⟨11⟩ 4 0)),
      .topology (.insert ⟨1⟩ [] [⟨⟨0⟩, ⟨10⟩⟩]),
      .newMachine ⟨1⟩ (.scripted { faultAt := some 0, faultOnce := true, fault })
        { cyclesPerTick := 2 } .discard .unmetered,
      .machine 0 .start, .machine 0 .tick, .machine 0 .tick]
    let post : List Op := [.topology (.unload ⟨1⟩), .machine 0 .tick, .topology (.reload ⟨1⟩),
      .machine 0 .suspend, .machine 0 .tick, .topology (.addDevice ⟨1⟩ ⟨⟨1⟩, ⟨11⟩⟩)]
    let ops := pre ++ .machine 0 .quiesce :: post
    let ended := pre ++ [.machine 0 .quiesce, .machine 0 .finalize]
    let again : List Op := [.machine 0 .start, .machine 0 .tick, .machine 0 .quiesce, .machine 0 .tick]
    (∃ station, (empty.run ops).stations[0]? = some station ∧ station.machine.runState = .running ∧
      station.machine.worker.fault = some fault ∧ RaisedInSession 0 fault ops ∧
      station.machine.Reaches (empty.run ops).site ∧
      ∃ station', ((empty.run ops).step (.machine 0 .tick)).2.stations[0]? = some station' ∧
        station'.energy = station.energy ∧ station'.machine.Halted fault) ∧
      ((empty.run ended).machine? 0).map (·.worker.fault) = some (some fault) ∧
      (∀ failure, ¬RaisedInSession 0 failure ended) ∧
      (((empty.run ended).forget 0).run again).forget 0 = (empty.run (ended ++ again)).forget 0 ∧
      ((empty.run (ended ++ again)).machine? 0).map (fun m => (m.runState, m.bootError)) =
        some (.running, none) := by
  intro fault pre post ops ended again
  have hrunning : ∀ n ∈ List.range 7, ((empty.run (pre ++ [.machine 0 .quiesce] ++ post.take n)).machine? 0).map
      Machine.runState = some .running := by decide +kernel
  have hkeeps : (empty.run (pre ++ [.machine 0 .quiesce])).KeepsRunning 0 post := by
    intro q hq
    rw [List.prefix_iff_eq_take.1 hq, ← run_append]
    exact hrunning _ (List.mem_range.2 (Nat.lt_succ_of_le hq.length_le))
  have hraised : RaisedInSession 0 fault ops :=
    ⟨pre, .machine 0 .quiesce, post, rfl, by decide +kernel, hkeeps, by decide⟩
  have hlate : ¬RaisedLate 0 ops := by
    rintro ⟨before, op, after, heq, hlate, -⟩
    have hnone : ∀ n ∈ List.range 14, (ops[n]?.bind ((empty.run (ops.take n)).lateFault? 0)) = none := by
      decide +kernel
    have hlt : before.length < 14 := by
      have hlength : before.length + (after.length + 1) = 14 := by
        rw [← List.length_cons, ← List.length_append, ← heq]
        rfl
      omega
    have hthis := hnone before.length (List.mem_range.2 hlt)
    rw [heq, List.getElem?_append_right (Nat.le_refl _), Nat.sub_self, List.take_left] at hthis
    replace hthis : (empty.run before).lateFault? 0 op = none := hthis
    rw [hthis] at hlate
    cases hlate
  have hended : ∀ failure, ¬RaisedInSession 0 failure ended := by
    intro failure h
    have hstopped : ((empty.run ended).machine? 0).map Machine.runState = some .stopped := by decide +kernel
    cases hstopped.symm.trans h.running
  obtain ⟨station, hs⟩ : ∃ station, (empty.run ops).stations[0]? = some station :=
    Option.isSome_iff_exists.1 (by decide +kernel)
  obtain ⟨old, hold⟩ : ∃ station, (empty.run ended).stations[0]? = some station :=
    Option.isSome_iff_exists.1 (by decide +kernel)
  have hreaches : ((empty.run ops).machine? 0).any (·.Reaches (empty.run ops).site) = true := by decide +kernel
  rw [machine?_of_station hs] at hreaches
  replace hreaches : station.machine.Reaches (empty.run ops).site := of_decide_eq_true hreaches
  obtain ⟨hsession, htick, -⟩ := fault_halts_its_session hs
  obtain ⟨station', hs', hhalts, -⟩ := htick hreaches
  obtain ⟨henergy, -, found, -, honly, hhalted⟩ := hhalts fault (.inl hraised)
  obtain rfl : found = fault := honly hlate
  obtain ⟨-, -, hforget⟩ := fault_halts_its_session hold
  exact ⟨⟨station, hs, hreaches.running, (((hsession hreaches.running).1 fault).2 hraised).2 hlate, hraised, hreaches,
    station', hs', henergy, hhalted⟩, by decide +kernel, hended, (hforget hended again).2, by decide +kernel⟩

end World

end DeviceBus
