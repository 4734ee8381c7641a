import DeviceBus.Proofs.Machine.Course
import DeviceBus.Proofs.Machine.Sink
import DeviceBus.Proofs.Mirror

/-!
# Run states through a run

A machine that takes over no record publishes its run states in an order that `RunState.Precedes`
allows, from `stopped` on; only a finalization goes to `stopped` at once.  Whenever an operation is over
the machine is not in `stopping`, a machine in `error` has a boot error and one that is `running` has
none (`World.run_states`).

What a machine publishes is what a queue in the place of its sink would come to hold, and the machine
does the same with that queue as without (`Station.step_muted`).
-/

namespace DeviceBus

namespace World

/-! ## Listening to a machine -/

/-- The station with an empty queue for what its machine publishes. -/
def listening (station : Station) : Station :=
  { station with machine := { station.machine with sink := .queue [] } }

/-- The world in which the machine at a position publishes to an empty queue. -/
def listen (w : World) (i : Nat) : World := { w with stations := w.stations.modify i listening }

/-- The run states that the machine at a position publishes in an operation. -/
def runStates (w : World) (i : Nat) (op : Op) : List RunState :=
  (w.machine? i).elim [] fun _ => Update.runStates (((w.listen i).step op).2.waiting i)

/-- The run states that the machine at a position publishes in a run, each with the operation that it is
published in. -/
def course (w : World) (i : Nat) (ops : List Op) : List (Op × RunState) :=
  w.log (fun w op => (w.runStates i op).map (op, ·)) ops

/-- Each run state of a list with the one before it. -/
def successions (first : RunState) (course : List (Op × RunState)) : List (RunState × Op × RunState) :=
  (first :: course.map Prod.snd).zip course

theorem successions_append (first : RunState) (course course' : List (Op × RunState)) :
    successions first (course ++ course') =
      successions first course ++ successions ((course.map Prod.snd).getLastD first) course' := by
  induction course generalizing first with
  | nil => rfl
  | cons p course ih =>
    have hlater := ih p.2
    unfold successions at hlater ⊢
    rw [List.cons_append, List.map_cons, List.zip_cons_cons, List.map_cons, List.zip_cons_cons,
      List.cons_append, List.getLastD_cons, hlater]

end World

/-- Whether an operation has the machine at a position take over a record. -/
def Op.takesRecord (i : Nat) : Op → Bool
  | .machine j (.loadRecord _) => j = i
  | _ => false

/-- Whether one run state of the machine at a position may follow another in an operation. -/
def Op.Allows (i : Nat) (op : Op) (s s' : RunState) : Prop :=
  s.Precedes s' ∨ op = .machine i .finalize ∧ s.Ends ∧ s' = .stopped

namespace World

variable {w : World} {i : Nat} {station : Station}

theorem listen_stations (h : w.stations[i]? = some station) :
    (w.listen i).stations[i]? = some (listening station) := by
  show (w.stations.modify i listening)[i]? = _
  rw [List.getElem?_modify_eq, h]
  rfl

/-- An operation does to a machine what it does to it while somebody listens. -/
theorem step_listening (station : Station) (s : Site) (op : MachineOp) :
    ((listening station).step s op).2.1.machine.runState =
      (station.step s op).2.1.machine.runState := by
  have hlistening := congrArg (fun p => p.1.machine.runState) ((listening station).step_muted s op)
  have hstation := congrArg (fun p => p.1.machine.runState) (station.step_muted s op)
  exact hlistening.symm.trans hstation

theorem successions_of_isChain {R : RunState → RunState → Prop} {s : RunState}
    {states : List RunState} (h : List.IsChain R (s :: states)) (op : Op) :
    ∀ p ∈ successions s (states.map (op, ·)), p.2.1 = op ∧ R p.1 p.2.2 := by
  induction states generalizing s with
  | nil =>
    intro p hp
    cases hp
  | cons t states ih =>
    obtain ⟨hst, hlater⟩ := List.isChain_cons_cons.1 h
    intro p hp
    rcases List.mem_cons.1 hp with rfl | hp
    · exact ⟨rfl, hst⟩
    · exact ih hlater p hp

/-- The run states that come to wait in the queue of a machine that somebody listens to. -/
theorem listening_course (station : Station) (s : Site) {op : MachineOp}
    (hload : ∀ r, op ≠ .loadRecord r) :
    ∃ states, Update.runStates ((listening station).step s op).2.1.machine.sink.waiting = states ∧
      List.IsChain op.Allows (station.machine.runState :: states) ∧
      (station.step s op).2.1.machine.runState = states.getLastD station.machine.runState := by
  by_cases hdrain : op = .drainUpdates
  · subst hdrain
    exact ⟨[], rfl, .singleton _, rfl⟩
  · obtain ⟨states, hpasses, hchain⟩ := ((listening station).step_follows s hdrain hload).course
    obtain ⟨us, hsink, hstates⟩ := hpasses.publishes
    have hwaiting : ((listening station).step s op).2.1.machine.sink.waiting = us := by
      rw [hsink]
      show (us.foldl Sink.publish (.queue [])).waiting = us
      rw [Sink.foldl_publish_queue]
      rfl
    refine ⟨states, by rw [hwaiting, hstates], hchain, ?_⟩
    rw [← step_listening]
    exact hpasses.runState

theorem waiting_of_station (h : w.stations[i]? = some station) :
    w.waiting i = station.machine.sink.waiting := by
  unfold waiting
  rw [machine?_of_station h]
  rfl

theorem runStates_of_station (h : w.stations[i]? = some station) {op : Op} {station' : Station}
    (h' : ((w.listen i).step op).2.stations[i]? = some station') :
    w.runStates i op = Update.runStates station'.machine.sink.waiting := by
  unfold runStates
  rw [machine?_of_station h, Option.elim_some, waiting_of_station h']

/-- In an operation that takes over no record, the run states published follow each other as they may,
and the machine is in the last of them. -/
theorem step_runStates (h : w.stations[i]? = some station) {op : Op}
    (hop : op.takesRecord i = false) :
    ∃ station', (w.step op).2.stations[i]? = some station' ∧
      station'.machine.runState = (w.runStates i op).getLastD station.machine.runState ∧
      (∀ p ∈ successions station.machine.runState ((w.runStates i op).map (op, ·)),
        p.2.1.Allows i p.1 p.2.2) ∧
      (station.machine.Explained → station'.machine.Explained) := by
  have hlisten := listen_stations h
  cases hown : op.isOf i with
  | false =>
    -- the operation of another at most waits for the worker, and that publishes no run state
    have hstates : w.runStates i op = [] := by
      obtain ⟨heard, hheard, hcases⟩ := step_station_other hlisten hown
      rw [runStates_of_station h hheard]
      rcases hcases with rfl | rfl <;> rfl
    obtain ⟨station', hs', hcases⟩ := step_station_other h hown
    have hstays : station.machine.Stays station'.machine := by
      rcases hcases with rfl | rfl
      · exact .refl _
      · exact station.machine.stepWorker_stays Worker.quiesce w.site.hardware
    rw [hstates]
    exact ⟨station', hs', hstays.runState, fun p hp => (nomatch hp),
      (show Machine.Follows .quiesce _ _ from hstays.follows).explained⟩
  | true =>
    cases op with
    | machine j mop =>
      obtain rfl : j = i := of_decide_eq_true hown
      have hload : ∀ r, mop ≠ .loadRecord r := by
        rintro r rfl
        exact absurd (decide_eq_true rfl) (ne_true_of_eq_false hop)
      obtain ⟨states, hstates, hchain, hlast⟩ := listening_course station w.site hload
      have hrun : w.runStates j (.machine j mop) = states := by
        rw [runStates_of_station h (step_machine? hlisten mop)]
        exact hstates
      refine ⟨_, step_machine? h mop, by rw [hrun]; exact hlast, ?_, ?_⟩
      · intro p hp
        rw [hrun] at hp
        obtain ⟨hop', hallowed⟩ := successions_of_isChain hchain _ p hp
        rw [hop']
        rcases hallowed with hallowed | ⟨rfl, hends, hstopped⟩
        · exact .inl hallowed
        · exact .inr ⟨rfl, hends, hstopped⟩
      · by_cases hdrain : mop = .drainUpdates
        · subst hdrain
          exact fun he => ⟨he.error, he.running⟩
        · exact (station.step_follows w.site hdrain hload).explained
    | _ => cases hown

/-! ## Any run -/

/-- Every run state that a machine publishes in a run without `loadRecord` follows the one before it,
`stopped` at first, as it may; and after the run the machine is in the last of them, not in `stopping`,
with a boot error if it is in `error` and without one if it is `running`. -/
theorem run_states {ops : List Op} {i : Nat} (hops : ∀ op ∈ ops, op.takesRecord i = false) :
    (∀ p ∈ successions .stopped (empty.course i ops), p.2.1.Allows i p.1 p.2.2) ∧
      ∀ m, (empty.run ops).machine? i = some m →
        m.runState = ((empty.course i ops).map Prod.snd).getLastD .stopped ∧
          m.runState ≠ .stopping ∧ (m.runState = .error → m.bootError.isSome = true) ∧
          (m.runState = .running → m.bootError = none) := by
  -- a machine that is not built yet published nothing
  have hcourse : (∀ p ∈ successions .stopped (empty.course i ops), p.2.1.Allows i p.1 p.2.2) ∧
      ((empty.run ops).machine? i = none → empty.course i ops = []) ∧
      ∀ m, (empty.run ops).machine? i = some m →
        m.runState = ((empty.course i ops).map Prod.snd).getLastD .stopped ∧ m.Explained := by
    induction ops using List.reverseRecOn with
    | nil => exact ⟨fun p hp => (nomatch hp), fun _ => rfl, fun m hm => (nomatch hm)⟩
    | append_singleton ops op ih =>
      obtain ⟨hpairs, hnone, hsome⟩ := ih fun op' h => hops op' (List.mem_append_left _ h)
      have hop := hops op (List.mem_append_right _ (List.mem_singleton_self op))
      have hlog : empty.course i (ops ++ [op]) =
          empty.course i ops ++ ((empty.run ops).runStates i op).map (op, ·) :=
        log_snoc _ empty ops op
      rw [hlog, run_snoc, successions_append]
      cases hm : (empty.run ops).machine? i with
      | none =>
        have hstates : (empty.run ops).runStates i op = [] := by
          unfold runStates
          rw [hm]
          rfl
        rw [hnone hm, hstates]
        refine ⟨fun p hp => (nomatch hp), fun _ => rfl, fun m' hm' => ?_⟩
        obtain ⟨station', hs', rfl⟩ := machine?_eq_some hm'
        rcases step_station_inv hs' with ⟨station, hs⟩ | ⟨root, emulator, config, sink, -, hbuilt⟩
        · rw [machine?_of_station hs] at hm
          cases hm
        · rw [hbuilt]
          exact ⟨rfl, fun h => (nomatch h), fun h => (nomatch h)⟩
      | some m =>
        obtain ⟨station, hs, rfl⟩ := machine?_eq_some hm
        obtain ⟨hlast, hexplained⟩ := hsome station.machine hm
        obtain ⟨station', hs', hrun, hpairs', hexplained'⟩ := step_runStates hs hop
        rw [← hlast]
        refine ⟨?_, ?_, ?_⟩
        · intro p hp
          rcases List.mem_append.1 hp with hp | hp
          · exact hpairs p hp
          · exact hpairs' p hp
        · intro hgone
          rw [machine?_of_station hs'] at hgone
          cases hgone
        · intro m' hm'
          rw [machine?_of_station hs'] at hm'
          cases hm'
          refine ⟨?_, hexplained' hexplained⟩
          rw [hrun, hlast, List.map_append, List.map_map, getLastD_append]
          exact congrArg (List.getLastD · _) (List.map_id _).symm
  refine ⟨hcourse.1, fun m hm => ?_⟩
  obtain ⟨hlast, hexplained⟩ := hcourse.2.2 m hm
  exact ⟨hlast, (run_poised ops hm).runState, hexplained.error, hexplained.running⟩

/-- A machine boots, is stopped, boots again into a device that refuses to attach, and is finalized. -/
theorem run_states_of_refusing_device :
    let ops : List Op := [.build (.ram (.new ⟨10⟩ 4 0)), .topology (.insert ⟨1⟩ [] [⟨⟨0⟩, ⟨10⟩⟩]),
      .newMachine ⟨1⟩ (.scripted {}) {} .discard
        .unmetered,
      .machine 0 .start, .machine 0 .tick, .machine 0 .stop,
      .machine 0 (.script fun _ => .scripted { installFault := some ⟨"no"⟩ }),
      .machine 0 .start, .machine 0 .finalize]
    (∀ op ∈ ops, op.takesRecord 0 = false) ∧
      (empty.course 0 ops).map Prod.snd =
        [.loading, .running, .stopping, .stopped, .loading, .error, .stopped] ∧
      (∀ p ∈ successions .stopped (empty.course 0 ops), p.2.1.Allows 0 p.1 p.2.2) ∧
      ∃ m, (empty.run ops).machine? 0 = some m ∧ m.runState = .stopped := by
  intro ops
  have hops : ∀ op ∈ ops, op.takesRecord 0 = false := by simp [ops, Op.takesRecord]
  have hcourse : (empty.course 0 ops).map Prod.snd =
      [.loading, .running, .stopping, .stopped, .loading, .error, .stopped] := by decide +kernel
  obtain ⟨hpairs, hmachine⟩ := run_states hops
  obtain ⟨m, hm⟩ : ∃ m, (empty.run ops).machine? 0 = some m :=
    Option.isSome_iff_exists.1 (by decide +kernel)
  refine ⟨hops, hcourse, hpairs, m, hm, ?_⟩
  rw [(hmachine m hm).1, hcourse]
  rfl

end World

end DeviceBus
