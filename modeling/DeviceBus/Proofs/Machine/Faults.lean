import DeviceBus.Proofs.Machine.Slices

/-!
# Failures of slices

A slice that fails leaves its failure with the worker, and ends the grant.  `w.Suffers failure w'` says
what becomes of a worker whose slices raised that failure, or none: it has the failure, or the one it had
before, and a worker that was idle raises none.  A worker that holds no cycles once it failed
(`Worker.Prompt`) raises no second failure; only a grant can have a worker with a failure go on.

What was raised is told by the calls in the journal (`Hardware.Yields`).  Every piece of a machine's
program runs no slice (`Machine.Idles`), or its worker suffers what its calls raise (`Machine.Bears`).
-/

namespace DeviceBus

/-! ## What is raised -/

/-- The failure that a slice ended with, as a worker without one keeps it. -/
def SliceEnd.failure? : SliceEnd → Option Fault
  | .completed => none
  | .faulted fault => some fault
  | .panicked => some Worker.panicFault

/-- The failure that a call raised in the emulator of a machine. -/
def Event.raised? (id : MachineId) : Event → Option Fault
  | .emulator machine (.run _ outcome _ _) => if machine = id then outcome.failure? else none
  | _ => none

/-- Not a call that raised a failure. -/
def Event.Mild (e : Event) : Prop := ∀ id, e.raised? id = none

namespace Hardware

/-- The calls made between two states of the devices raised this failure first in the emulator of a
machine, or none. -/
def Yields (id : MachineId) (failure : Option Fault) (hw hw' : Hardware) : Prop :=
  ∃ es, hw'.journal = es ++ hw.journal ∧ es.reverse.findSome? (Event.raised? id) = failure

section

variable {id : MachineId} {failure failure' : Option Fault} {hw hw' hw'' : Hardware}

theorem Yields.trans (h : hw.Yields id failure hw') (h' : hw'.Yields id failure' hw'') :
    hw.Yields id (failure.or failure') hw'' := by
  obtain ⟨es, hes, hfailure⟩ := h
  obtain ⟨fs, hfs, hfailure'⟩ := h'
  refine ⟨fs ++ es, by rw [hfs, hes, List.append_assoc], ?_⟩
  rw [List.reverse_append, List.findSome?_append, hfailure, hfailure']

theorem yields_call (id : MachineId) (e : Event) (hw : Hardware) :
    hw.Yields id (e.raised? id) (hw.record e) := by
  refine ⟨[e], rfl, ?_⟩
  show [e].findSome? (Event.raised? id) = e.raised? id
  cases h : e.raised? id <;> simp [h]

theorem Adds.yields (h : hw.Adds Event.Mild hw') (id : MachineId) : hw.Yields id none hw' := by
  obtain ⟨es, hes, hmild⟩ := h
  refine ⟨es, hes, List.findSome?_eq_none_iff.2 fun e he => ?_⟩
  exact hmild e (List.mem_reverse.1 he) id

theorem Yields.refl (id : MachineId) (hw : Hardware) : hw.Yields id none hw :=
  (Adds.refl _ hw).yields id

/-- What was raised is read off the calls. -/
theorem Yields.callsTo (h : hw.Yields id failure hw') :
    (hw.callsTo hw').findSome? (Event.raised? id) = failure := by
  obtain ⟨es, hes, hfailure⟩ := h
  rw [callsTo_eq hes]
  exact hfailure

end

end Hardware

/-! ## Workers -/

namespace Worker

variable {σ : Type} {run : Nat → σ → SliceEnd × σ}

/-- What holds of a worker between what it is told: it holds cycles only if it runs, in a thread that is to
be joined. -/
structure Sound (w : Worker) : Prop where
  busy : w.isIdle = false → w.running = true
  thread : w.running = true → w.spawned = true

/-- A worker with a failure holds no cycles. -/
def Prompt (w : Worker) : Prop := w.fault.isSome = true → w.isIdle = true

/-- What is pending once a failure was raised, or none: of that and what was pending before, either. -/
def Pends (before failure after : Option Fault) : Prop :=
  after = before.or failure ∨ after = failure.or before

/-- What becomes of a worker whose slices raised this failure, or none. -/
structure Suffers (failure : Option Fault) (w w' : Worker) : Prop where
  sound : w'.Sound
  pends : Pends w.fault failure w'.fault
  /-- A failure ends the grant. -/
  ends : failure.isSome = true → w'.isIdle = true
  /-- An idle worker stays idle, and nothing is raised. -/
  idle : w.isIdle = true → w'.isIdle = true ∧ failure = none

section

variable {before failure failure' after after' : Option Fault}

theorem Pends.refl (before : Option Fault) : Pends before none before := .inl Option.or_none.symm

theorem pends_none : Pends before none after ↔ after = before := by
  unfold Pends
  rw [Option.or_none, Option.none_or, or_self]

theorem none_pends : Pends none failure after ↔ after = failure := by
  unfold Pends
  rw [Option.none_or, Option.or_none, or_self]

theorem Pends.trans (h : Pends before failure after) (h' : Pends after failure' after')
    (hone : failure = none ∨ failure' = none) : Pends before (failure.or failure') after' := by
  rcases hone with rfl | rfl
  · rw [pends_none] at h
    rwa [Option.none_or, ← h]
  · rw [pends_none] at h'
    rwa [Option.or_none, h']

/-- What is pending was pending before, or was raised. -/
theorem Pends.source {found : Fault} (h : Pends before failure after) (hafter : after = some found) :
    before = some found ∨ failure = some found := by
  rcases h with rfl | rfl
  · rcases Option.or_eq_some_iff.1 hafter with hbefore | ⟨-, hfailure⟩
    · exact .inl hbefore
    · exact .inr hfailure
  · rcases Option.or_eq_some_iff.1 hafter with hfailure | ⟨-, hbefore⟩
    · exact .inr hfailure
    · exact .inl hbefore

/-- Nothing that was pending or raised is lost without another taking its place. -/
theorem Pends.isSome (h : Pends before failure after) (hsome : before.isSome = true ∨ failure.isSome = true) :
    after.isSome = true := by
  rcases h with rfl | rfl
  · rwa [Option.isSome_or, Bool.or_eq_true]
  · rwa [Option.isSome_or, Bool.or_eq_true, or_comm]

end

section

variable {failure failure' : Option Fault} {w w' w'' : Worker}

theorem new_sound (slice : Nat) : (new slice).Sound :=
  ⟨fun h => (nomatch h), fun h => (nomatch h)⟩

/-- What keeps the failure, and raises none. -/
theorem suffers_none (hsound : w'.Sound) (hfault : w'.fault = w.fault)
    (hidle : w.isIdle = true → w'.isIdle = true) : Suffers none w w' :=
  ⟨hsound, pends_none.2 hfault, fun hsome => (nomatch hsome), fun hwas => ⟨hidle hwas, rfl⟩⟩

theorem Suffers.refl (h : w.Sound) : Suffers none w w := suffers_none h rfl id

theorem Suffers.fault (h : Suffers none w w') : w'.fault = w.fault := pends_none.1 h.pends

/-- After a first failure there is no second one: it ended the grant. -/
theorem Suffers.once (h : Suffers failure w w') (h' : Suffers failure' w' w'') :
    failure = none ∨ failure' = none := by
  cases failure with
  | none => exact .inl rfl
  | some fault => exact .inr (h'.idle (h.ends rfl)).2

theorem Suffers.trans (h : Suffers failure w w') (h' : Suffers failure' w' w'') :
    Suffers (failure.or failure') w w'' := by
  refine ⟨h'.sound, h.pends.trans h'.pends (h.once h'), fun hsome => ?_, fun hidle => ?_⟩
  · rw [Option.isSome_or, Bool.or_eq_true] at hsome
    exact hsome.elim (fun hfirst => (h'.idle (h.ends hfirst)).1) h'.ends
  · obtain ⟨hidle', rfl⟩ := h.idle hidle
    exact h'.idle hidle'

theorem begin_suffers (h : w.Sound) : Suffers none w w.begin := by
  unfold begin
  split
  · next cycles hgranted =>
    have hbusy : w.isIdle = false := by
      unfold isIdle
      rw [hgranted]
      rfl
    refine suffers_none ⟨fun _ => h.busy hbusy, h.thread⟩ rfl fun hidle => ?_
    rw [hidle] at hbusy
    cases hbusy
  · exact .refl h

theorem drop_suffers (h : w.Sound) : Suffers none w w.drop := by
  unfold drop
  split
  · exact .refl h
  · exact suffers_none ⟨fun hbusy => (nomatch hbusy), h.thread⟩ rfl fun _ => rfl
  · exact suffers_none ⟨fun hbusy => (nomatch hbusy), h.thread⟩ rfl fun _ => rfl

theorem drop_isIdle (w : Worker) : w.drop.isIdle = true := by
  obtain ⟨slice, activity, running, spawned, executed, fault⟩ := w
  cases activity <;> rfl

theorem start_suffers (h : w.Sound) (refusal : Option String) : Suffers none w (w.start refusal).2 := by
  rcases w.start_cases refusal with ⟨-, he⟩ | ⟨-, he⟩ | ⟨reason, -, hrunning, he⟩ <;> rw [he]
  · exact .refl h
  · exact suffers_none ⟨fun _ => rfl, fun _ => rfl⟩ rfl id
  · refine suffers_none ⟨h.busy, fun hruns => ?_⟩ rfl id
    cases hrunning.symm.trans hruns

theorem takeFault_sound (h : w.Sound) : w.takeFault.2.Sound := ⟨h.busy, h.thread⟩

theorem grant_sound (h : w.Sound) (cycles : Nat) : (w.grant cycles).2.Sound := by
  unfold grant
  split
  · next hc =>
    refine ⟨fun _ => ?_, h.thread⟩
    simp only [Bool.and_eq_true] at hc
    exact hc.1.1
  · exact h

theorem grant_fault (w : Worker) (cycles : Nat) : (w.grant cycles).2.fault = w.fault := by
  unfold grant
  split <;> rfl

/-- A slice leaves its failure with the worker; a panic leaves the one there was. -/
theorem afterSlice_suffers {left done : Nat} (h : w.Sound) (hbusy : w.activity = .busy left done)
    (cycles : Nat) (outcome : SliceEnd) :
    Suffers outcome.failure? w (w.afterSlice left done cycles outcome) := by
  have hidle : w.isIdle = false := by
    unfold isIdle
    rw [hbusy]
    rfl
  have hnever {P : Prop} (hwas : w.isIdle = true) : P := by
    rw [hidle] at hwas
    cases hwas
  cases outcome with
  | completed =>
    unfold afterSlice
    dsimp only
    split
    · exact suffers_none ⟨fun hnone => (nomatch hnone), h.thread⟩ rfl hnever
    · exact suffers_none ⟨fun _ => h.busy hidle, h.thread⟩ rfl hnever
  | faulted fault =>
    exact ⟨⟨fun hnone => (nomatch hnone), h.thread⟩, .inr rfl, fun _ => rfl, hnever⟩
  | panicked =>
    refine ⟨⟨fun hnone => (nomatch hnone), fun hnone => (nomatch hnone)⟩, .inl ?_, fun _ => rfl, hnever⟩
    show some (w.fault.getD panicFault) = w.fault.or (some panicFault)
    cases w.fault <;> rfl

end

/-! ### Promptness -/

section

variable {w w' : Worker}

theorem prompt_of_isIdle (h : w.isIdle = true) : w.Prompt := fun _ => h

theorem prompt_of_fault (h : w.fault = none) : w.Prompt := by
  intro hsome
  rw [h] at hsome
  cases hsome

theorem Turn.prompt (h : Turn w w') (hprompt : w.Prompt) : w'.Prompt := by
  cases h with
  | work h =>
    cases h with
    | begin =>
      unfold begin
      split
      · next cycles hgranted =>
        intro hsome
        rw [Prompt, isIdle, hgranted] at hprompt
        cases hprompt hsome
      · exact hprompt
    | @slice left done hbusy outcome =>
      cases outcome with
      | completed =>
        unfold afterSlice
        dsimp only
        split
        · exact prompt_of_isIdle rfl
        · intro hsome
          rw [Prompt, isIdle, hbusy] at hprompt
          cases hprompt hsome
      | faulted fault => exact prompt_of_isIdle rfl
      | panicked => exact prompt_of_isIdle rfl
  | drop => exact prompt_of_isIdle (drop_isIdle _)
  | join => exact hprompt
  | takeFault => exact prompt_of_fault rfl
  | start refusal =>
    rcases w.start_cases refusal with ⟨-, he⟩ | ⟨-, he⟩ | ⟨reason, -, -, he⟩ <;> rw [he] <;> exact hprompt

/-- Only a grant can have a worker with a failure go on. -/
theorem GoesOn.prompt (h : GoesOn w w') (hprompt : w.Prompt) : w'.Prompt := by
  induction h with
  | refl => exact hprompt
  | tail _ hturn ih => exact hturn.prompt ih

end

/-- A relation that tells the first failure among slices. -/
structure Traces (run : Nat → σ → SliceEnd × σ) (R : Option Fault → σ → σ → Prop) : Prop where
  refl : ∀ s, R none s s
  trans : ∀ {failure failure' a b c}, R failure a b → R failure' b c → R (failure.or failure') a c
  slice : ∀ cycles s, R (run cycles s).1.failure? s (run cycles s).2

/-- Slices were run that raised some failure, or none, and the worker suffered it. -/
def Fails (R : Option Fault → σ → σ → Prop) (a b : Worker × σ) : Prop :=
  ∃ failure, R failure a.2 b.2 ∧ Suffers failure a.1 b.1

section

variable {R : Option Fault → σ → σ → Prop}

theorem Traces.fails_refl (h : Traces run R) {w w' : Worker} (hw : Suffers none w w') (s : σ) :
    Fails R (w, s) (w', s) := ⟨none, h.refl s, hw⟩

theorem Traces.fails_trans (h : Traces run R) {a b c : Worker × σ} (h₁ : Fails R a b) (h₂ : Fails R b c) :
    Fails R a c := by
  obtain ⟨failure, htraces, hsuffers⟩ := h₁
  obtain ⟨failure', htraces', hsuffers'⟩ := h₂
  exact ⟨_, h.trans htraces htraces', hsuffers.trans hsuffers'⟩

theorem Fails.sound {a b : Worker × σ} (h : Fails R a b) : b.1.Sound := h.elim fun _ h => h.2.sound

theorem runSlice_fails (h : Traces run R) {w : Worker} (hw : w.Sound) (s : σ) :
    Fails R (w, s) (w.runSlice run s) := by
  unfold runSlice
  split
  · next left done hbusy => exact ⟨_, h.slice _ s, afterSlice_suffers hw hbusy _ _⟩
  · exact h.fails_refl (.refl hw) s

theorem runSlices_fails (h : Traces run R) (n : Nat) {w : Worker} (hw : w.Sound) (s : σ) :
    Fails R (w, s) (runSlices run n w s) := by
  induction n generalizing w s with
  | zero => exact h.fails_refl (.refl hw) s
  | succ n ih =>
    have hslice := runSlice_fails h hw s
    unfold runSlices
    split
    · exact h.fails_refl (.refl hw) s
    · exact h.fails_trans hslice (ih hslice.sound _)

theorem progress_fails (h : Traces run R) (slices : Nat) {w : Worker} (hw : w.Sound) (s : σ) :
    Fails R (w, s) (progress run slices w s) := by
  have hbegin := begin_suffers hw
  exact h.fails_trans (h.fails_refl hbegin s) (runSlices_fails h slices hbegin.sound s)

theorem stopSlices_fails (h : Traces run R) {w : Worker} (hw : w.Sound) (s : σ) :
    Fails R (w, s) (stopSlices run w s) := by
  have hslice := runSlice_fails h hw s
  exact h.fails_trans hslice (h.fails_refl (drop_suffers hslice.sound) _)

/-- A cancellation raises what the slice in hand raises, and leaves nothing of it. -/
theorem cancel_traces (h : Traces run R) {w : Worker} (hw : w.Sound) (s : σ) :
    (∃ failure, R failure s (cancel run w s).2 ∧ (w.isIdle = true → failure = none)) ∧
      (cancel run w s).1.Sound ∧ (cancel run w s).1.isIdle = true ∧ (cancel run w s).1.fault = none := by
  obtain ⟨failure, htraces, hsuffers⟩ := stopSlices_fails h hw s
  exact ⟨⟨failure, htraces, fun hidle => (hsuffers.idle hidle).2⟩, takeFault_sound hsuffers.sound,
    drop_isIdle _, rfl⟩

/-- A thread that ends leaves no cycles behind. -/
theorem shutdown_fails (h : Traces run R) {w : Worker} (hw : w.Sound) (s : σ) :
    Fails R (w, s) (shutdown run w s) ∧ (shutdown run w s).1.isIdle = true := by
  have hstop := stopSlices_fails h hw s
  unfold shutdown
  split
  · have hidle : (stopSlices run w s).1.isIdle = true := drop_isIdle _
    have hjoin : Suffers none (stopSlices run w s).1
        { (stopSlices run w s).1 with running := false, spawned := false } := by
      refine suffers_none ⟨fun hbusy => ?_, fun hnone => (nomatch hnone)⟩ rfl id
      replace hbusy : (stopSlices run w s).1.isIdle = false := hbusy
      rw [hidle] at hbusy
      cases hbusy
    exact ⟨h.fails_trans hstop (h.fails_refl hjoin _), hidle⟩
  · next hspawned =>
    refine ⟨h.fails_refl (.refl hw) s, ?_⟩
    by_contra hbusy
    exact hspawned (hw.thread (hw.busy (Bool.eq_false_iff.2 hbusy)))

end

end Worker

namespace Machine

open Worker (Suffers)

/-! ## Pieces that run no slice -/

/-- The worker is left alone, and no emulator raises a failure. -/
structure Idles (a b : Machine × Hardware) : Prop where
  id : b.1.id = a.1.id
  worker : b.1.worker = a.1.worker
  adds : a.2.Adds Event.Mild b.2

section

variable {a b c : Machine × Hardware} {m m' : Machine} {hw hw' : Hardware}

theorem Idles.trans (h : Idles a b) (h' : Idles b c) : Idles a c :=
  ⟨h'.id.trans h.id, h'.worker.trans h.worker, h.adds.trans h'.adds⟩

/-- Calls of devices alone. -/
theorem idles_of_adds (m : Machine) (h : hw.Adds Event.Mild hw') : Idles (m, hw) (m, hw') := ⟨rfl, rfl, h⟩

theorem SameInside.idles (h : m.SameInside m') (hw : Hardware) : Idles (m, hw) (m', hw) :=
  ⟨h.id, h.worker, .refl _ hw⟩

/-- Only slices raise failures. -/
theorem Stands.idles (h : Stands a b) : Idles a b := by
  refine ⟨h.id, h.worker, h.adds.mono fun e he id => ?_⟩
  cases e with
  | emulator machine call =>
    cases call with
    | run cycles outcome input output => cases he.isSlice
    | _ => rfl
  | _ => rfl

theorem releaseDevices_idles (m : Machine) (hw : Hardware) : Idles (m, hw) (m.releaseDevices hw) :=
  (m.releaseDevices_stands hw).idles

theorem attachAll_idles (m : Machine) (keepState : Bool) (hw : Hardware) :
    Idles (m, hw) (m.attachAll keepState hw).2 := (m.attachAll_stands keepState hw).idles

theorem observe_idles (m : Machine) (s : Site) :
    Idles (m, s.hardware) ((m.observe s).1, (m.observe s).2.hardware) := (m.observe_stands s).idles

end

/-! ## Pieces that run slices -/

/-- Slices were run that raised this failure first, or none, and the worker suffered it. -/
structure Bears (failure : Option Fault) (a b : Machine × Hardware) : Prop where
  id : b.1.id = a.1.id
  yields : a.2.Yields a.1.id failure b.2
  suffers : Suffers failure a.1.worker b.1.worker

section

variable {failure failure' : Option Fault} {a b c : Machine × Hardware} {m : Machine}

theorem Bears.trans (h : Bears failure a b) (h' : Bears failure' b c) :
    Bears (failure.or failure') a c := by
  have hyields := h'.yields
  rw [h.id] at hyields
  exact ⟨h'.id.trans h.id, h.yields.trans hyields, h.suffers.trans h'.suffers⟩

theorem Idles.bears (h : Idles a b) (hsound : a.1.worker.Sound) : Bears none a b := by
  refine ⟨h.id, h.adds.yields _, ?_⟩
  rw [h.worker]
  exact .refl hsound

theorem Bears.idles (h : Bears failure a b) (h' : Idles b c) : Bears failure a c := by
  have hbears := h.trans (h'.bears h.suffers.sound)
  rwa [Option.or_none] at hbears

theorem Idles.thenBears (h : Idles a b) (h' : Bears failure b c) : Bears failure a c := by
  have hyields := (h.adds.yields a.1.id).trans (h.id ▸ h'.yields)
  exact ⟨h'.id.trans h.id, hyields, h.worker ▸ h'.suffers⟩

end

/-- A slice raises the failure that it ends with. -/
theorem runSlice_traces (id : MachineId) : Worker.Traces (runSlice id) fun failure g g' =>
    g.hardware.Yields id failure g'.hardware where
  refl g := .refl id g.hardware
  trans := .trans
  slice cycles g := by
    have hcall := Hardware.yields_call id (.emulator id (.run cycles (runSlice id cycles g).1
      (g.terminal.input.take (g.terminal.input.length - (runSlice id cycles g).2.terminal.input.length))
      ((runSlice id cycles g).2.terminal.pending.length - g.terminal.pending.length))) g.hardware
    rwa [Event.raised?, if_pos rfl] at hcall

section

variable {m : Machine}

theorem stepWorker_bears {step : WorkerStep} (hw : Hardware)
    (hstep : ∀ {R}, Worker.Traces (runSlice m.id) R →
      ∀ g, Worker.Fails R (m.worker, g) (step (runSlice m.id) m.worker g)) :
    ∃ failure, Bears failure (m, hw) (m.stepWorker step hw) := by
  obtain ⟨failure, hyields, hsuffers⟩ := hstep (runSlice_traces m.id) ⟨m.emulator, m.terminal, hw⟩
  exact ⟨failure, rfl, hyields, hsuffers⟩

theorem advance_bears (h : m.worker.Sound) (slices : Nat) (hw : Hardware) :
    ∃ failure, Bears failure (m, hw) (m.advance slices hw) :=
  stepWorker_bears hw fun htraces g => Worker.progress_fails htraces slices h g

theorem quiesce_bears (h : m.worker.Sound) (hw : Hardware) :
    ∃ failure, Bears failure (m, hw) (m.quiesce hw) := advance_bears h m.worker.slicesLeft hw

theorem shutdown_bears (h : m.worker.Sound) (hw : Hardware) :
    (∃ failure, Bears failure (m, hw) (m.shutdown hw)) ∧ (m.shutdown hw).1.worker.isIdle = true :=
  ⟨stepWorker_bears hw fun htraces g => (Worker.shutdown_fails htraces h g).1,
    (Worker.shutdown_fails (runSlice_traces m.id) h ⟨m.emulator, m.terminal, hw⟩).2⟩

end

end Machine

end DeviceBus
