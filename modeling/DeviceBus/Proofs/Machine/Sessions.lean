import DeviceBus.Proofs.Machine.Faults

/-!
# Sessions

A machine is in a session as long as it runs.  The failure that its worker has is then pending
(`Machine.pending`): swaps, suspensions and ticks on a bus that is not ready keep it, a load that resumes
keeps it, a boot begins with none (`Machine.Leaves`, `Station.step_leaves`).  Out of a session the worker
is idle and raises nothing (`Machine.Sound`).

A tick that steps the emulation halts the machine with what is pending, or with what its swap raised
(`Machine.Reaches.fault`, `Machine.Reaches.halts`).  What a slice raises after the tick looked for a failure
is pending afterwards, and the machine runs on.
-/

namespace DeviceBus

namespace Machine

open Worker (Pends)

/-! ## Sessions -/

/-- What holds of a machine between operations: its worker is sound, and it holds cycles and has devices
attached only while it runs. -/
structure Sound (m : Machine) : Prop where
  worker : m.worker.Sound
  idle : m.runState ≠ .running → m.worker.isIdle = true
  map : m.map.isSome = true → m.runState = .running

/-- The failure of the session that the machine is in, until it is taken. -/
def pending (m : Machine) : Option Fault := if m.runState = .running then m.worker.fault else none

/-- A piece of a machine's program raised this failure, or none.  If the machine runs afterwards it is
pending, or the one that was pending before; and none is raised by an idle worker, or out of a session. -/
structure Leaves (failure : Option Fault) (a b : Machine × Hardware) : Prop where
  id : b.1.id = a.1.id
  yields : a.2.Yields a.1.id failure b.2
  sound : b.1.Sound
  pends : b.1.runState = .running → Pends a.1.pending failure b.1.pending
  spared : a.1.worker.isIdle = true → failure = none
  still : a.1.runState ≠ .running → failure = none

/-- A piece of a machine's program that grants nothing once the worker is idle, or raised a failure. -/
structure Closes (failure : Option Fault) (a b : Machine × Hardware) : Prop extends Leaves failure a b where
  closes : a.1.worker.isIdle = true ∨ failure.isSome = true → b.1.worker.isIdle = true

/-- A piece of a machine's program raised this failure first, or none, and the worker is idle. -/
structure Drops (failure : Option Fault) (a b : Machine × Hardware) : Prop where
  id : b.1.id = a.1.id
  yields : a.2.Yields a.1.id failure b.2
  sound : b.1.worker.Sound
  idle : b.1.worker.isIdle = true
  spared : a.1.worker.isIdle = true → failure = none

section

variable {failure failure' : Option Fault} {a b c : Machine × Hardware} {m m' : Machine}

theorem pending_of_running (h : m.runState = .running) : m.pending = m.worker.fault := if_pos h

theorem pending_of_not_running (h : m.runState ≠ .running) : m.pending = none := if_neg h

/-- A sound machine that does not run has no map. -/
theorem Sound.map_none (h : m.Sound) (hrun : m.runState ≠ .running) : m.map = none := by
  rw [← Option.not_isSome_iff_eq_none]
  intro hsome
  exact hrun (h.map hsome)

/-- What is the same in the worker, and no more than before in the map, is as sound as it was. -/
theorem Sound.congr (h : m.Sound) (hworker : m'.worker = m.worker) (hrun : m'.runState = m.runState)
    (hmap : m'.map.isSome = true → m.map.isSome = true) : m'.Sound := by
  refine ⟨by rw [hworker]; exact h.worker, fun hstate => ?_, fun hsome => ?_⟩
  · rw [hworker]
    exact h.idle (hrun ▸ hstate)
  · rw [hrun]
    exact h.map (hmap hsome)

theorem Bears.closes (h : Bears failure a b) (ha : a.1.Sound) (hrun : b.1.runState = a.1.runState)
    (hmap : b.1.map.isSome = true → a.1.map.isSome = true) : Closes failure a b where
  id := h.id
  yields := h.yields
  sound := by
    refine ⟨h.suffers.sound, fun hstate => ?_, fun hsome => ?_⟩
    · exact (h.suffers.idle (ha.idle (hrun ▸ hstate))).1
    · rw [hrun]
      exact ha.map (hmap hsome)
  pends hstate := by
    rw [pending_of_running hstate, pending_of_running (hrun ▸ hstate)]
    exact h.suffers.pends
  spared hidle := (h.suffers.idle hidle).2
  still hstate := (h.suffers.idle (ha.idle hstate)).2
  closes hstate := hstate.elim (fun hidle => (h.suffers.idle hidle).1) h.suffers.ends

theorem Idles.closes (h : Idles a b) (ha : a.1.Sound) (hrun : b.1.runState = a.1.runState)
    (hmap : b.1.map.isSome = true → a.1.map.isSome = true) : Closes none a b :=
  (h.bears ha.worker).closes ha hrun hmap

theorem Closes.refl (h : m.Sound) (hw : Hardware) : Closes none (m, hw) (m, hw) :=
  Idles.closes ⟨rfl, rfl, .refl _ hw⟩ h rfl fun hsome => hsome

/-- A failure is raised only once: the worker is idle from there on. -/
theorem Closes.once (h : Closes failure a b) (h' : Leaves failure' b c) : failure = none ∨ failure' = none := by
  cases failure with
  | none => exact .inl rfl
  | some fault => exact .inr (h'.spared (h.closes (.inr rfl)))

theorem Closes.leaves (h : Closes failure a b) (hrun : b.1.runState = .running ↔ a.1.runState = .running)
    (h' : Leaves failure' b c) : Leaves (failure.or failure') a c := by
  have hpends : Pends a.1.pending failure b.1.pending := by
    by_cases hstate : b.1.runState = .running
    · exact h.pends hstate
    · have hstate' : a.1.runState ≠ .running := fun ha => hstate (hrun.2 ha)
      rw [pending_of_not_running hstate, pending_of_not_running hstate', h.still hstate']
      exact .refl none
  have hyields := h'.yields
  rw [h.id] at hyields
  refine ⟨h'.id.trans h.id, h.yields.trans hyields, h'.sound, fun hstate => ?_, fun hwas => ?_,
    fun hstate => ?_⟩
  · exact hpends.trans (h'.pends hstate) (h.once h')
  · rw [h.spared hwas]
    exact h'.spared (h.closes (.inl hwas))
  · rw [h.still hstate]
    exact h'.still fun hb => hstate (hrun.1 hb)

theorem Closes.trans (h : Closes failure a b) (hrun : b.1.runState = .running ↔ a.1.runState = .running)
    (h' : Closes failure' b c) : Closes (failure.or failure') a c := by
  refine ⟨h.leaves hrun h'.toLeaves, fun hstate => ?_⟩
  rw [Option.isSome_or, Bool.or_eq_true, ← or_assoc] at hstate
  exact h'.closes (hstate.imp_left h.closes)

theorem Leaves.idles (h : Leaves failure a b) (h' : Idles b c) (hsteady : b.1.Steady c.1) :
    Leaves failure a c := by
  have hyields := h.yields.trans (h'.adds.yields a.1.id)
  rw [Option.or_none] at hyields
  refine ⟨h'.id.trans h.id, hyields, h.sound.congr h'.worker hsteady.runState fun hsome => hsteady.map ▸ hsome,
    fun hstate => ?_, h.spared, h.still⟩
  have hpending : c.1.pending = b.1.pending := by
    unfold pending
    rw [hsteady.runState, h'.worker]
  rw [hpending]
  exact h.pends (hsteady.runState ▸ hstate)

theorem Bears.drops (h : Bears failure a b) (hidle : b.1.worker.isIdle = true) : Drops failure a b :=
  ⟨h.id, h.yields, h.suffers.sound, hidle, fun hwas => (h.suffers.idle hwas).2⟩

theorem Drops.idles (h : Drops failure a b) (h' : Idles b c) : Drops failure a c := by
  have hyields := h.yields.trans (h'.adds.yields a.1.id)
  rw [Option.or_none] at hyields
  refine ⟨h'.id.trans h.id, hyields, ?_, ?_, h.spared⟩
  · rw [h'.worker]
    exact h.sound
  · rw [h'.worker]
    exact h.idle

/-- A session that is over leaves nothing pending. -/
theorem Drops.closes (h : Drops failure a b) (ha : a.1.Sound) (hrun : b.1.runState ≠ .running)
    (hmap : b.1.map = none) : Closes failure a b where
  id := h.id
  yields := h.yields
  sound := by
    refine ⟨h.sound, fun _ => h.idle, fun hsome => ?_⟩
    rw [hmap] at hsome
    cases hsome
  pends hstate := absurd hstate hrun
  spared := h.spared
  still hstate := h.spared (ha.idle hstate)
  closes _ := h.idle

theorem cancel_drops (h : m.worker.Sound) (hw : Hardware) :
    ∃ failure, Drops failure (m, hw) (m.cancel hw) := by
  obtain ⟨⟨failure, hyields, hspared⟩, hsound, hidle, -⟩ :=
    Worker.cancel_traces (runSlice_traces m.id) h ⟨m.emulator, m.terminal, hw⟩
  exact ⟨failure, rfl, hyields, hsound, hidle, hspared⟩

theorem halt_drops (h : m.worker.Sound) (error : BootError) (hw : Hardware) :
    ∃ failure, Drops failure (m, hw) (m.halt error hw) := by
  obtain ⟨failure, hcancel⟩ := cancel_drops h hw
  refine ⟨failure, ?_⟩
  unfold halt
  generalize m.cancel hw = p at hcancel
  obtain ⟨m₁, hw₁⟩ := p
  have hrelease := hcancel.idles (m₁.releaseDevices_idles hw₁)
  dsimp only
  generalize m₁.releaseDevices hw₁ = p at hrelease
  obtain ⟨m₂, hw₂⟩ := p
  have hresume : Idles (m₂, hw₂) ({ m₂ with resume := false }, hw₂) := ⟨rfl, rfl, .refl _ hw₂⟩
  exact hrelease.idles (hresume.trans ((settle_sameInside _ _ _).idles hw₂))

theorem halt_closes (h : m.Sound) (error : BootError) (hw : Hardware) :
    ∃ failure, Closes failure (m, hw) (m.halt error hw) := by
  obtain ⟨failure, hdrops⟩ := halt_drops h.worker error hw
  obtain ⟨hrun, -, hmap⟩ := m.halt_outcome error hw
  exact ⟨failure, hdrops.closes h (by rw [hrun]; decide) hmap⟩

/-! ## Loads -/

/-- A load that resumes keeps what is pending, a boot begins with nothing, and without a thread the session
is over. -/
theorem enter_closes (h : m.Sound) {keepState : Bool} (hkeeps : keepState = true ↔ m.runState = .running)
    (map : DeviceMap) (hw : Hardware) : ∃ failure, Closes failure (m, hw) (m.enter keepState map hw) := by
  obtain ⟨result, worker, hworker, houtcome⟩ := m.enter_cases keepState map hw
  have hkept : (if keepState then m.worker else m.worker.takeFault.2).Sound := by
    split
    · exact h.worker
    · exact Worker.takeFault_sound h.worker
  have hstart := Worker.start_suffers hkept m.platform.refusal
  rw [hworker] at hstart
  dsimp only at hstart houtcome
  have hidle (hwas : m.worker.isIdle = true) : worker.isIdle = true := by
    refine (hstart.idle ?_).1
    split <;> exact hwas
  rcases houtcome with ⟨-, -, he⟩ | ⟨reason, -, -, he⟩
  · have hstate : (m.enter keepState map hw).1.runState = .running := by
      rw [he]
      exact setRunState_runState _ _
    have hentered : (m.enter keepState map hw).1.worker = worker := by
      rw [he]
      exact (settle_sameInside _ none .running).worker
    have hpending : (m.enter keepState map hw).1.pending = m.pending := by
      rw [pending_of_running hstate, hentered, hstart.fault]
      cases keepState with
      | true => exact (pending_of_running (hkeeps.1 rfl)).symm
      | false => exact (pending_of_not_running fun hrun => (nomatch hkeeps.2 hrun)).symm
    have hhardware : (m.enter keepState map hw).2 = hw := by rw [he]
    have hid : (m.enter keepState map hw).1.id = m.id := by
      rw [he]
      exact (settle_sameInside _ none .running).id
    refine ⟨none, ⟨hid, ?_, ⟨?_, fun hnot => absurd hstate hnot, fun _ => hstate⟩, fun _ => ?_, fun _ => rfl,
      fun _ => rfl⟩, fun hwas => ?_⟩
    · rw [hhardware]
      exact .refl _ _
    · rw [hentered]
      exact hstart.sound
    · rw [hpending]
      exact .refl _
    · rw [hentered]
      exact hidle (hwas.resolve_right Bool.false_ne_true)
  · rw [he]
    obtain ⟨failure, hhalt⟩ := halt_drops (m := { m with map := some map, media := .empty, worker })
      hstart.sound (.io reason) hw
    obtain ⟨hrun, -, hmap⟩ :=
      halt_outcome { m with map := some map, media := .empty, worker } (.io reason) hw
    have hdrops : Drops failure (m, hw)
        (({ m with map := some map, media := .empty, worker } : Machine).halt (.io reason) hw) :=
      ⟨hhalt.id, hhalt.yields, hhalt.sound, hhalt.idle, fun hwas => hhalt.spared (hidle hwas)⟩
    exact ⟨failure, hdrops.closes h (by rw [hrun]; decide) hmap⟩

theorem load_closes (h : m.Sound) (hbegins : m.Begins) (hw : Hardware) :
    ∃ failure, Closes failure (m, hw) (m.load hw) := by
  have hkeeps : m.resume = true ↔ m.runState = .running := by
    rcases hbegins with ⟨hrun, hresume⟩ | ⟨hrun, hresume⟩ <;> rw [hrun, hresume] <;> decide
  have hresume : Idles (m, hw) ({ m with resume := false }, hw) := ⟨rfl, rfl, .refl _ hw⟩
  obtain ⟨failure, hquiesce⟩ := quiesce_bears (m := { m with resume := false }) h.worker hw
  have hsteady : m.Steady (({ m with resume := false } : Machine).quiesce hw).1 := ⟨rfl, rfl, rfl⟩
  replace hquiesce := hresume.thenBears hquiesce
  unfold load
  generalize ({ m with resume := false } : Machine).quiesce hw = p at hquiesce hsteady
  obtain ⟨m₁, hw₁⟩ := p
  have hattach := hquiesce.idles (m₁.attachAll_idles m.resume hw₁)
  have hattached := hsteady.trans (m₁.attachAll_steady m.resume hw₁)
  dsimp only
  generalize m₁.attachAll m.resume hw₁ = r at hattach hattached
  obtain ⟨result, m₂, hw₂⟩ := r
  have hcloses : Closes failure (m, hw) (m₂, hw₂) :=
    hattach.closes h hattached.runState fun hsome => hattached.map ▸ hsome
  have hrun : m₂.runState = .running ↔ m.runState = .running := by rw [hattached.runState]
  cases result with
  | ok map =>
    rw [← hrun] at hkeeps
    obtain ⟨failure', henter⟩ := enter_closes hcloses.sound hkeeps map hw₂
    exact ⟨_, hcloses.trans hrun henter⟩
  | error e =>
    obtain ⟨failure', hhalt⟩ := halt_closes hcloses.sound e hw₂
    exact ⟨_, hcloses.trans hrun hhalt⟩

end

/-! ## Starting and stopping -/

section

variable {m : Machine}

theorem start_closes (h : m.Sound) (hw : Hardware) :
    ∃ failure, Closes failure (m, hw) (m.start hw).2 := by
  have haccept (hstart : m.startable = true) : Closes none (m, hw) (m.accept, hw) ∧
      (m.accept.runState = .running ↔ m.runState = .running) := by
    have hrun := not_running_of_startable hstart
    have hloading : m.accept.runState = .loading := setRunState_runState _ _
    have hnot : m.accept.runState ≠ .running := by
      rw [hloading]
      decide
    have hmap : m.accept.map = none := m.accept_map.trans (h.map_none hrun)
    have hresume : Idles (m, hw) ({ m with resume := false }, hw) := ⟨rfl, rfl, .refl _ hw⟩
    have hidles := hresume.trans ((setRunState_sameInside _ .loading).idles hw)
    have hbears := hidles.bears h.worker
    exact ⟨(hbears.drops (hbears.suffers.idle (h.idle hrun)).1).closes h hnot hmap, iff_of_false hnot hrun⟩
  cases hload : m.startLoad? hw with
  | some p =>
    obtain ⟨hstart, rfl⟩ := startLoad?_moment hload
    obtain ⟨hcloses, hrun⟩ := haccept hstart
    have hbegins : m.accept.Begins :=
      .inl ⟨setRunState_runState _ _, (setRunState_sameInside _ .loading).resume⟩
    obtain ⟨failure, hloaded⟩ := load_closes hcloses.sound hbegins hw
    rw [start_of_some hload]
    exact ⟨_, hcloses.trans hrun hloaded⟩
  | none =>
    rw [start_of_none hload]
    dsimp only
    split
    · next hstart => exact ⟨_, (haccept hstart).1⟩
    · exact ⟨_, .refl h hw⟩

theorem stop_closes (h : m.Sound) (hw : Hardware) : ∃ failure, Closes failure (m, hw) (m.stop hw) := by
  unfold stop
  split
  · have hstopping := (m.setRunState_sameInside .stopping).idles hw
    have hsound : (m.setRunState .stopping).worker.Sound := by
      rw [(m.setRunState_sameInside .stopping).worker]
      exact h.worker
    obtain ⟨failure, hcancel⟩ := cancel_drops hsound hw
    generalize (m.setRunState .stopping).cancel hw = p at hcancel
    obtain ⟨m₁, hw₁⟩ := p
    have hrelease := hcancel.idles (m₁.releaseDevices_idles hw₁)
    have hmap := m₁.releaseDevices_map hw₁
    dsimp only
    generalize m₁.releaseDevices hw₁ = p at hrelease hmap
    obtain ⟨m₂, hw₂⟩ := p
    have hreset : Idles (m₂, hw₂) (({ m₂ with resume := false } : Machine).resetTerminal, hw₂) :=
      ⟨rfl, rfl, .refl _ hw₂⟩
    have hstopped := hrelease.idles (hreset.trans ((setRunState_sameInside _ .stopped).idles hw₂))
    have hdrops : Drops failure (m, hw)
        ((({ m₂ with resume := false } : Machine).resetTerminal).setRunState .stopped, hw₂) := by
      refine ⟨hstopped.id.trans hstopping.id, hstopping.id ▸ hstopped.yields, hstopped.sound, hstopped.idle, ?_⟩
      rw [← hstopping.worker]
      exact hstopped.spared
    refine ⟨failure, hdrops.closes h ?_ ((setRunState_sameInside _ _).map.trans hmap)⟩
    rw [setRunState_runState]
    decide
  · exact ⟨_, .refl h hw⟩

/-! ## Ticks -/

theorem clear_bears (h : m.worker.Sound) (hw : Hardware) :
    ∃ failure, Bears failure (m, hw) (m.clear hw) := by
  obtain ⟨failure, hquiesce⟩ := quiesce_bears h hw
  exact ⟨failure, hquiesce.idles (releaseDevices_idles _ _)⟩

/-- A load that swaps devices begins once those attached were released. -/
theorem absorbLoad?_eq {hw : Hardware} {p : Machine × Hardware} (h : m.absorbLoad? hw = some p) :
    let cleared := clear { m with controller := m.controller.takeChanges.2 } hw
    p = ({ cleared.1 with resume := true }, cleared.2) ∧ cleared.1.runState = .running := by
  unfold absorbLoad? swapLoad? at h
  dsimp only at h ⊢
  split at h
  · split at h
    · next hc =>
      cases h
      exact ⟨rfl, hc.1⟩
    · cases h
  · cases h

theorem absorbChanges_closes (h : m.Sound) (hw : Hardware) :
    ∃ failure, Closes failure (m, hw) (m.absorbChanges hw) := by
  have htaken : Idles (m, hw) ({ m with controller := m.controller.takeChanges.2 }, hw) :=
    ⟨rfl, rfl, .refl _ hw⟩
  obtain ⟨failure, hclear⟩ := clear_bears (m := { m with controller := m.controller.takeChanges.2 }) h.worker hw
  replace hclear := htaken.thenBears hclear
  have hrun := (clear_stays { m with controller := m.controller.takeChanges.2 } hw).runState
  have hmap : (clear { m with controller := m.controller.takeChanges.2 } hw).1.map = none :=
    releaseDevices_map _ _
  cases hload : m.absorbLoad? hw with
  | some p =>
    obtain ⟨hp, hrunning⟩ := absorbLoad?_eq hload
    dsimp only at hp hrunning
    have hbegin : Closes failure (m, hw) p := by
      rw [hp]
      refine Bears.closes (hclear.idles ⟨rfl, rfl, .refl _ _⟩) h hrun fun hsome => ?_
      replace hsome : (clear { m with controller := m.controller.takeChanges.2 } hw).1.map.isSome = true :=
        hsome
      rw [hmap] at hsome
      cases hsome
    have hbegins : p.1.Begins := by
      rw [hp]
      exact .inr ⟨hrunning, rfl⟩
    obtain ⟨failure', hloaded⟩ := load_closes hbegin.sound hbegins p.2
    rw [absorbChanges_of_some hload]
    refine ⟨_, hbegin.trans ?_ hloaded⟩
    rw [hp]
    exact iff_of_true hrunning (hrun ▸ hrunning)
  | none =>
    rw [absorbChanges_of_none hload]
    dsimp only
    split
    · refine ⟨failure, hclear.closes h hrun fun hsome => ?_⟩
      rw [hmap] at hsome
      cases hsome
    · exact ⟨none, htaken.closes h rfl fun hsome => hsome⟩

/-- Taking up the changes of the bus has no machine run that did not. -/
theorem absorbChanges_running {hw : Hardware} (h : (m.absorbChanges hw).1.runState = .running) :
    m.runState = .running := by
  have hrun := (clear_stays { m with controller := m.controller.takeChanges.2 } hw).runState
  cases hload : m.absorbLoad? hw with
  | some p => exact hrun.symm.trans (absorbLoad?_eq hload).2
  | none =>
    rw [absorbChanges_of_none hload] at h
    dsimp only at h
    split at h
    · exact hrun.symm.trans h
    · exact h

theorem drift_bears (h : m.worker.Sound) (slices : Option Nat) (hw : Hardware) :
    ∃ failure, Bears failure (m, hw) (m.drift slices hw) :=
  drift_cases (P := fun p => ∃ failure, Bears failure (m, hw) p)
    ⟨none, ((SameInside.refl m).idles hw).bears h⟩ (advance_bears h · hw) slices

/-- A grant runs nothing yet. -/
theorem grantAtOnce_leaves (h : m.Sound) (hrun : m.runState = .running) (energy : EnergySource)
    (hw : Hardware) : Leaves none (m, hw) ((m.grantAtOnce energy).1, hw) := by
  have hsteady := m.grantAtOnce_steady energy
  have hworker : (m.grantAtOnce energy).1.worker.Sound ∧
      (m.grantAtOnce energy).1.worker.fault = m.worker.fault := by
    unfold grantAtOnce
    split
    · exact ⟨h.worker, rfl⟩
    · dsimp only
      split
      · exact ⟨h.worker, rfl⟩
      · exact ⟨Worker.grant_sound h.worker _, Worker.grant_fault _ _⟩
  have hrun' := hsteady.runState.trans hrun
  refine ⟨(m.grantAtOnce_relays energy).id, .refl _ _, ?_, fun _ => ?_, fun _ => rfl, fun _ => rfl⟩
  · exact ⟨hworker.1, fun hnot => absurd hrun' hnot, fun _ => hrun'⟩
  · rw [pending_of_running hrun', pending_of_running hrun, hworker.2]
    exact .refl _

/-- Before a grant the worker may get on, and raise a failure. -/
theorem grantTick_leaves (h : m.Sound) (hrun : m.runState = .running) (energy : EnergySource)
    (hw : Hardware) :
    ∃ failure, Leaves failure (m, hw) ((m.grantTick energy hw).1, (m.grantTick energy hw).2.2) ∧
      (m.worker.fault = none → failure = (m.looked hw).worker.fault) := by
  unfold looked
  obtain ⟨failure, hdrift⟩ := drift_bears h.worker m.platform.look hw
  have hsteady := m.drift_steady m.platform.look hw
  rw [grantTick_eq]
  generalize m.drift m.platform.look hw = p at hdrift hsteady
  obtain ⟨m₁, hw₁⟩ := p
  have hcloses := hdrift.closes h hsteady.runState fun hsome => hsteady.map ▸ hsome
  have hgrant := grantAtOnce_leaves hcloses.sound (hsteady.runState.trans hrun) energy hw₁
  refine ⟨_, hcloses.leaves (by rw [hsteady.runState]) hgrant, fun hfault => ?_⟩
  have hpends := hdrift.suffers.pends
  rw [hfault, Worker.none_pends] at hpends
  rw [Option.or_none]
  exact hpends.symm

theorem step_leaves (h : m.Sound) (hrun : m.runState = .running) (energy : EnergySource) (hw : Hardware) :
    ∃ failure, Leaves failure (m, hw) ((m.step energy hw).1, (m.step energy hw).2.2) ∧
      (m.worker.fault = none → failure = (m.looked hw).worker.fault) := by
  unfold step
  split
  · next fault worker htake =>
    obtain rfl : worker = m.worker.takeFault.2 := (congrArg Prod.snd htake).symm
    obtain ⟨failure, hhalt⟩ := halt_drops (m := { m with worker := m.worker.takeFault.2 })
      (Worker.takeFault_sound h.worker) (.emulation fault) hw
    have hdrops : Drops failure (m, hw)
        (({ m with worker := m.worker.takeFault.2 } : Machine).halt (.emulation fault) hw) :=
      ⟨hhalt.id, hhalt.yields, hhalt.sound, hhalt.idle, hhalt.spared⟩
    obtain ⟨herror, -, hmap⟩ := halt_outcome { m with worker := m.worker.takeFault.2 } (.emulation fault) hw
    refine ⟨failure, (hdrops.closes h (by rw [herror]; decide) hmap).toLeaves, fun hnone => ?_⟩
    cases hnone.symm.trans (congrArg Prod.fst htake)
  · exact grantTick_leaves h hrun energy hw

theorem proceed_leaves (h : m.Sound) (hpoised : m.Poised) (energy : EnergySource) (hw : Hardware) :
    ∃ failure, Leaves failure (m, hw) ((m.proceed energy hw).1, (m.proceed energy hw).2.2) := by
  cases hload : m.proceedLoad? hw with
  | some p =>
    rw [proceed_of_some hload]
    rcases proceedLoad?_moment hload with ⟨hrun, rfl⟩ | ⟨hrun, rfl⟩
    · obtain ⟨failure, hloaded⟩ := load_closes h (.inl ⟨hrun, hpoised.resume hrun⟩) hw
      exact ⟨failure, hloaded.toLeaves⟩
    · have hresume : Closes none (m, hw) ({ m with resume := true }, hw) :=
        Idles.closes ⟨rfl, rfl, .refl _ hw⟩ h rfl fun hsome => hsome
      obtain ⟨failure, hloaded⟩ := load_closes hresume.sound (.inr ⟨hrun, rfl⟩) hw
      exact ⟨_, hresume.leaves .rfl hloaded.toLeaves⟩
  | none =>
    rcases proceed_of_none hload energy with he | ⟨hrun, -, he⟩
    · rw [he]
      exact ⟨none, (Closes.refl h hw).toLeaves⟩
    · rw [he]
      obtain ⟨failure, hstep, -⟩ := step_leaves h hrun energy hw
      exact ⟨failure, hstep⟩

/-- The machine and the devices once a tick took up the changes of the bus. -/
def takeUp (m : Machine) (s : Site) : Machine × Hardware :=
  let (m, s) := m.observe s
  m.absorbChanges s.hardware

theorem takeUp_closes (h : m.Sound) (s : Site) :
    ∃ failure, Closes failure (m, s.hardware) (m.takeUp s) := by
  have hobserve := (m.observe_idles s).closes h (m.observe_stays s).runState
    fun hsome => (m.observe_steady s).map ▸ hsome
  obtain ⟨failure, habsorb⟩ := absorbChanges_closes hobserve.sound (m.observe s).2.hardware
  exact ⟨_, hobserve.trans (by rw [(m.observe_stays s).runState]) habsorb⟩

theorem tick_leaves (h : m.Sound) (hpoised : m.Poised) (energy : EnergySource) (s : Site) :
    ∃ failure, Leaves failure (m, s.hardware) ((m.tick energy s).1, (m.tick energy s).2.2.hardware) := by
  obtain ⟨failure, htaken⟩ := takeUp_closes h s
  have hobserve : Follows .tick m (m.observe s).1 := (m.observe_stays s).follows
  have hposed := ((m.observe s).1.absorbChanges_follows .tick (m.observe s).2.hardware).poised
    (hobserve.poised hpoised)
  have hrun := (m.observe_stays s).runState
  have hback : (m.takeUp s).1.runState = .running → m.runState = .running :=
    fun hstate => hrun.symm.trans (absorbChanges_running hstate)
  have hfailed : m.runState = .running → (m.takeUp s).1.runState ≠ .loading :=
    fun hstate => (m.observe s).1.absorbChanges_runState (hrun.trans hstate) _
  rw [tick_eq]
  show ∃ failure, Leaves failure (m, s.hardware)
    (((m.takeUp s).1.proceed energy (m.takeUp s).2).1.flushTerminal.publishMedia
      ((m.takeUp s).1.proceed energy (m.takeUp s).2).2.2, ((m.takeUp s).1.proceed energy (m.takeUp s).2).2.2)
  replace hposed : (m.takeUp s).1.Poised := hposed
  generalize m.takeUp s = p at htaken hposed hback hfailed
  obtain ⟨m₂, hw₂⟩ := p
  obtain ⟨failure', hproceed⟩ : ∃ failure, Leaves failure (m, s.hardware)
      ((m₂.proceed energy hw₂).1, (m₂.proceed energy hw₂).2.2) := by
    obtain ⟨failure', hproceed⟩ := proceed_leaves htaken.sound hposed energy hw₂
    by_cases hsame : m₂.runState = .running ↔ m.runState = .running
    · exact ⟨_, htaken.leaves hsame hproceed⟩
    · -- the swap failed, and the machine is in error
      have hleft : m₂.runState ≠ .running ∧ m.runState = .running := by
        by_cases hstate : m.runState = .running
        · exact ⟨fun hm => hsame (iff_of_true hm hstate), hstate⟩
        · exact absurd (iff_of_false (fun hm => hstate (hback hm)) hstate) hsame
      have hstays : m₂.proceed energy hw₂ = (m₂, energy, hw₂) := by
        unfold proceed
        split
        · next hloading _ => exact absurd hloading (hfailed hleft.2)
        · next hrunning _ => exact absurd hrunning hleft.1
        · rfl
      rw [hstays]
      exact ⟨_, htaken.toLeaves⟩
  dsimp only
  generalize m₂.proceed energy hw₂ = p at hproceed
  obtain ⟨m₃, energy₃, hw₃⟩ := p
  have hpublish := (m₃.flushTerminal_sameInside.trans (publishMedia_sameInside _ hw₃)).idles hw₃
  have hsteady := (flushTerminal_steady m₃).trans (publishMedia_steady _ hw₃)
  exact ⟨_, hproceed.idles hpublish hsteady⟩

/-! ## Suspension and records -/

theorem suspend_bears (h : m.worker.Sound) (s : Site) :
    (∃ failure, Bears failure (m, s.hardware) ((m.suspend s).1, (m.suspend s).2.hardware)) ∧
      (m.suspend s).1.worker.isIdle = true := by
  obtain ⟨⟨failure, hshutdown⟩, hidle⟩ := shutdown_bears h s.hardware
  unfold suspend
  generalize m.shutdown s.hardware = p at hshutdown hidle
  obtain ⟨m₁, hw₁⟩ := p
  have hnote : Idles (m₁, hw₁) (m₁, m₁.noteCall .releaseScratch hw₁) := ⟨rfl, rfl, .one rfl fun _ => rfl⟩
  have hrelease := hnote.trans (m₁.releaseDevices_idles (m₁.noteCall .releaseScratch hw₁))
  dsimp only
  generalize m₁.releaseDevices (m₁.noteCall .releaseScratch hw₁) = p at hrelease
  obtain ⟨m₂, hw₂⟩ := p
  have hresume : Idles (m₂, hw₂)
      (if m₂.runState = .running then { m₂ with resume := true } else m₂, hw₂) := by
    split <;> exact ⟨rfl, rfl, .refl _ hw₂⟩
  dsimp only
  generalize (if m₂.runState = .running then { m₂ with resume := true } else m₂) = m₃ at hresume
  have hdispose : Idles (m₃, hw₂) ({ m₃ with controller := (m₃.controller.dispose s.topology).1 }, hw₂) :=
    ⟨rfl, rfl, .refl _ hw₂⟩
  have hidles := (hrelease.trans hresume).trans hdispose
  have hworker := hidles.worker
  dsimp only at hworker
  refine ⟨⟨failure, hshutdown.idles hidles⟩, ?_⟩
  rw [hworker]
  exact hidle

/-- A suspension keeps the session. -/
theorem suspend_keeps (m : Machine) (s : Site) :
    (m.suspend s).1.runState = m.runState ∧ (m.suspend s).1.bootError = m.bootError := by
  have hrelease := releaseDevices_stays (m.shutdown s.hardware).1
    ((m.shutdown s.hardware).1.noteCall .releaseScratch (m.shutdown s.hardware).2)
  have hshutdown : m.Stays (m.shutdown s.hardware).1 := m.stepWorker_stays Worker.shutdown s.hardware
  have hstays := hshutdown.trans hrelease
  unfold suspend
  dsimp only
  split <;> exact ⟨hstays.runState, hstays.bootError⟩

theorem suspend_closes (h : m.Sound) (s : Site) :
    ∃ failure, Closes failure (m, s.hardware) ((m.suspend s).1, (m.suspend s).2.hardware) := by
  obtain ⟨⟨failure, hbears⟩, -⟩ := suspend_bears h.worker s
  refine ⟨failure, hbears.closes h (m.suspend_keeps s).1 fun hsome => ?_⟩
  rw [show (m.suspend s).1.map = none from m.suspend_map s] at hsome
  cases hsome

theorem finalize_closes (h : m.Sound) (s : Site) :
    ∃ failure, Closes failure (m, s.hardware) ((m.finalize s).1, (m.finalize s).2.hardware) := by
  obtain ⟨⟨failure, hbears⟩, hidle⟩ := suspend_bears h.worker s
  have hrun : (m.finalize s).1.runState ≠ .running := by
    rw [show (m.finalize s).1.runState = .stopped from setRunState_runState _ _]
    decide
  have hmap := m.finalize_map s
  have hdrops := hbears.drops hidle
  refine ⟨failure, Drops.closes ?_ h hrun hmap⟩
  clear hrun hmap
  unfold finalize
  generalize m.suspend s = p at hdrops
  obtain ⟨m₁, s₁⟩ := p
  have hdevices : s₁.hardware.Adds Event.Mild
      (m₁.controller.devices.foldl (fun hw d => hw.finalize d.device.handle) s₁.hardware) :=
    Hardware.foldl_adds (fun hw (d : BusDevice) => Hardware.finalize_adds fun _ => rfl) _ _
  dsimp only
  generalize m₁.controller.devices.foldl (fun hw d => hw.finalize d.device.handle) s₁.hardware = hw₁
    at hdevices
  have hreset : Idles (m₁, hw₁) (m₁.resetEmulator hw₁) := ⟨rfl, rfl, .one rfl fun _ => rfl⟩
  have hended := (hdrops.idles (m₁.idles_of_adds hdevices)).idles hreset
  generalize m₁.resetEmulator hw₁ = p at hended
  obtain ⟨m₂, hw₂⟩ := p
  have hcleared : Idles (m₂, hw₂) (({ m₂ with
      pendingStates := .empty, media := .empty, resume := false } : Machine).resetTerminal, hw₂) :=
    ⟨rfl, rfl, .refl _ hw₂⟩
  exact hended.idles (hcleared.trans ((settle_sameInside _ none .stopped).idles hw₂))

theorem saveRecord_closes (h : m.Sound) (hw : Hardware) :
    ∃ failure, Closes failure (m, hw) (m.saveRecord hw).2 := by
  obtain ⟨failure, hquiesce⟩ := quiesce_bears h.worker hw
  refine ⟨failure, ?_⟩
  have hsaved := foldl_saveDevice_adds (P := Event.Mild) (fun _ _ => rfl) (m.quiesce hw).1.controller.devices
    ((m.quiesce hw).1.pendingStates, (m.quiesce hw).2)
  have hnote : Hardware.Adds Event.Mild _ (m.saveRecord hw).2.2 := hsaved.trans (.one rfl fun _ => rfl)
  exact (hquiesce.idles ((m.quiesce hw).1.idles_of_adds hnote)).closes h rfl fun hsome => hsome

/-- A record is taken over by an idle worker without a failure. -/
theorem loadRecord_sound (h : m.Sound) (r : Record) (hw : Hardware) :
    (m.loadRecord r hw).1.Sound ∧ (m.loadRecord r hw).1.worker.fault = none := by
  obtain ⟨failure, hcancel⟩ := cancel_drops h.worker hw
  have hworker := m.loadRecord_worker r hw
  refine ⟨⟨?_, fun _ => ?_, fun hsome => ?_⟩, ?_⟩
  · rw [hworker]
    exact hcancel.sound
  · rw [hworker]
    exact hcancel.idle
  · rw [show (m.loadRecord r hw).1.map = none from m.loadRecord_map r hw] at hsome
    cases hsome
  · rw [hworker]
    rfl

/-- A machine whose emulator cannot be restored does not run. -/
theorem rejectEmulation_runState (m : Machine) (fault : Fault) :
    (m.rejectEmulation fault).runState ≠ .running := by
  unfold rejectEmulation
  dsimp only
  split
  · exact RunState.noConfusion
  · next hnot => exact hnot

/-- A machine that took over a record and runs has the boot error of the record. -/
theorem loadRecord_bootError (r : Record) (hw : Hardware) (h : (m.loadRecord r hw).1.runState = .running) :
    (m.loadRecord r hw).1.bootError = r.bootError := by
  unfold loadRecord at h ⊢
  generalize m.cancel hw = p at h ⊢
  obtain ⟨m₁, hw₁⟩ := p
  dsimp only at h ⊢
  generalize m₁.releaseDevices hw₁ = p at h ⊢
  obtain ⟨m₂, hw₂⟩ := p
  dsimp only at h ⊢
  split at h
  · next hempty =>
    rw [if_pos hempty]
    rfl
  · next hstate =>
    rw [if_neg hstate]
    unfold restoreEmulator at h ⊢
    generalize (m₂.adoptRecord r).emulator.restore r.emulation = restored at h ⊢
    cases restored with
    | ok emulator => rfl
    | error fault => exact absurd h (rejectEmulation_runState _ fault)

/-! ## Halts -/

/-- Whether a tick gets as far as to step the emulation. -/
def Reaches (m : Machine) (s : Site) : Prop :=
  (m.takeUp s).1.runState = .running ∧ (m.takeUp s).1.controller.state = .ready ∧
    (m.takeUp s).1.map.isSome = true

instance (m : Machine) (s : Site) : Decidable (m.Reaches s) := inferInstanceAs (Decidable (_ ∧ _))

theorem Reaches.running {s : Site} (h : m.Reaches s) : m.runState = .running :=
  (m.observe_stays s).runState.symm.trans (absorbChanges_running h.1)

theorem Reaches.tick {s : Site} (h : m.Reaches s) (energy : EnergySource) :
    m.tick energy s =
      let (m', energy', hw) := (m.takeUp s).1.step energy (m.takeUp s).2
      (m'.flushTerminal.publishMedia hw, energy', { (m.observe s).2 with hardware := hw }) := by
  obtain ⟨hrun, hbus, hmap⟩ := h
  have hproceed : (m.takeUp s).1.proceed energy (m.takeUp s).2 =
      (m.takeUp s).1.step energy (m.takeUp s).2 := by
    unfold proceed
    rw [hrun, hbus]
    dsimp only
    rw [if_neg (by simpa using Option.isSome_iff_ne_none.1 hmap)]
  rw [← hproceed]
  rfl

/-- What a tick that steps the emulation raises before it looks for a failure, and afterwards.  It finds the
first, or what was pending before. -/
structure Raises (m : Machine) (s : Site) (early late : Option Fault) : Prop where
  pends : Pends m.pending early (m.takeUp s).1.worker.fault
  spared : m.worker.isIdle = true → early = none ∧ late = none
  late : (m.takeUp s).1.worker.fault = none → late = m.lateFault? s

/-- A tick in which a slice fails late found nothing before. -/
theorem fault_of_lateFault? {s : Site} (h : (m.lateFault? s).isSome = true) :
    (m.takeUp s).1.worker.fault = none := by
  replace h : ((m.takeUp s).1.slip? (m.takeUp s).2).isSome = true := h
  unfold slip? at h
  split at h
  · next hdue => exact hdue.2.2.2
  · cases h

theorem Reaches.raises {s : Site} (h : m.Reaches s) (hsound : m.Sound) (energy : EnergySource) :
    ∃ early late, s.hardware.Yields m.id (early.or late) (m.tick energy s).2.2.hardware ∧
      m.Raises s early late := by
  obtain ⟨early, htaken⟩ := takeUp_closes hsound s
  obtain ⟨late, hstep, hlate⟩ := step_leaves htaken.sound h.1 energy (m.takeUp s).2
  refine ⟨early, late, ?_, ?_, fun hidle => ?_, fun hnone => ?_⟩
  · rw [h.tick energy]
    exact htaken.yields.trans (htaken.id ▸ hstep.yields)
  · rw [← pending_of_running h.1]
    exact htaken.pends h.1
  · exact ⟨htaken.spared hidle, hstep.spared (htaken.closes (.inl hidle))⟩
  · have hdue : (m.takeUp s).1.Due := ⟨h.1, h.2.1, h.2.2, hnone⟩
    exact (hlate hnone).trans (if_pos hdue).symm

/-- The machine is in error with this failure as the boot error. -/
def Halted (failure : Fault) (m : Machine) : Prop :=
  m.runState = .error ∧ m.bootError = some (BootError.emulation failure).message

/-- A step that finds a failure halts the machine with it: it takes no energy and grants nothing. -/
theorem step_halts {failure : Fault} (h : m.worker.fault = some failure) (energy : EnergySource)
    (hw : Hardware) : (m.step energy hw).2.1 = energy ∧ m.worker.GoesOn (m.step energy hw).1.worker ∧
      (m.step energy hw).1.Halted failure := by
  have htake : m.worker.takeFault = (some failure, m.worker.takeFault.2) := Prod.ext h rfl
  unfold step
  rw [htake]
  dsimp only
  obtain ⟨hrun, herror, -⟩ := halt_outcome { m with worker := m.worker.takeFault.2 } (.emulation failure) hw
  have hhalt : Moves [] false (({ m with worker := m.worker.takeFault.2 } : Machine), hw)
      (({ m with worker := m.worker.takeFault.2 } : Machine).halt (.emulation failure) hw) := halt_moves _ _ hw
  exact ⟨rfl, .head (.takeFault m.worker) hhalt.goesOn, hrun, herror⟩

/-- A step that finds no failure has the machine run on. -/
theorem step_goes_on (h : m.worker.fault = none) (hrun : m.runState = .running) (energy : EnergySource)
    (hw : Hardware) : (m.step energy hw).1.runState = .running := by
  have htake : m.worker.takeFault = (none, m.worker.takeFault.2) := Prod.ext h rfl
  unfold step
  rw [htake]
  exact (m.grantTick_steady energy hw).runState.trans hrun

theorem takeUp_goesOn (m : Machine) (s : Site) : m.worker.GoesOn (m.takeUp s).1.worker := by
  have hobserve : Moves [] false (m, s.hardware) ((m.observe s).1, (m.observe s).2.hardware) :=
    m.observe_moves s
  have habsorb : Moves (m.observe s).1.controller.devices false ((m.observe s).1, (m.observe s).2.hardware)
      (m.takeUp s) := absorbChanges_moves _ rfl _
  exact hobserve.goesOn.trans habsorb.goesOn

/-- What a step does after it looked for a failure has a worker that failed hold cycles only if it failed
after that look. -/
theorem step_prompt (h : m.worker.Prompt) (hdue : m.worker.fault = none → m.Due) (energy : EnergySource)
    {hw : Hardware} (hslip : m.slip? hw = none) : (m.step energy hw).1.worker.Prompt := by
  cases htake : m.worker.fault with
  | some fault =>
    exact (step_halts htake energy hw).2.1.prompt h
  | none =>
    have hstep : m.step energy hw = m.grantTick energy hw := by
      unfold step
      rw [show m.worker.takeFault = (none, m.worker.takeFault.2) from Prod.ext htake rfl]
    have hfault : (m.looked hw).worker.fault = none := (if_pos (hdue htake)).symm.trans hslip
    rw [hstep, grantTick_eq]
    show ((m.looked hw).grantAtOnce energy).1.worker.Prompt
    refine Worker.prompt_of_fault ?_
    unfold grantAtOnce
    split
    · exact hfault
    · dsimp only
      split
      · exact hfault
      · exact (Worker.grant_fault _ _).trans hfault

/-- What a tick publishes at its end leaves the worker and the run state alone. -/
theorem publish_same (m : Machine) (hw : Hardware) :
    (m.flushTerminal.publishMedia hw).worker = m.worker ∧ m.Steady (m.flushTerminal.publishMedia hw) :=
  ⟨(publishMedia_sameInside _ hw).worker.trans m.flushTerminal_sameInside.worker,
    (flushTerminal_steady m).trans (publishMedia_steady _ hw)⟩

theorem proceed_prompt (h : m.worker.Prompt) (energy : EnergySource) (hw : Hardware)
    (hslip : m.slip? hw = none) : (m.proceed energy hw).1.worker.Prompt := by
  unfold proceed
  split
  · have hload : Moves m.controller.devices false (m, hw) (m.load hw) := m.load_moves rfl hw
    exact hload.goesOn.prompt h
  · next hrun hbus =>
    split
    · have hload : Moves m.controller.devices false ({ m with resume := true }, hw)
          (({ m with resume := true } : Machine).load hw) := load_moves { m with resume := true } rfl hw
      exact hload.goesOn.prompt h
    · next hmap =>
      rw [Bool.not_eq_true, Option.isNone_eq_false_iff] at hmap
      exact step_prompt h (fun hfault => ⟨hrun, hbus, hmap, hfault⟩) energy hslip
  · exact h

/-- A tick has a worker that failed hold cycles only if it failed after the tick looked for a failure. -/
theorem tick_prompt (h : m.worker.Prompt) (energy : EnergySource) {s : Site} (hlate : m.lateFault? s = none) :
    (m.tick energy s).1.worker.Prompt := by
  have hproceed := proceed_prompt ((m.takeUp_goesOn s).prompt h) energy (m.takeUp s).2 hlate
  have hpublish := publish_same ((m.takeUp s).1.proceed energy (m.takeUp s).2).1
    ((m.takeUp s).1.proceed energy (m.takeUp s).2).2.2
  show (((m.takeUp s).1.proceed energy (m.takeUp s).2).1.flushTerminal.publishMedia
    ((m.takeUp s).1.proceed energy (m.takeUp s).2).2.2).worker.Prompt
  rw [hpublish.1]
  exact hproceed

/-- A tick that steps the emulation halts the machine with the failure that it finds: it takes no energy
and grants nothing.  If it finds none the machine runs on. -/
theorem Reaches.halts {s : Site} (h : m.Reaches s) (energy : EnergySource) :
    (∀ failure, (m.takeUp s).1.worker.fault = some failure → (m.tick energy s).2.1 = energy ∧
      m.worker.GoesOn (m.tick energy s).1.worker ∧ (m.tick energy s).1.Halted failure) ∧
    ((m.takeUp s).1.worker.fault = none → (m.tick energy s).1.runState = .running) := by
  have hgoesOn := m.takeUp_goesOn s
  have hhalts (failure : Fault) (hfault : (m.takeUp s).1.worker.fault = some failure) :=
    step_halts hfault energy (m.takeUp s).2
  have hruns (hfault : (m.takeUp s).1.worker.fault = none) := step_goes_on hfault h.1 energy (m.takeUp s).2
  rw [h.tick energy]
  generalize (m.takeUp s).1.step energy (m.takeUp s).2 = p at hhalts hruns
  obtain ⟨m', energy', hw⟩ := p
  obtain ⟨hworker, hsteady⟩ := m'.publish_same hw
  dsimp only at hhalts hruns ⊢
  rw [hworker, hsteady.runState]
  refine ⟨fun failure hfault => ?_, hruns⟩
  obtain ⟨henergy, hstep, hrun, herror⟩ := hhalts failure hfault
  exact ⟨henergy, hgoesOn.trans hstep, hsteady.runState.trans hrun, hsteady.bootError.trans herror⟩

end

end Machine

/-! ## Beginnings and ends -/

namespace Machine

/-- A machine that runs, or is in error, does so afterwards; and one that runs afterwards has no boot
error, or ran before and has the one it had. -/
structure Continues (m m' : Machine) : Prop where
  runState : m.runState = .running ∨ m.runState = .error → m'.runState = .running ∨ m'.runState = .error
  bootError : m'.runState = .running → m'.bootError = none ∨
    m.runState = .running ∧ m'.bootError = m.bootError

section

variable {m m' m'' : Machine}

theorem Continues.trans (h : m.Continues m') (h' : m'.Continues m'') : m.Continues m'' := by
  refine ⟨fun hrun => h'.runState (h.runState hrun), fun hrun => ?_⟩
  rcases h'.bootError hrun with hnone | ⟨hrun', hsame⟩
  · exact .inl hnone
  · rw [hsame]
    exact h.bootError hrun'

theorem Stays.continues (h : m.Stays m') : m.Continues m' := by
  refine ⟨fun hrun => ?_, fun hrun => .inr ⟨h.runState.symm.trans hrun, h.bootError⟩⟩
  rw [h.runState]
  exact hrun

/-- What a load ends in does not depend on what it began in. -/
theorem Arrives.continues (h : m'.Arrives m'') (m : Machine) : m.Continues m'' := by
  refine ⟨fun _ => h.outcome.imp And.left And.left, fun hrun => .inl ?_⟩
  rcases h.outcome with ⟨-, hnone⟩ | ⟨herror, -⟩
  · exact hnone
  · cases herror.symm.trans hrun

theorem absorbChanges_continues (m : Machine) (hw : Hardware) : m.Continues (m.absorbChanges hw).1 := by
  cases hload : m.absorbLoad? hw with
  | some p =>
    rw [absorbChanges_of_some hload]
    exact (p.1.load_arrives p.2).continues m
  | none =>
    have htaken : m.Stays { m with controller := m.controller.takeChanges.2 } := stays rfl rfl rfl rfl
    rw [absorbChanges_of_none hload]
    dsimp only
    split
    · exact (htaken.trans (clear_stays _ hw)).continues
    · exact htaken.continues

theorem proceed_continues (m : Machine) (energy : EnergySource) (hw : Hardware) :
    m.Continues (m.proceed energy hw).1 := by
  cases hload : m.proceedLoad? hw with
  | some p =>
    rw [proceed_of_some hload]
    exact (p.1.load_arrives p.2).continues m
  | none =>
    rcases proceed_of_none hload energy with he | ⟨-, -, he⟩
    · rw [he]
      exact (Stays.refl m).continues
    · rw [he]
      unfold step
      split
      · next fault worker _ =>
        exact (halt_arrives { m with worker } (.emulation fault) hw).continues m
      · exact (m.grantTick_stays energy hw).continues

theorem tick_continues (m : Machine) (energy : EnergySource) (s : Site) : m.Continues (m.tick energy s).1 := by
  have htaken : m.Continues (m.takeUp s).1 := (m.observe_stays s).continues.trans
    ((m.observe s).1.absorbChanges_continues (m.observe s).2.hardware)
  have hproceed := htaken.trans ((m.takeUp s).1.proceed_continues energy (m.takeUp s).2)
  show m.Continues (((m.takeUp s).1.proceed energy (m.takeUp s).2).1.flushTerminal.publishMedia
    ((m.takeUp s).1.proceed energy (m.takeUp s).2).2.2)
  generalize (m.takeUp s).1.proceed energy (m.takeUp s).2 = p at hproceed
  exact hproceed.trans (p.1.flushTerminal_stays.trans (publishMedia_stays _ p.2.2)).continues

end

end Machine

/-! ## Operations -/

namespace Station

open Machine (Leaves Closes)

/-- What an operation that takes over no record leaves of a failure. -/
theorem step_leaves {station : Station} (h : station.machine.Sound) (hpoised : station.machine.Poised)
    (s : Site) {op : MachineOp} (hload : ∀ r, op ≠ .loadRecord r) :
    ∃ failure, Leaves failure (station.machine, s.hardware)
      ((station.step s op).2.1.machine, (station.step s op).2.2.hardware) := by
  have hsame {m' : Machine} {hw' : Hardware} (hidles : Machine.Idles (station.machine, s.hardware) (m', hw'))
      (hrun : m'.runState = station.machine.runState) (hmap : m'.map = station.machine.map) :
      ∃ failure, Leaves failure (station.machine, s.hardware) (m', hw') :=
    ⟨none, (hidles.closes h hrun fun hsome => hmap ▸ hsome).toLeaves⟩
  have hweak {m' : Machine} {hw' : Hardware}
      (hcloses : ∃ failure, Closes failure (station.machine, s.hardware) (m', hw')) :
      ∃ failure, Leaves failure (station.machine, s.hardware) (m', hw') :=
    hcloses.imp fun _ h => h.toLeaves
  cases op with
  | start => exact hweak (Machine.start_closes h s.hardware)
  | stop => exact hweak (Machine.stop_closes h s.hardware)
  | tick => exact Machine.tick_leaves h hpoised station.energy s
  | advance slices =>
    obtain ⟨failure, hbears⟩ := Machine.advance_bears h.worker slices s.hardware
    exact ⟨failure, (hbears.closes h rfl fun hsome => hsome).toLeaves⟩
  | quiesce =>
    obtain ⟨failure, hbears⟩ := Machine.quiesce_bears h.worker s.hardware
    exact ⟨failure, (hbears.closes h rfl fun hsome => hsome).toLeaves⟩
  | suspend => exact hweak (Machine.suspend_closes h s)
  | finalize => exact hweak (Machine.finalize_closes h s)
  | saveRecord => exact hweak (Machine.saveRecord_closes h s.hardware)
  | loadRecord r => exact absurd rfl (hload r)
  | readMemory address count =>
    show ∃ failure, Leaves failure _ (readMemory station.machine address count s.hardware).2
    unfold readMemory
    split
    · exact ⟨none, (Closes.refl h _).toLeaves⟩
    · exact hsame (station.machine.idles_of_adds (Hardware.readMemory_adds fun _ => rfl)) rfl rfl
  | writeMemory address data =>
    show ∃ failure, Leaves failure _ (writeMemory station.machine address data s.hardware).2
    unfold writeMemory
    split
    · exact ⟨none, (Closes.refl h _).toLeaves⟩
    · exact hsame (station.machine.idles_of_adds (Hardware.writeMemory_adds fun _ => rfl)) rfl rfl
  | recharge amount simulate => exact ⟨none, (Closes.refl h _).toLeaves⟩
  | scheduleScan => exact hsame ⟨rfl, rfl, .refl _ _⟩ rfl rfl
  | terminal call => exact hsame ⟨rfl, rfl, .refl _ _⟩ rfl rfl
  | script change => exact hsame ⟨rfl, rfl, .refl _ _⟩ rfl rfl
  | platform platform => exact hsame ⟨rfl, rfl, .refl _ _⟩ rfl rfl
  | drainUpdates => exact hsame ⟨rfl, rfl, .refl _ _⟩ rfl rfl

theorem step_sound {station : Station} (h : station.machine.Sound) (hpoised : station.machine.Poised)
    (s : Site) (op : MachineOp) : (station.step s op).2.1.machine.Sound := by
  by_cases hload : ∃ r, op = .loadRecord r
  · obtain ⟨r, rfl⟩ := hload
    exact (Machine.loadRecord_sound h r s.hardware).1
  · obtain ⟨failure, hleaves⟩ := step_leaves h hpoised s fun r hr => hload ⟨r, hr⟩
    exact hleaves.sound

/-- A session lasts until the machine is stopped or finalized, takes over a record, or halts in a tick. -/
theorem step_session {station : Station} (h : station.machine.runState = .running) (s : Site)
    (op : MachineOp) : (station.step s op).2.1.machine.runState = .running ∨ op = .stop ∨ op = .finalize ∨
      (∃ r, op = .loadRecord r) ∨ op = .tick ∧ (station.step s op).2.1.machine.runState = .error := by
  cases op with
  | stop => exact .inr (.inl rfl)
  | finalize => exact .inr (.inr (.inl rfl))
  | loadRecord r => exact .inr (.inr (.inr (.inl ⟨r, rfl⟩)))
  | tick =>
    have htick := (station.machine.tick_continues station.energy s).runState (.inl h)
    exact htick.imp id fun herror => .inr (.inr (.inr ⟨rfl, herror⟩))
  | start =>
    left
    show (station.machine.start s.hardware).2.1.runState = .running
    have hnever : ¬(station.machine.runState = .stopped ∨ station.machine.runState = .error) := by
      rw [h]
      decide
    unfold Machine.start
    rw [if_neg hnever]
    exact h
  | suspend => exact .inl ((station.machine.suspend_keeps s).1.trans h)
  | readMemory address count =>
    left
    show (readMemory station.machine address count s.hardware).2.1.runState = .running
    unfold readMemory
    split <;> exact h
  | writeMemory address data =>
    left
    show (writeMemory station.machine address data s.hardware).2.1.runState = .running
    unfold writeMemory
    split <;> exact h
  | _ => exact .inl h

/-- A machine that runs has no boot error, unless it ran before with the same, or takes over a record. -/
theorem step_bootError (station : Station) (s : Site) {op : MachineOp} (hload : ∀ r, op ≠ .loadRecord r)
    (hrun : (station.step s op).2.1.machine.runState = .running) :
    (station.step s op).2.1.machine.bootError = none ∨ station.machine.runState = .running ∧
      (station.step s op).2.1.machine.bootError = station.machine.bootError := by
  cases op with
  | loadRecord r => exact absurd rfl (hload r)
  | tick => exact (station.machine.tick_continues station.energy s).bootError hrun
  | start =>
    replace hrun : (station.machine.start s.hardware).2.1.runState = .running := hrun
    show (station.machine.start s.hardware).2.1.bootError = none ∨ _ ∧
      (station.machine.start s.hardware).2.1.bootError = _
    cases hstart : station.machine.startLoad? s.hardware with
    | some p =>
      rw [Machine.start_of_some hstart] at hrun ⊢
      exact ((p.1.load_arrives p.2).continues station.machine).bootError hrun
    | none =>
      rw [Machine.start_of_none hstart] at hrun ⊢
      dsimp only at hrun ⊢
      split at hrun
      · cases (Machine.setRunState_runState _ _).symm.trans hrun
      · next hnever =>
        rw [if_neg hnever]
        exact .inr ⟨hrun, rfl⟩
  | stop =>
    replace hrun : (station.machine.stop s.hardware).1.runState = .running := hrun
    show (station.machine.stop s.hardware).1.bootError = none ∨ _ ∧
      (station.machine.stop s.hardware).1.bootError = _
    unfold Machine.stop at hrun ⊢
    split at hrun
    · cases (Machine.setRunState_runState _ _).symm.trans hrun
    · next hnever =>
      rw [if_neg hnever]
      exact .inr ⟨hrun, rfl⟩
  | finalize => cases (Machine.setRunState_runState _ _).symm.trans hrun
  | suspend =>
    obtain ⟨hstate, herror⟩ := station.machine.suspend_keeps s
    exact .inr ⟨hstate.symm.trans hrun, herror⟩
  | readMemory address count =>
    have hread : (readMemory station.machine address count s.hardware).2.1 = station.machine := by
      unfold readMemory
      split <;> rfl
    refine .inr ⟨?_, congrArg Machine.bootError hread⟩
    rw [← hread]
    exact hrun
  | writeMemory address data =>
    have hwrite : (writeMemory station.machine address data s.hardware).2.1 = station.machine := by
      unfold writeMemory
      split <;> rfl
    refine .inr ⟨?_, congrArg Machine.bootError hwrite⟩
    rw [← hwrite]
    exact hrun
  | _ => exact .inr ⟨hrun, rfl⟩

end Station

/-- Every machine is sound in every run. -/
theorem World.run_sound (ops : List Op) {i : Nat} {m : Machine}
    (hm : (empty.run ops).machine? i = some m) : m.Sound := by
  refine (machine_induction (I := fun _ m => m.Poised ∧ m.Sound) ?_ ?_ ops hm).2
  · intro i root emulator config sink t
    exact ⟨⟨(fun h => nomatch h), fun _ => rfl⟩, Worker.new_sound _, fun _ => rfl, fun h => nomatch h⟩
  · intro i station s op h
    exact ⟨station.step_poised s op h.1, Station.step_sound h.2 h.1 s op⟩

end DeviceBus
