import DeviceBus.Proofs.Machine.Sessions

/-!
# Waiting for the worker

Waiting, cancelling and ending the thread all leave the worker idle.  Of a cancellation this is plain,
and of a thread that ends it takes that the cycles of a worker are in a thread (`Worker.Sound`).  To
wait is to let the worker run as many slices as the grant in hand has at most, which is enough because a
slice is one cycle at least and a grant in hand is never used up (`Worker.Paced`).

    w.Paced → (w.quiesce run s).1.isIdle                                        (quiesce_isIdle)

Every worker is paced in every run (`World.run_paced`).
-/

namespace DeviceBus

namespace Worker

variable {σ : Type}

/-- A slice is one cycle at least, and there are cycles left of the grant in hand. -/
structure Paced (w : Worker) : Prop where
  slice : 0 < w.slice
  left : w.isIdle = false → 0 < w.left

variable {w w' : Worker}

theorem Paced.of_idle (h : w.Paced) (hslice : w'.slice = w.slice) (hidle : w'.isIdle = true) :
    w'.Paced := by
  refine ⟨hslice ▸ h.slice, fun hbusy => ?_⟩
  rw [hidle] at hbusy
  cases hbusy

theorem new_paced (slice : Nat) : (new slice).Paced := ⟨by simp only [new]; omega, fun h => nomatch h⟩

theorem begin_paced (h : w.Paced) : w.begin.Paced := by
  obtain ⟨slice, activity, running, spawned, executed, fault⟩ := w
  cases activity with
  | idle => exact h
  | granted cycles => exact ⟨h.slice, fun _ => h.left rfl⟩
  | busy left done => exact h

/-- A slice that leaves the worker busy leaves cycles of the grant. -/
theorem afterSlice_paced (h : w.Paced) (left done cycles : Nat) (outcome : SliceEnd) :
    (w.afterSlice left done cycles outcome).Paced := by
  cases outcome with
  | completed =>
    unfold afterSlice
    dsimp only
    split
    · exact h.of_idle rfl rfl
    · next hleft => exact ⟨h.slice, fun _ => Nat.pos_of_ne_zero hleft⟩
  | faulted fault => exact h.of_idle rfl rfl
  | panicked => exact h.of_idle rfl rfl

theorem drop_slice (w : Worker) : w.drop.slice = w.slice := by
  obtain ⟨slice, activity, running, spawned, executed, fault⟩ := w
  cases activity <;> rfl

theorem Turn.paced (h : Turn w w') (hw : w.Paced) : w'.Paced := by
  cases h with
  | work h =>
    cases h with
    | begin => exact begin_paced hw
    | slice hbusy outcome => exact afterSlice_paced hw _ _ _ outcome
  | drop => exact hw.of_idle w.drop_slice w.drop_isIdle
  | join => exact ⟨hw.slice, hw.left⟩
  | takeFault => exact ⟨hw.slice, hw.left⟩
  | start refusal =>
    rcases w.start_cases refusal with ⟨-, he⟩ | ⟨-, he⟩ | ⟨reason, -, -, he⟩ <;> rw [he] <;>
      exact ⟨hw.slice, hw.left⟩

theorem GoesOn.paced (h : GoesOn w w') (hw : w.Paced) : w'.Paced := by
  induction h with
  | refl => exact hw
  | tail _ hturn ih => exact hturn.paced ih

/-- A worker is granted some cycles, or none at all. -/
theorem grant_paced (h : w.Paced) (cycles : Nat) : (w.grant cycles).2.Paced := by
  unfold grant
  split
  · next hc =>
    refine ⟨h.slice, fun _ => ?_⟩
    simp only [Bool.and_eq_true, decide_eq_true_iff] at hc
    exact Nat.pos_of_ne_zero hc.2
  · exact h

/-! ## Slices to go -/

theorem slicesLeft_of_isIdle (h : w.isIdle = true) : w.slicesLeft = 0 := by
  unfold slicesLeft
  rw [show w.activity = .idle from of_decide_eq_true h]

theorem begin_slicesLeft (w : Worker) : w.begin.slicesLeft = w.slicesLeft := by
  obtain ⟨slice, activity, running, spawned, executed, fault⟩ := w
  cases activity <;> rfl

theorem isIdle_of_busy {left done : Nat} (h : w.activity = .busy left done) : w.isIdle = false := by
  unfold isIdle
  rw [h]
  rfl

/-- A paced worker that is inside a slice has a slice to go. -/
theorem Paced.slicesLeft_pos (h : w.Paced) {left done : Nat} (hbusy : w.activity = .busy left done) :
    0 < w.slicesLeft := by
  have hleft := h.left (isIdle_of_busy hbusy)
  unfold Worker.left at hleft
  unfold slicesLeft
  rw [hbusy] at hleft ⊢
  dsimp only at hleft ⊢
  have hslice := h.slice
  exact Nat.div_pos (by omega) hslice

/-- A slice that completes is one slice less to go. -/
theorem afterSlice_slicesLeft (h : w.Paced) {left done : Nat} (hbusy : w.activity = .busy left done)
    (outcome : SliceEnd) :
    (w.afterSlice left done (min left w.slice) outcome).slicesLeft + 1 ≤ w.slicesLeft := by
  have hpos := h.slicesLeft_pos hbusy
  have hdone {w' : Worker} (hidle : w'.isIdle = true) : w'.slicesLeft + 1 ≤ w.slicesLeft := by
    rw [slicesLeft_of_isIdle hidle]
    omega
  cases outcome with
  | completed =>
    unfold afterSlice
    dsimp only
    split
    · exact hdone rfl
    · next hleft =>
      have hslice := h.slice
      have hlong : w.slice < left := by omega
      unfold slicesLeft
      rw [hbusy]
      dsimp only
      apply Nat.le_of_eq
      rw [Nat.min_eq_right (Nat.le_of_lt hlong), show left + w.slice - 1 =
        left - w.slice + w.slice - 1 + w.slice by omega, Nat.add_div_right _ hslice]
  | faulted fault => exact hdone rfl
  | panicked => exact hdone rfl

/-- A worker that began its grant is idle after as many slices as it has to go. -/
theorem runSlices_isIdle (run : Nat → σ → SliceEnd × σ) {n : Nat} (h : w.Paced)
    (hbegun : ∀ cycles, w.activity ≠ .granted cycles) (hn : w.slicesLeft ≤ n) (s : σ) :
    (runSlices run n w s).1.isIdle = true := by
  induction n generalizing w s with
  | zero =>
    cases hactivity : w.activity with
    | idle => exact decide_eq_true hactivity
    | granted cycles => exact absurd hactivity (hbegun cycles)
    | busy left done =>
      have hpos := h.slicesLeft_pos hactivity
      omega
  | succ n ih =>
    unfold runSlices
    split
    · next hidle => exact hidle
    · next hbusy =>
      cases hactivity : w.activity with
      | idle => exact absurd (decide_eq_true hactivity) hbusy
      | granted cycles => exact absurd hactivity (hbegun cycles)
      | busy left done =>
        have hslice : w.runSlice run s = (w.afterSlice left done (min left w.slice)
            (run (min left w.slice) s).1, (run (min left w.slice) s).2) := by
          unfold runSlice
          rw [hactivity]
        rw [hslice]
        have hless := afterSlice_slicesLeft h hactivity (run (min left w.slice) s).1
        refine ih (afterSlice_paced h _ _ _ _) ?_ (by omega) _
        intro cycles
        cases (run (min left w.slice) s).1 with
        | completed =>
          unfold afterSlice
          dsimp only
          split
          · intro hgranted
            cases hgranted
          · intro hgranted
            cases hgranted
        | faulted fault =>
          intro hgranted
          cases hgranted
        | panicked =>
          intro hgranted
          cases hgranted

/-- Who waits for a worker finds it idle. -/
theorem quiesce_isIdle (run : Nat → σ → SliceEnd × σ) (h : w.Paced) (s : σ) :
    (quiesce run w s).1.isIdle = true := by
  refine runSlices_isIdle run (begin_paced h) ?_ (Nat.le_of_eq w.begin_slicesLeft) s
  intro cycles
  unfold begin
  split
  · exact fun hgranted => nomatch hgranted
  · next hnever => exact hnever cycles

theorem cancel_isIdle (run : Nat → σ → SliceEnd × σ) (w : Worker) (s : σ) :
    (cancel run w s).1.isIdle = true := drop_isIdle _

theorem shutdown_isIdle (run : Nat → σ → SliceEnd × σ) (h : w.Sound) (s : σ) :
    (shutdown run w s).1.isIdle = true := by
  unfold shutdown
  split
  · exact drop_isIdle _
  · next hspawned =>
    cases hidle : w.isIdle with
    | true => rfl
    | false => exact absurd (h.thread (h.busy hidle)) hspawned

/-- A cancellation discards the failure, so it does not matter whether it was taken before. -/
theorem cancel_takeFault (run : Nat → σ → SliceEnd × σ) (w : Worker) (s : σ) :
    cancel run w.takeFault.2 s = cancel run w s := by
  obtain ⟨slice, activity, running, spawned, executed, fault⟩ := w
  cases activity with
  | idle => rfl
  | granted cycles => rfl
  | busy left done =>
    unfold cancel stopSlices runSlice takeFault
    dsimp only
    generalize run (min left slice) s = p
    obtain ⟨outcome, s'⟩ := p
    cases outcome with
    | completed =>
      unfold afterSlice
      dsimp only
      split <;> rfl
    | faulted fault => rfl
    | panicked => rfl

/-! ## Idle workers -/

section

variable (run : Nat → σ → SliceEnd × σ) (h : w.isIdle = true) (s : σ)

include h

theorem stopSlices_of_isIdle : stopSlices run w s = (w, s) := by
  have hidle : w.activity = .idle := of_decide_eq_true h
  have hslice : w.runSlice run s = (w, s) := by
    unfold runSlice
    rw [hidle]
  unfold stopSlices drop
  rw [hslice]
  dsimp only
  rw [hidle]

theorem cancel_of_isIdle : cancel run w s = (w.takeFault.2, s) := by
  unfold cancel
  rw [stopSlices_of_isIdle run h s]

theorem shutdown_of_isIdle : shutdown run w s =
    ({ w with running := w.running && !w.spawned, spawned := false }, s) := by
  unfold shutdown
  rw [stopSlices_of_isIdle run h s]
  obtain ⟨slice, activity, running, spawned, executed, fault⟩ := w
  cases spawned <;> simp

end

end Worker

/-! ## Machines -/

namespace Machine

theorem quiesce_isIdle {m : Machine} (h : m.worker.Paced) (hw : Hardware) :
    (m.quiesce hw).1.worker.isIdle = true :=
  Worker.quiesce_isIdle (runSlice m.id) h ⟨m.emulator, m.terminal, hw⟩

theorem cancel_isIdle (m : Machine) (hw : Hardware) : (m.cancel hw).1.worker.isIdle = true :=
  Worker.cancel_isIdle (runSlice m.id) m.worker ⟨m.emulator, m.terminal, hw⟩

theorem shutdown_isIdle {m : Machine} (h : m.worker.Sound) (hw : Hardware) :
    (m.shutdown hw).1.worker.isIdle = true :=
  Worker.shutdown_isIdle (runSlice m.id) h ⟨m.emulator, m.terminal, hw⟩

/-- It does not matter to a cancellation whether the failure was taken before. -/
theorem cancel_takeFault (m : Machine) (hw : Hardware) :
    ({ m with worker := m.worker.takeFault.2 } : Machine).cancel hw = m.cancel hw := by
  unfold cancel stepWorker
  dsimp only
  rw [Worker.cancel_takeFault]

theorem halt_takeFault (m : Machine) (error : BootError) (hw : Hardware) :
    ({ m with worker := m.worker.takeFault.2 } : Machine).halt error hw = m.halt error hw := by
  unfold halt
  rw [cancel_takeFault]

theorem quiesce_of_isIdle {m : Machine} (h : m.worker.isIdle = true) (hw : Hardware) :
    m.quiesce hw = (m, hw) := advance_of_isIdle h m.worker.slicesLeft hw

theorem Move.paced {bus : List BusDevice} {grants : Bool} {a b : Machine × Hardware}
    (h : Move bus grants a b) (ha : a.1.worker.Paced) : b.1.worker.Paced := by
  cases h with
  | grant m cycles hw hgrants => exact Worker.grant_paced ha cycles
  | other hw hworker hstates =>
    dsimp only
    rw [hworker]
    exact ha
  | calls m h => exact ha
  | hand hw hentry hstate => exact ha
  | advance m slices hw => exact (Move.advance m slices hw : Move bus false _ _).goesOn.paced ha
  | cancel m hw => exact (Move.cancel m hw : Move bus false _ _).goesOn.paced ha
  | shutdown m hw => exact (Move.shutdown m hw : Move bus false _ _).goesOn.paced ha
  | takeFault m hw => exact (Move.takeFault m hw : Move bus false _ _).goesOn.paced ha
  | start m refusal hw => exact (Move.start m refusal hw : Move bus false _ _).goesOn.paced ha

theorem Moves.paced {bus : List BusDevice} {grants : Bool} {a b : Machine × Hardware}
    (h : Moves bus grants a b) (ha : a.1.worker.Paced) : b.1.worker.Paced := by
  induction h with
  | refl => exact ha
  | tail _ hmove ih => exact hmove.paced ih

end Machine

theorem Station.step_paced {station : Station} (h : station.machine.worker.Paced) (s : Site)
    (op : MachineOp) : (station.step s op).2.1.machine.worker.Paced := by
  by_cases htick : op = .tick
  · subst htick
    have hmoves := station.step_moves s (show MachineOp.tick.replacesStates = false from rfl)
    exact hmoves.paced h
  · exact (station.step_goesOn s htick).paced h

/-- Every worker is paced in every run. -/
theorem World.run_paced (ops : List Op) {i : Nat} {m : Machine}
    (hm : (empty.run ops).machine? i = some m) : m.worker.Paced := by
  refine machine_induction (I := fun _ m => m.worker.Paced) ?_ ?_ ops hm
  · intro i root emulator config sink t
    exact Worker.new_paced _
  · intro i station s op h
    exact Station.step_paced h s op

end DeviceBus
