import DeviceBus.Worker
import Mathlib.Logic.Relation

/-!
# What a worker does

A worker changes the state outside of it through slices alone.  So a relation that is reflexive,
transitive and kept by every slice holds between the states before and after everything a worker can
be told to do, however many slices that takes.  A relation that counts the cycles of the slices counts
no more than were left of the grant in hand (`Worker.Spends`).

What becomes of the worker itself, grants apart, is told by the few things that can happen to it
(`Worker.Turn`).  None of them gives it cycles: what it has executed and what it holds are together
never more than before (`Worker.GoesOn.accounted_le`).
-/

namespace DeviceBus

namespace Worker

variable {σ : Type}

/-! ## Slices -/

/-- The cycles of the grant in hand that are still to be run. -/
def left (w : Worker) : Nat :=
  match w.activity with
  | .idle => 0
  | .granted cycles => cycles
  | .busy left _ => left

/-- A relation that counts cycles, and holds across any number of slices as soon as it holds across
one. -/
structure Meters (run : Nat → σ → SliceEnd × σ) (R : Nat → σ → σ → Prop) : Prop where
  refl : ∀ s, R 0 s s
  trans : ∀ {m n a b c}, R m a b → R n b c → R (m + n) a c
  slice : ∀ cycles s, R cycles s (run cycles s).2

/-- The relation holds for some number of cycles, and so many were left before. -/
def Spends (R : Nat → σ → σ → Prop) (a b : Worker × σ) : Prop :=
  ∃ n, R n a.2 b.2 ∧ n + b.1.left ≤ a.1.left

section Meters

variable {run : Nat → σ → SliceEnd × σ} {R : Nat → σ → σ → Prop}

theorem Meters.spends_refl (h : Meters run R) {w w' : Worker} (hleft : w'.left ≤ w.left) (s : σ) :
    Spends R (w, s) (w', s) := by
  refine ⟨0, h.refl s, ?_⟩
  rw [Nat.zero_add]
  exact hleft

theorem Meters.spends_trans (h : Meters run R) {a b c : Worker × σ} (h₁ : Spends R a b)
    (h₂ : Spends R b c) : Spends R a c := by
  obtain ⟨m, hm, hmleft⟩ := h₁
  obtain ⟨n, hn, hnleft⟩ := h₂
  exact ⟨m + n, h.trans hm hn, by omega⟩

/-- What a slice was given is not left afterwards, however the slice ends. -/
theorem afterSlice_left_le {w : Worker} {left done cycles : Nat} (hcycles : cycles ≤ left)
    (outcome : SliceEnd) : cycles + (w.afterSlice left done cycles outcome).left ≤ left := by
  cases outcome with
  | completed =>
    unfold afterSlice
    dsimp only
    split
    · exact hcycles
    · exact Nat.le_of_eq (Nat.add_sub_cancel' hcycles)
  | faulted fault => exact hcycles
  | panicked => exact hcycles

theorem begin_left (w : Worker) : w.begin.left = w.left := by
  obtain ⟨slice, activity, running, spawned, executed, fault⟩ := w
  cases activity <;> rfl

theorem drop_left (w : Worker) : w.drop.left = 0 := by
  obtain ⟨slice, activity, running, spawned, executed, fault⟩ := w
  cases activity <;> rfl

/-- A worker runs already, or comes to have a thread, or is refused one and has none then. -/
theorem start_cases (w : Worker) (refusal : Option String) :
    (w.running = true ∧ w.start refusal = (.ok (), w)) ∨
      (refusal = none ∧ w.start refusal = (.ok (), { w with running := true, spawned := true })) ∨
      ∃ reason, refusal = some reason ∧ w.running = false ∧
        w.start refusal = (.error reason, { w with spawned := false }) := by
  unfold start
  cases hrunning : w.running with
  | true => exact .inl ⟨rfl, rfl⟩
  | false =>
    cases refusal with
    | none => exact .inr (.inl ⟨rfl, rfl⟩)
    | some reason => exact .inr (.inr ⟨reason, rfl, rfl, rfl⟩)

theorem start_left (w : Worker) (refusal : Option String) : (w.start refusal).2.left = w.left := by
  rcases w.start_cases refusal with ⟨-, he⟩ | ⟨-, he⟩ | ⟨reason, -, -, he⟩ <;> rw [he] <;> rfl

theorem runSlice_spends (h : Meters run R) (w : Worker) (s : σ) : Spends R (w, s) (w.runSlice run s) := by
  unfold runSlice
  split
  · next left done hbusy =>
    refine ⟨min left w.slice, h.slice _ s, ?_⟩
    have hleft : w.left = left := by
      unfold Worker.left
      rw [hbusy]
    rw [hleft]
    exact afterSlice_left_le (Nat.min_le_left _ _) _
  · exact h.spends_refl (Nat.le_refl _) s

theorem runSlices_spends (h : Meters run R) (n : Nat) (w : Worker) (s : σ) :
    Spends R (w, s) (runSlices run n w s) := by
  induction n generalizing w s with
  | zero => exact h.spends_refl (Nat.le_refl _) s
  | succ n ih =>
    unfold runSlices
    split
    · exact h.spends_refl (Nat.le_refl _) s
    · exact h.spends_trans (runSlice_spends h w s) (ih _ _)

theorem progress_spends (h : Meters run R) (slices : Nat) (w : Worker) (s : σ) :
    Spends R (w, s) (progress run slices w s) := by
  have hbegin : Spends R (w, s) (w.begin, s) := h.spends_refl (Nat.le_of_eq w.begin_left) s
  exact h.spends_trans hbegin (runSlices_spends h slices w.begin s)

theorem quiesce_spends (h : Meters run R) (w : Worker) (s : σ) : Spends R (w, s) (quiesce run w s) :=
  progress_spends h w.slicesLeft w s

theorem stopSlices_spends (h : Meters run R) (w : Worker) (s : σ) :
    Spends R (w, s) (stopSlices run w s) := by
  have hdrop : Spends R (w.runSlice run s) (stopSlices run w s) := by
    refine h.spends_refl ?_ _
    rw [drop_left]
    exact Nat.zero_le _
  exact h.spends_trans (runSlice_spends h w s) hdrop

theorem cancel_spends (h : Meters run R) (w : Worker) (s : σ) : Spends R (w, s) (cancel run w s) :=
  stopSlices_spends h w s

theorem shutdown_spends (h : Meters run R) (w : Worker) (s : σ) : Spends R (w, s) (shutdown run w s) := by
  unfold shutdown
  split
  · exact stopSlices_spends h w s
  · exact h.spends_refl (Nat.le_refl _) s

end Meters

/-- A relation that holds across any number of slices as soon as it holds across one. -/
structure Carries (run : Nat → σ → SliceEnd × σ) (R : σ → σ → Prop) : Prop where
  refl : ∀ s, R s s
  trans : ∀ {a b c}, R a b → R b c → R a c
  slice : ∀ cycles s, R s (run cycles s).2

section Carries

variable {run : Nat → σ → SliceEnd × σ} {R : σ → σ → Prop}

theorem Carries.meters (h : Carries run R) : Meters run fun _ => R := ⟨h.refl, h.trans, h.slice⟩

theorem Spends.carries {a b : Worker × σ} (h : Spends (fun _ => R) a b) : R a.2 b.2 := h.elim fun _ h => h.1

theorem progress_carries (h : Carries run R) (slices : Nat) (w : Worker) (s : σ) :
    R s (progress run slices w s).2 := (progress_spends h.meters slices w s).carries

theorem quiesce_carries (h : Carries run R) (w : Worker) (s : σ) : R s (quiesce run w s).2 :=
  (quiesce_spends h.meters w s).carries

theorem cancel_carries (h : Carries run R) (w : Worker) (s : σ) : R s (cancel run w s).2 :=
  (cancel_spends h.meters w s).carries

theorem shutdown_carries (h : Carries run R) (w : Worker) (s : σ) : R s (shutdown run w s).2 :=
  (shutdown_spends h.meters w s).carries

end Carries

/-- A worker that holds no cycles does not move. -/
theorem progress_of_isIdle (run : Nat → σ → SliceEnd × σ) {w : Worker} (h : w.isIdle = true) (s : σ)
    (slices : Nat) : progress run slices w s = (w, s) := by
  have hidle : w.activity = .idle := of_decide_eq_true h
  have hbegin : w.begin = w := by
    unfold begin
    rw [hidle]
  unfold progress
  rw [hbegin]
  cases slices with
  | zero => rfl
  | succ n => exact if_pos h

/-! ## Turns -/

/-- One thing that happens to a worker that works. -/
inductive Work : Worker → Worker → Prop where
  | begin (w : Worker) : Work w w.begin
  | slice {w : Worker} {left done : Nat} (h : w.activity = .busy left done) (outcome : SliceEnd) :
      Work w (w.afterSlice left done (min left w.slice) outcome)

/-- One thing that happens to a worker, apart from a grant. -/
inductive Turn : Worker → Worker → Prop where
  | work {w w' : Worker} (h : Work w w') : Turn w w'
  | drop (w : Worker) : Turn w w.drop
  | join (w : Worker) : Turn w { w with running := false, spawned := false }
  | takeFault (w : Worker) : Turn w w.takeFault.2
  | start (w : Worker) (refusal : Option String) : Turn w (w.start refusal).2

/-- Any amount of work. -/
abbrev Works : Worker → Worker → Prop := Relation.ReflTransGen Work

/-- Any number of turns: the worker goes on without being granted anything. -/
abbrev GoesOn : Worker → Worker → Prop := Relation.ReflTransGen Turn

theorem Works.goesOn {w w' : Worker} (h : Works w w') : GoesOn w w' :=
  Relation.ReflTransGen.mono (fun _ _ => .work) _ _ h

theorem runSlice_works (run : Nat → σ → SliceEnd × σ) (w : Worker) (s : σ) :
    Works w (w.runSlice run s).1 := by
  unfold runSlice
  split
  · next left done h => exact .single (.slice h _)
  · exact .refl

theorem runSlices_works (run : Nat → σ → SliceEnd × σ) (n : Nat) (w : Worker) (s : σ) :
    Works w (runSlices run n w s).1 := by
  induction n generalizing w s with
  | zero => exact .refl
  | succ n ih =>
    unfold runSlices
    split
    · exact .refl
    · exact (runSlice_works run w s).trans (ih _ _)

theorem progress_works (run : Nat → σ → SliceEnd × σ) (slices : Nat) (w : Worker) (s : σ) :
    Works w (progress run slices w s).1 :=
  .head (.begin w) (runSlices_works run slices w.begin s)

theorem stopSlices_goesOn (run : Nat → σ → SliceEnd × σ) (w : Worker) (s : σ) :
    GoesOn w (stopSlices run w s).1 := (runSlice_works run w s).goesOn.tail (.drop _)

theorem cancel_goesOn (run : Nat → σ → SliceEnd × σ) (w : Worker) (s : σ) :
    GoesOn w (cancel run w s).1 := (stopSlices_goesOn run w s).tail (.takeFault _)

theorem shutdown_goesOn (run : Nat → σ → SliceEnd × σ) (w : Worker) (s : σ) :
    GoesOn w (shutdown run w s).1 := by
  unfold shutdown
  split
  · exact (stopSlices_goesOn run w s).tail (.join _)
  · exact .refl

/-! ## Cycles -/

/-- The cycles of the grant in hand, those run already included. -/
def held (w : Worker) : Nat :=
  match w.activity with
  | .idle => 0
  | .granted cycles => cycles
  | .busy left done => left + done

/-- The cycles executed and those of the grant in hand. -/
def accounted (w : Worker) : Nat := w.executed + w.held

theorem accounted_of_isIdle {w : Worker} (h : w.isIdle = true) : w.accounted = w.executed := by
  have hidle : w.activity = .idle := of_decide_eq_true h
  unfold accounted held
  rw [hidle]
  rfl

theorem begin_accounted (w : Worker) : w.begin.accounted = w.accounted := by
  obtain ⟨slice, activity, running, spawned, executed, fault⟩ := w
  cases activity <;> rfl

theorem drop_accounted_le (w : Worker) : w.drop.accounted ≤ w.accounted := by
  obtain ⟨slice, activity, running, spawned, executed, fault⟩ := w
  cases activity with
  | idle => exact Nat.le_refl _
  | granted cycles => exact Nat.le_add_right _ _
  | busy left done =>
    show executed + done + 0 ≤ executed + (left + done)
    omega

/-- A slice runs cycles of the grant in hand, or loses them. -/
theorem afterSlice_accounted_le {w : Worker} {left done : Nat} (h : w.activity = .busy left done)
    (outcome : SliceEnd) :
    (w.afterSlice left done (min left w.slice) outcome).accounted ≤ w.accounted := by
  have hbefore : w.accounted = w.executed + (left + done) := by
    unfold accounted held
    rw [h]
  rw [hbefore]
  cases outcome with
  | completed =>
    unfold afterSlice
    dsimp only
    split
    · show w.executed + (done + min left w.slice) + 0 ≤ _
      omega
    · show w.executed + (left - min left w.slice + (done + min left w.slice)) ≤ _
      omega
  | faulted fault =>
    show w.executed + done + 0 ≤ _
    omega
  | panicked => exact Nat.le_add_right _ _

theorem Turn.accounted_le {w w' : Worker} (h : Turn w w') : w'.accounted ≤ w.accounted := by
  cases h with
  | work h =>
    cases h with
    | begin => exact Nat.le_of_eq w.begin_accounted
    | slice hbusy outcome => exact afterSlice_accounted_le hbusy outcome
  | drop => exact w.drop_accounted_le
  | join => exact Nat.le_refl _
  | takeFault => exact Nat.le_refl _
  | start refusal =>
    rcases w.start_cases refusal with ⟨-, he⟩ | ⟨-, he⟩ | ⟨reason, -, -, he⟩ <;>
    exact Nat.le_of_eq (congrArg (fun started => started.2.accounted) he)

/-- A worker that is granted nothing comes by no cycles. -/
theorem GoesOn.accounted_le {w w' : Worker} (h : GoesOn w w') : w'.accounted ≤ w.accounted := by
  induction h with
  | refl => exact Nat.le_refl _
  | tail _ hturn ih => exact Nat.le_trans hturn.accounted_le ih

/-! ## Threads -/

/-- The worker runs, or died of a failure that nobody took. -/
def Answers (w : Worker) : Prop := w.running = true ∨ w.fault.isSome = true

/-- A worker that was started runs. -/
theorem start_answers {w w' : Worker} {refusal : Option String} (h : w.start refusal = (.ok (), w')) :
    w'.Answers := by
  left
  rcases w.start_cases refusal with ⟨hrunning, he⟩ | ⟨-, he⟩ | ⟨reason, -, -, he⟩ <;> rw [he] at h
  · cases h
    exact hrunning
  · cases h
    rfl
  · cases h

theorem Work.answers {w w' : Worker} (h : Work w w') (ha : w.Answers) : w'.Answers := by
  cases h with
  | begin =>
    unfold Worker.begin
    split
    · exact ha
    · exact ha
  | slice _ outcome =>
    cases outcome with
    | completed =>
      unfold afterSlice
      dsimp only
      split
      · exact ha
      · exact ha
    | faulted fault => exact .inr rfl
    | panicked => exact .inr rfl

/-- A worker that works stops running by a failure only. -/
theorem Works.answers {w w' : Worker} (h : Works w w') (ha : w.Answers) : w'.Answers := by
  induction h with
  | refl => exact ha
  | tail _ hwork ih => exact hwork.answers ih

/-- A worker that runs and is idle takes what it is granted. -/
theorem grant_of_isIdle {w : Worker} {cycles : Nat} (hrunning : w.running = true)
    (hidle : w.isIdle = true) (hcycles : 0 < cycles) :
    (w.grant cycles).2 = { w with activity := .granted cycles } := by
  unfold grant
  rw [hrunning, hidle, decide_eq_true (Nat.ne_of_gt hcycles)]
  rfl

/-- A worker that is idle comes by the cycles that it is granted at most. -/
theorem grant_accounted_le {w : Worker} (h : w.isIdle = true) (cycles : Nat) :
    (w.grant cycles).2.accounted ≤ w.accounted + cycles := by
  unfold grant
  split
  · rw [accounted_of_isIdle h]
    exact Nat.le_refl _
  · exact Nat.le_add_right _ _

theorem grant_answers {w : Worker} (ha : w.Answers) (cycles : Nat) : (w.grant cycles).2.Answers := by
  unfold grant
  split
  · exact ha
  · exact ha

end Worker

end DeviceBus
