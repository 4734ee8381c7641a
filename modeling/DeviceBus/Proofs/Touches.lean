import DeviceBus.Proofs.Emulation
import DeviceBus.Proofs.Machine.Touches

/-!
# The worker and the rest of a machine

A machine attaches, suspends, finalizes, saves and restores devices, and installs them in, resets, saves and
restores its emulator, only while its worker is idle.  An operation that makes such a call first asks the
bus, then waits for the worker, and makes all of these calls after that (`World.Attends`); whatever was
granted before has been run or dropped by then, and no slice of it runs afterwards
(`World.touches_at_rest`).
-/

namespace DeviceBus

open Machine (Barrier Minds Paid Rests Waits runSlice)

namespace Station

theorem readMemory_minds (m : Machine) (address count : Nat) (hw : Hardware) :
    Minds (m, hw) (readMemory m address count hw).2 := by
  unfold readMemory
  split
  · exact (Rests.refl (m, hw)).minds
  · next h offset _ =>
    constructor
    · exact .inl (Hardware.readMemory_adds rfl)
    · intro _
      exact ⟨rfl, .refl, Hardware.readMemory_adds ⟨rfl, fun _ h => nomatch h⟩⟩

theorem writeMemory_minds (m : Machine) (address : Nat) (data : Bytes) (hw : Hardware) :
    Minds (m, hw) (writeMemory m address data hw).2 := by
  unfold writeMemory
  split
  · exact (Rests.refl (m, hw)).minds
  · next h offset _ =>
    constructor
    · exact .inl (Hardware.writeMemory_adds rfl)
    · intro _
      exact ⟨rfl, .refl, Hardware.writeMemory_adds ⟨rfl, fun _ h => nomatch h⟩⟩

/-- Every operation waits for the worker before it touches anything, and only a tick grants cycles, last
and for a charge. -/
theorem step_minds {station : Station} (h : station.machine.Sound) (hpaced : station.machine.worker.Paced)
    (s : Site) (op : MachineOp) (charge : Option Nat)
    (hcharge : op = .tick → charge = station.machine.charge? station.energy s) :
    ∃ asked c, s.hardware.Asks asked ∧ Minds (station.machine, asked) c ∧
      (station.step s op).2.2.hardware = c.2 ∧
      Paid charge station.machine.config.cyclesPerTick.toNat c.1.worker
        (station.step s op).2.1.machine.worker := by
  have hown {c : Machine × Hardware} (hminds : Minds (station.machine, s.hardware) c)
      (hhardware : (station.step s op).2.2.hardware = c.2)
      (hworker : (station.step s op).2.1.machine.worker = c.1.worker) :
      ∃ asked c, s.hardware.Asks asked ∧ Minds (station.machine, asked) c ∧
        (station.step s op).2.2.hardware = c.2 ∧
        Paid charge station.machine.config.cyclesPerTick.toNat c.1.worker
          (station.step s op).2.1.machine.worker :=
    ⟨s.hardware, c, .refl _, hminds, hhardware, .inl hworker⟩
  have hnothing := (Rests.refl (station.machine, s.hardware)).minds
  cases op with
  | tick =>
    rw [hcharge rfl]
    exact Machine.tick_minds hpaced station.energy s
  | start => exact hown (Machine.start_minds hpaced s.hardware) rfl rfl
  | stop => exact hown (station.machine.stop_minds s.hardware) rfl rfl
  | advance slices => exact hown (station.machine.advance_minds slices s.hardware) rfl rfl
  | quiesce =>
    exact hown (station.machine.advance_minds station.machine.worker.slicesLeft s.hardware) rfl rfl
  | suspend => exact hown (Machine.suspend_waits h.worker s).minds rfl rfl
  | finalize => exact hown (Machine.finalize_waits h.worker s).minds rfl rfl
  | readMemory address count => exact hown (readMemory_minds station.machine address count _) rfl rfl
  | writeMemory address data => exact hown (writeMemory_minds station.machine address data _) rfl rfl
  | saveRecord => exact hown (Machine.saveRecord_waits hpaced s.hardware).minds rfl rfl
  | loadRecord r => exact hown (station.machine.loadRecord_waits r s.hardware).minds rfl rfl
  | scheduleScan => exact hown hnothing rfl rfl
  | recharge amount simulate => exact hown hnothing rfl rfl
  | terminal call => exact hown hnothing rfl rfl
  | script change => exact hown hnothing rfl rfl
  | platform platform => exact hown hnothing rfl rfl
  | drainUpdates => exact hown hnothing rfl rfl

end Station

namespace World

variable {w : World} {i : Nat} {m : Machine}

/-- How an operation of the machine at a position, which is `m` before and `m'` after, touches the devices
and the emulator: it asks the bus, then it waits for the worker, which runs slices meanwhile and is idle
after that, and then come all the other calls. -/
structure Attends (w : World) (i : Nat) (mop : MachineOp) (m m' : Machine)
    (asked ran touched : List Event) : Prop where
  calls : w.calls (.machine i mop) = asked ++ ran ++ touched
  asks : ∀ e ∈ asked, e.Query
  slices : ∀ e ∈ ran, e.SliceOf ⟨i⟩
  /-- The worker is idle at the end of the wait, and goes on as it is up to the last call. -/
  waits : ∃ barrier, Barrier barrier ∧ ∃ rested g,
    barrier (runSlice ⟨i⟩) m.worker
      ⟨m.emulator, m.terminal, ⟨w.site.hardware.devices, asked.reverse ++ w.journal⟩⟩ = (rested, g) ∧
    g.hardware.journal = ran.reverse ++ (asked.reverse ++ w.journal) ∧ rested.isIdle = true ∧
    ∃ last, rested.GoesOn last ∧ last.isIdle = true ∧
      Paid (w.charge? i (.machine i mop)) m.config.cyclesPerTick.toNat last m'.worker
  aside : ∀ e ∈ touched, e.Aside true

/-- An operation that touches anything attends to the worker. -/
theorem step_attends {station : Station} (hs : w.stations[i]? = some station)
    (hid : station.machine.id = ⟨i⟩) (h : station.machine.Sound) (hpaced : station.machine.worker.Paced)
    {mop : MachineOp} (htouch : ∃ e ∈ w.calls (.machine i mop), e.touches = true) :
    ∃ asked ran touched, w.Attends i mop station.machine (station.step w.site mop).2.1.machine asked ran
      touched := by
  have hsite : (w.step (.machine i mop)).2.site.hardware = (station.step w.site mop).2.2.hardware :=
    congrArg Site.hardware (step_site hs mop)
  obtain ⟨hw, c, ⟨hdevices, es, hes, hquery⟩, ⟨htouches, -⟩, hhardware, hpaid⟩ :=
    Station.step_minds h hpaced w.site mop (w.charge? i (.machine i mop)) (by
      rintro rfl
      exact charge?_tick hs)
  have hasked : ∀ e ∈ es.reverse, e.Query := by
    intro e he
    exact hquery e (List.mem_reverse.1 he)
  rcases htouches with ⟨fs, hfs, hnone⟩ | ⟨barrier, hbarrier, hidle, hrests⟩
  · -- nothing is touched
    have hcalls : w.calls (.machine i mop) = (fs ++ es).reverse := by
      apply calls_eq
      show (w.step (.machine i mop)).2.site.hardware.journal = _
      rw [hsite, hhardware, hfs, hes, List.append_assoc]
    obtain ⟨e, he, htouched⟩ := htouch
    rw [hcalls, List.reverse_append] at he
    rcases List.mem_append.1 he with he | he
    · rw [(hasked e he).touches] at htouched
      cases htouched
    · rw [hnone e (List.mem_reverse.1 he)] at htouched
      cases htouched
  · obtain ⟨rs, hrs, hslices⟩ := hbarrier.slices station.machine hw
    obtain ⟨ts, hts, haside⟩ := hrests.adds
    have hwaited : (station.machine.stepWorker barrier hw).2.journal = rs ++ (es ++ w.journal) := by
      rw [hrs, hes]
    have hcalls : w.calls (.machine i mop) = (ts ++ (rs ++ es)).reverse := by
      apply calls_eq
      show (w.step (.machine i mop)).2.site.hardware.journal = _
      rw [hsite, hhardware, hts, hwaited, List.append_assoc, List.append_assoc]
    have hasking : (⟨w.site.hardware.devices, es.reverse.reverse ++ w.journal⟩ : Hardware) = hw := by
      rw [List.reverse_reverse, ← hdevices, ← hes]
    refine ⟨es.reverse, rs.reverse, ts.reverse, ?_, hasked, ?_, ?_, ?_⟩
    · rw [hcalls, List.reverse_append, List.reverse_append]
    · intro e he
      rw [← hid]
      exact hslices e (List.mem_reverse.1 he)
    · refine ⟨barrier, hbarrier, _, _, rfl, ?_, ?_, c.1.worker, ?_, ?_, hpaid⟩
      · rw [hasking, ← hid, List.reverse_reverse, List.reverse_reverse]
        exact hwaited
      · rw [hasking, ← hid]
        exact hidle
      · rw [hasking, ← hid]
        exact hrests.worker
      · exact hrests.isIdle hidle
    · intro e he
      exact haside e (List.mem_reverse.1 he)

/-! ## Until the next grant -/

/-- Whoever adds no slice to the journal runs none. -/
theorem emulatorCalls_of_isSlice {op : Op}
    (h : w.site.hardware.Adds (·.isSlice = false) (w.step op).2.site.hardware) :
    ∀ call ∈ w.emulatorCalls i op, call.isRun = false := by
  obtain ⟨es, hes, hslice⟩ := h
  rw [emulatorCalls_eq, Hardware.callsTo_eq hes]
  intro call hcall
  obtain ⟨e, he, hheard⟩ := List.mem_filterMap.1 hcall
  have hnone := hslice e (List.mem_reverse.1 he)
  unfold Event.heard? at hheard
  split at hheard
  · split at hheard
    · cases hheard
      exact hnone
    · cases hheard
  · cases hheard

/-- An idle worker runs no slice in an operation that grants it nothing, and is idle after it. -/
theorem step_idle {pre : List Op} (hm : (empty.run pre).machine? i = some m) (hidle : m.worker.isIdle = true)
    {op : Op} (hcharge : (empty.run pre).charge? i op = none) :
    ∃ m', ((empty.run pre).step op).2.machine? i = some m' ∧ m'.worker.isIdle = true ∧
      ∀ call ∈ (empty.run pre).emulatorCalls i op, call.isRun = false := by
  have hsound := run_sound pre hm
  have hpaced := run_paced pre hm
  obtain ⟨station, hs, rfl⟩ := machine?_eq_some hm
  cases hown : op.isOf i with
  | true =>
    cases op with
    | machine j mop =>
      obtain rfl : j = i := of_decide_eq_true hown
      obtain ⟨hw, c, hasks, hminds, hhardware, hpaid⟩ :=
        Station.step_minds hsound hpaced (empty.run pre).site mop
          ((empty.run pre).charge? j (.machine j mop)) (by
            rintro rfl
            exact charge?_tick hs)
      have hrests := hminds.rests hidle
      refine ⟨_, machine?_of_station (step_machine? hs mop), ?_, emulatorCalls_of_isSlice ?_⟩
      · rw [hpaid.of_none hcharge]
        exact hrests.isIdle hidle
      · rw [show ((empty.run pre).step (.machine j mop)).2.site.hardware = c.2 from
          (congrArg Site.hardware (step_site hs mop)).trans hhardware]
        exact (hasks.adds.mono fun e he => (he.aside true).isSlice).trans
          (hrests.adds.mono fun e he => he.isSlice)
    | _ => cases hown
  | false =>
    have hnamed : (empty.run pre).Named := fun j m hm => machine?_id pre hm
    obtain ⟨station', hs', hcases⟩ := step_other_cases hs hnamed hown
    refine ⟨station'.machine, machine?_of_station hs', ?_⟩
    rcases hcases with ⟨rfl, hadds⟩ | ⟨hwaited, hadds⟩
    · refine ⟨hidle, ?_⟩
      rw [emulatorCalls_of_adds hadds]
      intro call hcall
      cases hcall
    · rw [Machine.quiesce_of_isIdle hidle] at hwaited hadds
      refine ⟨by rw [hwaited]; exact hidle, ?_⟩
      rw [emulatorCalls_of_adds (hadds.mono fun e he => he ⟨i⟩)]
      intro call hcall
      cases hcall

/-- An idle worker runs no slice until it is granted cycles for a charge. -/
theorem run_idle {pre : List Op} (hm : (empty.run pre).machine? i = some m) (hidle : m.worker.isIdle = true)
    {post : List Op} (hcharges : (empty.run pre).charges i post = []) :
    ∀ c ∈ (empty.run pre).emulation i post, c.2.isRun = false := by
  induction post generalizing pre m with
  | nil =>
    intro c hc
    cases hc
  | cons op post ih =>
    replace hcharges : ((empty.run pre).charge? i op).toList ++
        ((empty.run pre).step op).2.charges i post = [] := hcharges
    obtain ⟨hcharge, hrest⟩ := List.append_eq_nil_iff.1 hcharges
    obtain ⟨m', hm', hidle', hcalls⟩ := step_idle hm hidle (Option.toList_eq_nil_iff.1 hcharge)
    rw [← run_snoc] at hm' hrest
    have hlater := ih hm' hidle' hrest
    intro c hc
    replace hc : c ∈ ((empty.run pre).emulatorCalls i op).map (op, ·) ++
        ((empty.run pre).step op).2.emulation i post := hc
    rw [← run_snoc] at hc
    rcases List.mem_append.1 hc with hc | hc
    · obtain ⟨call, hcall, rfl⟩ := List.mem_map.1 hc
      exact hcalls call hcall
    · exact hlater c hc

/-- In every run, an operation of a machine that attaches, suspends, finalizes, saves or restores a device,
or that installs devices in, resets, saves or restores the emulator, makes all of these calls after it
waited for the worker, and while the worker holds no cycles and is inside no slice.  No slice runs after
that until a tick grants cycles anew. -/
theorem touches_at_rest {pre : List Op} (hm : (empty.run pre).machine? i = some m) {mop : MachineOp}
    (htouch : ∃ e ∈ (empty.run pre).calls (.machine i mop), e.touches = true) :
    ∃ m' asked ran touched, (empty.run (pre ++ [.machine i mop])).machine? i = some m' ∧
      (empty.run pre).Attends i mop m m' asked ran touched ∧
      ∀ post, (empty.run pre).charges i (.machine i mop :: post) = [] →
        ∀ c ∈ (empty.run (pre ++ [.machine i mop])).emulation i post, c.2.isRun = false := by
  have hid := machine?_id pre hm
  have hsound := run_sound pre hm
  have hpaced := run_paced pre hm
  obtain ⟨station, hs, rfl⟩ := machine?_eq_some hm
  obtain ⟨asked, ran, touched, hattends⟩ := step_attends hs hid hsound hpaced htouch
  have hm' : (empty.run (pre ++ [.machine i mop])).machine? i =
      some (station.step (empty.run pre).site mop).2.1.machine := by
    rw [run_snoc]
    exact machine?_of_station (step_machine? hs mop)
  refine ⟨_, asked, ran, touched, hm', hattends, ?_⟩
  intro post hcharges
  replace hcharges : ((empty.run pre).charge? i (.machine i mop)).toList ++
      ((empty.run pre).step (.machine i mop)).2.charges i post = [] := hcharges
  obtain ⟨hcharge, hrest⟩ := List.append_eq_nil_iff.1 hcharges
  rw [← run_snoc] at hrest
  obtain ⟨-, -, -, -, -, -, -, last, -, hidle, hpaid⟩ := hattends.waits
  refine run_idle hm' ?_ hrest
  rw [hpaid.of_none (Option.toList_eq_nil_iff.1 hcharge)]
  exact hidle

/-- A record is saved in the middle of a grant of four cycles: the slice in hand comes first, and then the
states of the device and of the emulator. -/
theorem record_waits_for_slice :
    let pre : List Op := [.build (.ram (.new ⟨10⟩ 4 0)), .topology (.insert ⟨1⟩ [] [⟨⟨0⟩, ⟨10⟩⟩]),
      .newMachine ⟨1⟩ (.scripted {}) { cyclesPerTick := 4, sliceCycles := 2 } .discard .unmetered,
      .machine 0 .start, .machine 0 .tick, .machine 0 .tick, .machine 0 (.advance 1)]
    let w := empty.run pre
    ((w.machine? 0).map fun m => m.worker.activity) = some (.busy 2 2) ∧
      w.calls (.machine 0 .saveRecord) =
        [.emulator ⟨0⟩ (.run 2 .completed [] 0), .device ⟨0⟩ .save, .emulator ⟨0⟩ .save] ∧
      ∃ m m' asked ran touched, w.machine? 0 = some m ∧ w.Attends 0 .saveRecord m m' asked ran touched ∧
        ∀ c ∈ (empty.run (pre ++ [.machine 0 .saveRecord])).emulation 0 [.machine 0 (.advance 1)],
          c.2.isRun = false := by
  intro pre w
  have hcalls : w.calls (.machine 0 .saveRecord) =
      [.emulator ⟨0⟩ (.run 2 .completed [] 0), .device ⟨0⟩ .save, .emulator ⟨0⟩ .save] := by
    decide +kernel
  have hbusy : ((w.machine? 0).map fun m => m.worker.activity) = some (.busy 2 2) := by decide +kernel
  obtain ⟨m, hm⟩ : ∃ m, w.machine? 0 = some m := Option.isSome_iff_exists.1 (by decide +kernel)
  have htouch : ∃ e ∈ w.calls (.machine 0 .saveRecord), e.touches = true := by
    rw [hcalls]
    exact ⟨.device ⟨0⟩ .save, by simp, rfl⟩
  obtain ⟨m', asked, ran, touched, -, hattends, hlater⟩ := touches_at_rest hm htouch
  exact ⟨hbusy, hcalls, m, m', asked, ran, touched, hm, hattends, hlater _ (by decide +kernel)⟩

end World

end DeviceBus
