import DeviceBus.Proofs.Accounting
import DeviceBus.Proofs.Handover
import DeviceBus.Proofs.Machine.Calls

/-!
# The life of an emulator

The emulator of a machine is called in the loads of the machine's operations, to do what an operation
asks of it, and to run slices of what ticks granted (`World.Emulates`).  A load resets it if the load is
a boot, and so does a finalization; nothing else does (`World.reset_only_by_boot`).

So a machine that stays running keeps the state of its emulator, whatever becomes of the bus and its
devices: from the boot on the state is what slices, installations and records made of it.
-/

namespace DeviceBus

open EmulatorCall (requests total InBlocks)
open Event (Silent heard)
open Machine (LoadCalls loadBlocks)

theorem Controller.step_silent (c : Controller) (s : Site) (op : ControllerOp) :
    s.hardware.Adds Silent (c.step s op).2.2.hardware := by
  cases op with
  | poll => exact c.poll_silent s
  | scan => exact (c.scan_asks s).adds.mono fun _ => Event.Query.silent
  | scheduleScan => exact .refl _ _
  | dispose => exact .refl _ _
  | takeChanges => exact .refl _ _

/-- What an operation asks of the emulator of the machine at a position, slices and loads aside. -/
def Op.Asks (i : Nat) : Op → List EmulatorCall → Prop
  | .machine j op, asked => if j = i then op.Asks asked else asked = []
  | _, asked => asked = []

/-- The calls that the emulator of the machine at a position may receive while the machine runs: slices
in any operation, the devices of a swap in a tick, and what is asked of it to suspend the machine, and
to save and to load records. -/
inductive Op.Spares (i : Nat) : Op → EmulatorCall → Prop
  | slice (op : Op) {call : EmulatorCall} (h : call.isRun = true) : Spares i op call
  | install (devices : List DeviceId) (accepted : Bool) :
      Spares i (.machine i .tick) (.install devices accepted)
  | releaseScratch : Spares i (.machine i .suspend) .releaseScratch
  | save : Spares i (.machine i .saveRecord) .save
  | restore (r : Record) (accepted : Bool) :
      Spares i (.machine i (.loadRecord r)) (.restore r.emulation accepted)

namespace World

/-- The calls that the emulator of the machine at a position receives in an operation. -/
def emulatorCalls (i : Nat) (w : World) (op : Op) : List EmulatorCall := heard ⟨i⟩ (w.calls op)

/-- Where an operation begins loads of the machine at a position. -/
def loadsOf (i : Nat) (w : World) (op : Op) : List (Machine × Hardware) :=
  if op.isOf i then w.loads op else []

/-- The calls that the emulator of the machine at a position receives in a run, each with the operation
that it receives it in. -/
def emulation (i : Nat) (w : World) (ops : List Op) : List (Op × EmulatorCall) :=
  w.log (fun w op => (w.emulatorCalls i op).map (op, ·)) ops

/-- What an operation of the host does to the emulator of the machine at a position, which is `m` before
and `m'` after. -/
structure Emulates (w : World) (i : Nat) (op : Op) (m m' : Machine) : Prop where
  /-- The emulator is what the calls make of it, unless it is changed from outside. -/
  undergoes : (∀ change, op ≠ .machine i (.script change)) →
    m.emulator.Undergoes (w.emulatorCalls i op) m'.emulator
  /-- The slices are run of what was granted, and a grant is charged. -/
  spends : total (w.emulatorCalls i op) + m'.worker.left ≤ m.worker.left + m.granted (w.charge? i op)
  /-- Slices aside, the emulator is called in loads and to do what the operation asks. -/
  blocks : ∃ asked, op.Asks i asked ∧
    InBlocks (loadBlocks (w.loadsOf i op) ++ asked.map ([·])) (w.emulatorCalls i op)
  /-- A load begins in `loading` and is a boot, or in `running` and is none. -/
  loads : ∀ p ∈ w.loadsOf i op, (p.1.runState = .loading ∨ p.1.runState = .running) ∧
    LoadCalls (p.1.runState = .loading) (p.1.loadCalls p.2)
  /-- A machine that is running loads in ticks only, and not to boot. -/
  running : m.runState = .running → ∀ p ∈ w.loadsOf i op, op = .machine i .tick ∧ p.1.runState = .running

/-! ## Operations -/

variable {w : World} {i : Nat} {station : Station} {op : Op}

theorem emulatorCalls_eq (i : Nat) (w : World) (op : Op) :
    w.emulatorCalls i op = heard ⟨i⟩ (w.site.hardware.callsTo (w.step op).2.site.hardware) := rfl

theorem emulatorCalls_of_adds
    (h : w.site.hardware.Adds (·.heard? ⟨i⟩ = none) (w.step op).2.site.hardware) :
    w.emulatorCalls i op = [] := by
  obtain ⟨es, hes, hnone⟩ := h
  rw [emulatorCalls_eq, Hardware.callsTo_eq hes]
  exact List.filterMap_eq_nil_iff.2 fun e he => hnone e (List.mem_reverse.1 he)

theorem emulatorCalls_of_emulates {m m' : Machine} {hw : Hardware} {calls : List EmulatorCall}
    (hid : m.id = ⟨i⟩) (h : Machine.Emulates calls (m, w.site.hardware) (m', hw))
    (hsite : (w.step op).2.site.hardware = hw) : w.emulatorCalls i op = calls := by
  rw [emulatorCalls_eq, ← hid, hsite, h.hears.heard m.id]
  exact if_pos rfl

theorem loadsOf_machine (h : w.stations[i]? = some station) (op : MachineOp) :
    w.loadsOf i (.machine i op) = station.loads w.site op :=
  (if_pos (decide_eq_true rfl)).trans (loads_machine h op)

theorem loadsOf_other (h : op.isOf i = false) : w.loadsOf i op = [] := by
  unfold loadsOf
  rw [h]
  rfl

theorem asks_other (h : op.isOf i = false) : op.Asks i [] := by
  cases op with
  | machine j mop =>
    show if j = i then mop.Asks [] else [] = []
    rw [if_neg (of_decide_eq_false h)]
  | _ => rfl

theorem charge?_of_ne {mop : MachineOp} (h : mop ≠ .tick) : w.charge? i (.machine i mop) = none := by
  cases mop with
  | tick => exact absurd rfl h
  | _ => rfl

/-- An operation of the machine itself. -/
theorem step_emulates_own (h : w.stations[i]? = some station) (hid : station.machine.id = ⟨i⟩)
    (hpoised : station.machine.Poised) (mop : MachineOp) :
    w.Emulates i (.machine i mop) station.machine (station.step w.site mop).2.1.machine := by
  have hloads := loadsOf_machine h mop
  have hsite : (w.step (.machine i mop)).2.site.hardware = (station.step w.site mop).2.2.hardware :=
    congrArg Site.hardware (step_site h mop)
  have hdone : ∃ calls, w.emulatorCalls i (.machine i mop) = calls ∧
      ((∀ change, mop ≠ .script change) →
        station.machine.emulator.Undergoes calls (station.step w.site mop).2.1.machine.emulator) ∧
      total calls + (station.step w.site mop).2.1.machine.worker.left ≤
        station.machine.worker.left + station.machine.granted (w.charge? i (.machine i mop)) ∧
      ∃ asked, mop.Asks asked ∧ InBlocks (loadBlocks (station.loads w.site mop) ++ asked.map ([·])) calls := by
    by_cases htick : mop = .tick
    · subst htick
      obtain ⟨m', ⟨calls, hcalls, hblocks⟩, hgains⟩ := station.machine.tick_does station.energy w.site
      refine ⟨calls, emulatorCalls_of_emulates hid hcalls hsite, fun _ => ?_, ?_, [], rfl, ?_⟩
      · rw [show (station.step w.site .tick).2.1.machine.emulator = m'.emulator from hgains.emulator]
        exact hcalls.undergoes
      · have hspends := hcalls.spends
        have hworker := hgains.worker
        rw [charge?_tick h]
        show total calls + (station.machine.tick station.energy w.site).1.worker.left ≤ _
        dsimp only at hspends
        omega
      · rw [List.map_nil, List.append_nil]
        exact hblocks
    · by_cases hscript : ∃ change, mop = .script change
      · obtain ⟨change, rfl⟩ := hscript
        refine ⟨[], ?_, fun hnone => absurd rfl (hnone change), Nat.le_of_eq (Nat.zero_add _), [], rfl,
          .nil rfl⟩
        refine emulatorCalls_of_adds ?_
        rw [hsite]
        exact .refl _ _
      · obtain ⟨asked, hasked, calls, hcalls, hblocks⟩ :=
          station.step_does w.site htick fun change hc => hscript ⟨change, hc⟩
        refine ⟨calls, emulatorCalls_of_emulates hid hcalls hsite, fun _ => hcalls.undergoes, ?_, asked,
          hasked, hblocks⟩
        rw [charge?_of_ne htick]
        exact hcalls.spends
  obtain ⟨calls, hcalls, hundergoes, hspends, asked, hasked, hblocks⟩ := hdone
  refine ⟨fun hscript => ?_, ?_, ⟨asked, (if_pos rfl).mpr hasked, ?_⟩, ?_, ?_⟩
  · rw [hcalls]
    refine hundergoes ?_
    rintro change rfl
    exact hscript change rfl
  · rw [hcalls]
    exact hspends
  · rw [hcalls, hloads]
    exact hblocks
  · intro p hp
    rw [hloads] at hp
    have hbegins := Station.loads_begin hpoised hp
    exact ⟨hbegins.imp And.left And.left, hbegins.loadCalls p.2⟩
  · intro hrun p hp
    rw [hloads] at hp
    obtain ⟨rfl, hbegan⟩ := Station.loads_running hrun hp
    exact ⟨rfl, hbegan⟩

/-- Every machine is named by its position. -/
def Named (w : World) : Prop := ∀ i m, w.machine? i = some m → m.id = ⟨i⟩

/-- An operation on a device waits for one machine at most, and calls no emulator besides. -/
theorem stepDevice_awaits (w : World) (h : Handle) (op : DeviceOp) :
    ∃ w', (w' = w ∨ ∃ j, w' = (w.stepMachine j .quiesce).2) ∧
      (w.stepDevice h op).2.stations = w'.stations ∧
      w'.site.hardware.Adds Silent (w.stepDevice h op).2.site.hardware := by
  have hawait := w.awaitBarrier_cases h
  have hrestore (hw : Hardware) (state : Bytes) : hw.Adds Silent (hw.restore h state).2 :=
    Hardware.restore_adds fun _ _ => rfl
  cases op with
  | insertMedium m => exact ⟨w.awaitBarrier h, hawait, rfl, .refl _ _⟩
  | ejectMedium => exact ⟨w.awaitBarrier h, hawait, rfl, .refl _ _⟩
  | exportMedium => exact ⟨w.awaitBarrier h, hawait, rfl, .refl _ _⟩
  | restore state =>
    unfold stepDevice
    by_cases hmedium : w.restoresMedium h state
    · simp only [hmedium, if_true]
      exact ⟨w.awaitBarrier h, hawait, rfl, hrestore _ state⟩
    · simp only [hmedium]
      exact ⟨w, .inl rfl, rfl, hrestore _ state⟩
  | readMemory offset count => exact ⟨w, .inl rfl, rfl, Hardware.readMemory_adds fun _ => rfl⟩
  | writeMemory offset data => exact ⟨w, .inl rfl, rfl, Hardware.writeMemory_adds fun _ => rfl⟩
  | writeStorage offset data =>
    refine ⟨w, .inl rfl, ?_⟩
    unfold stepDevice
    dsimp only
    split <;> exact ⟨rfl, .refl _ _⟩
  | acknowledge => exact ⟨w, .inl rfl, rfl, .refl _ _⟩
  | save => exact ⟨w, .inl rfl, rfl, Hardware.save_adds fun _ => rfl⟩
  | suspend => exact ⟨w, .inl rfl, rfl, Hardware.suspend_adds fun _ => rfl⟩
  | finalize => exact ⟨w, .inl rfl, rfl, Hardware.finalize_adds fun _ => rfl⟩
  | configure change => exact ⟨w, .inl rfl, rfl, .refl _ _⟩

/-- No operation of another machine calls the emulator. -/
theorem stepMachine_adds_unheard (hnamed : w.Named) {j : Nat} (hij : j ≠ i) (mop : MachineOp) :
    w.site.hardware.Adds (·.heard? ⟨i⟩ = none) (w.stepMachine j mop).2.site.hardware := by
  refine w.stepMachine_adds j mop fun station hs => station.step_adds_unheard w.site mop ?_
  rw [hnamed j _ (machine?_of_station hs)]
  intro hid
  exact hij (congrArg MachineId.index hid)

/-- Another operation leaves the machine alone and does not call its emulator, or waits for its worker
and calls no emulator besides. -/
theorem step_other_cases (h : w.stations[i]? = some station) (hnamed : w.Named) (hop : op.isOf i = false) :
    ∃ station', (w.step op).2.stations[i]? = some station' ∧
      (station' = station ∧
          w.site.hardware.Adds (·.heard? ⟨i⟩ = none) (w.step op).2.site.hardware ∨
        station'.machine = (station.machine.quiesce w.site.hardware).1 ∧
          (station.machine.quiesce w.site.hardware).2.Adds Silent (w.step op).2.site.hardware) := by
  have hsilent {hw hw' : Hardware} (hadds : hw.Adds Silent hw') : hw.Adds (·.heard? ⟨i⟩ = none) hw' :=
    hadds.mono fun _ he => he ⟨i⟩
  cases op with
  | machine j mop =>
    have hij : j ≠ i := of_decide_eq_false hop
    have hstation := w.stepMachine_stations j mop i
    rw [if_neg hij] at hstation
    exact ⟨station, hstation.trans h, .inl ⟨rfl, stepMachine_adds_unheard hnamed hij mop⟩⟩
  | device handle dop =>
    obtain ⟨w', hw', hstations, hadds⟩ := w.stepDevice_awaits handle dop
    rcases hw' with rfl | ⟨j, rfl⟩
    · exact ⟨station, (congrArg (·[i]?) hstations).trans h, .inl ⟨rfl, hsilent hadds⟩⟩
    · have hstation := w.stepMachine_stations j .quiesce i
      rw [← hstations] at hstation
      by_cases hij : j = i
      · subst hij
        rw [if_pos rfl, h] at hstation
        have hsite : (w.stepMachine j .quiesce).2.site.hardware =
            (station.machine.quiesce w.site.hardware).2 := congrArg Site.hardware (step_site h .quiesce)
        rw [hsite] at hadds
        exact ⟨_, hstation, .inr ⟨rfl, hadds⟩⟩
      · rw [if_neg hij] at hstation
        exact ⟨station, hstation.trans h,
          .inl ⟨rfl, (stepMachine_adds_unheard hnamed hij .quiesce).trans (hsilent hadds)⟩⟩
  | controller j cop =>
    refine ⟨station, (congrArg (·[i]?) (w.stepController_stations j cop)).trans h, .inl ⟨rfl, ?_⟩⟩
    refine hsilent ?_
    show w.site.hardware.Adds Silent (w.stepController j cop).2.site.hardware
    unfold stepController
    split
    · exact .refl _ _
    · next c _ => exact c.step_silent w.site cop
  | newMachine root emulator config sink energy =>
    have hlt : i < w.stations.length := (List.getElem?_eq_some_iff.1 h).1
    refine ⟨station, ?_, .inl ⟨rfl, .refl _ _⟩⟩
    show (w.stations ++ [_])[i]? = _
    rw [List.getElem?_append_left hlt, h]
  | build d => exact ⟨station, h, .inl ⟨rfl, .refl _ _⟩⟩
  | topology top => exact ⟨station, h, .inl ⟨rfl, .refl _ _⟩⟩
  | newController root config => exact ⟨station, h, .inl ⟨rfl, .refl _ _⟩⟩

/-- Another operation leaves the machine alone and does not call its emulator, or only runs slices. -/
theorem step_other_does (h : w.stations[i]? = some station)
    (hnamed : w.Named)
    (hop : op.isOf i = false) : ∃ station', (w.step op).2.stations[i]? = some station' ∧
      (station' = station ∧
          w.site.hardware.Adds (·.heard? ⟨i⟩ = none) (w.step op).2.site.hardware ∨
        Machine.Does [] (station.machine, w.site.hardware)
          (station'.machine, (w.step op).2.site.hardware)) := by
  obtain ⟨station', hs', hcases⟩ := step_other_cases h hnamed hop
  refine ⟨station', hs', ?_⟩
  rcases hcases with hsame | ⟨hwaited, hadds⟩
  · exact .inl hsame
  · rw [hwaited]
    exact .inr ((station.machine.quiesce_does w.site.hardware).then (Machine.does_adds _ hadds))

/-- Another operation only runs slices, if it calls the emulator at all. -/
theorem step_emulates_other (h : w.stations[i]? = some station)
    (hnamed : w.Named)
    (hop : op.isOf i = false) : ∃ station', (w.step op).2.stations[i]? = some station' ∧
      w.Emulates i op station.machine station'.machine := by
  have hloads : w.loadsOf i op = [] := loadsOf_other hop
  have hnone {calls : List EmulatorCall} (hcalls : InBlocks [] calls) :
      ∃ asked, op.Asks i asked ∧ InBlocks (loadBlocks (w.loadsOf i op) ++ asked.map ([·])) calls := by
    rw [hloads]
    exact ⟨[], asks_other hop, hcalls⟩
  have hbegin : ∀ p ∈ w.loadsOf i op, False := by
    rw [hloads]
    intro p hp
    cases hp
  obtain ⟨station', hs', hcases⟩ := step_other_does h hnamed hop
  refine ⟨station', hs', ?_⟩
  rcases hcases with ⟨rfl, hadds⟩ | ⟨calls, hcalls, hblocks⟩
  · have heq := emulatorCalls_of_adds hadds
    refine ⟨fun _ => ?_, ?_, ?_, fun p hp => (hbegin p hp).elim, fun _ p hp => (hbegin p hp).elim⟩
    · rw [heq]
      exact .nil _
    · rw [heq]
      show 0 + station'.machine.worker.left ≤ _
      omega
    · rw [heq]
      exact hnone (.nil rfl)
  · have heq := emulatorCalls_of_emulates (hnamed i _ (machine?_of_station h)) hcalls rfl
    refine ⟨fun _ => ?_, ?_, ?_, fun p hp => (hbegin p hp).elim, fun _ p hp => (hbegin p hp).elim⟩
    · rw [heq]
      exact hcalls.undergoes
    · rw [heq]
      exact Nat.le_trans hcalls.spends (Nat.le_add_right _ _)
    · rw [heq]
      exact hnone hblocks

/-- What an operation does to the emulator of a machine. -/
theorem run_step_emulates (pre : List Op) {m : Machine} (hm : (empty.run pre).machine? i = some m) (op : Op) :
    ∃ m', ((empty.run pre).step op).2.machine? i = some m' ∧ (empty.run pre).Emulates i op m m' ∧
      m'.config = m.config := by
  obtain ⟨station, hs, rfl⟩ := machine?_eq_some hm
  have hnamed : (empty.run pre).Named := fun j m hm => machine?_id pre hm
  cases hown : op.isOf i with
  | false =>
    obtain ⟨station', hs', hemulates⟩ := step_emulates_other hs hnamed hown
    obtain ⟨station'', hs'', hcases⟩ := step_station_other hs hown
    obtain rfl : station' = station'' := Option.some.inj (hs'.symm.trans hs'')
    refine ⟨station'.machine, machine?_of_station hs', hemulates, ?_⟩
    rcases hcases with rfl | rfl <;> rfl
  | true =>
    cases op with
    | machine j mop =>
      obtain rfl : j = i := of_decide_eq_true hown
      exact ⟨_, machine?_of_station (step_machine? hs mop),
        step_emulates_own hs (hnamed j _ hm) (run_poised pre hm) mop,
        station.step_config (empty.run pre).site mop⟩
    | _ => cases hown

/-! ## Resets -/

/-- What an operation asks of an emulator spares it, unless it is a finalization. -/
theorem asks_spares {asked : List EmulatorCall} (h : op.Asks i asked) (hop : op ≠ .machine i .finalize)
    {call : EmulatorCall} (hcall : call ∈ asked) : op.Spares i call := by
  cases op with
  | machine j mop =>
    replace h : if j = i then mop.Asks asked else asked = [] := h
    split at h
    · next hij =>
      subst hij
      cases mop with
      | finalize => exact absurd rfl hop
      | suspend =>
        rw [show asked = [.releaseScratch] from h, List.mem_singleton] at hcall
        rw [hcall]
        exact .releaseScratch
      | saveRecord =>
        rw [show asked = [.save] from h, List.mem_singleton] at hcall
        rw [hcall]
        exact .save
      | loadRecord r =>
        replace h : if r.emulation.isEmpty then asked = []
          else ∃ accepted, asked = [.restore r.emulation accepted] := h
        split at h
        · rw [h] at hcall
          cases hcall
        · obtain ⟨accepted, rfl⟩ := h
          rw [List.mem_singleton.1 hcall]
          exact .restore r accepted
      | _ =>
        rw [show asked = [] from h] at hcall
        cases hcall
    · rw [h] at hcall
      cases hcall
  | _ =>
    rw [show asked = [] from h] at hcall
    cases hcall

theorem not_spares_reset (i : Nat) (op : Op) : ¬op.Spares i .reset := by
  intro h
  cases h with
  | slice _ hslice => cases hslice

namespace Emulates

variable {m m' : Machine}

/-- A call that runs no slice is made in a load, or asked for by the operation. -/
theorem mem_requests (h : w.Emulates i op m m') {call : EmulatorCall}
    (hcall : call ∈ requests (w.emulatorCalls i op)) :
    (∃ p ∈ w.loadsOf i op, call ∈ requests (p.1.loadCalls p.2)) ∨
      ∃ asked, op.Asks i asked ∧ call ∈ asked := by
  obtain ⟨asked, hasked, hblocks⟩ := h.blocks
  obtain ⟨block, hblock, hmem⟩ := hblocks.mem hcall
  rcases List.mem_append.1 hblock with hblock | hblock
  · obtain ⟨p, hp, rfl⟩ := List.mem_map.1 hblock
    exact .inl ⟨p, hp, hmem⟩
  · obtain ⟨call', hcall', rfl⟩ := List.mem_map.1 hblock
    have heq := List.mem_singleton.1 (EmulatorCall.mem_requests.1 hmem).1
    exact .inr ⟨asked, hasked, heq ▸ hcall'⟩

/-- A reset is part of a boot, or of a finalization. -/
theorem reset (h : w.Emulates i op m m') (hreset : .reset ∈ w.emulatorCalls i op) :
    op = .machine i .finalize ∨
      ∃ p ∈ w.loadsOf i op, p.1.runState = .loading ∧ .reset ∈ p.1.loadCalls p.2 := by
  rcases h.mem_requests (EmulatorCall.mem_requests.2 ⟨hreset, rfl⟩) with
    ⟨p, hp, hcall⟩ | ⟨asked, hasked, hcall⟩
  · refine .inr ⟨p, hp, ?_, (EmulatorCall.mem_requests.1 hcall).1⟩
    have hasks := (h.loads p hp).2.requests
    generalize hboot : decide (p.1.runState = .loading) = boot at hasks
    generalize requests (p.1.loadCalls p.2) = block at hcall hasks
    cases hasks with
    | fails => cases hcall
    | boots => exact of_decide_eq_true hboot
    | resumes devices accepted => cases List.mem_singleton.1 hcall
  · by_cases hop : op = .machine i .finalize
    · exact .inl hop
    · exact absurd (asks_spares hasked hop hcall) (not_spares_reset i op)

/-- While a machine is running, only a finalization does more to its emulator than to run it, to give it
devices, and to serve suspensions and records. -/
theorem spares (h : w.Emulates i op m m') (hrun : m.runState = .running)
    (hop : op ≠ .machine i .finalize) {call : EmulatorCall} (hcall : call ∈ w.emulatorCalls i op) :
    op.Spares i call := by
  cases hslice : call.isRun with
  | true => exact .slice op hslice
  | false =>
    rcases h.mem_requests (EmulatorCall.mem_requests.2 ⟨hcall, hslice⟩) with
      ⟨p, hp, hmem⟩ | ⟨asked, hasked, hmem⟩
    · obtain ⟨rfl, hbegan⟩ := h.running hrun p hp
      have hasks := (h.loads p hp).2.requests
      rw [hbegan] at hasks
      generalize requests (p.1.loadCalls p.2) = block at hmem hasks
      cases hasks with
      | fails => cases hmem
      | resumes devices accepted =>
        rw [List.mem_singleton.1 hmem]
        exact .install devices accepted
    · exact asks_spares hasked hop hmem

end Emulates

/-! ## Any run -/

/-- The machine at a position is running before and after every operation of a run. -/
def KeepsRunning (i : Nat) (w : World) (ops : List Op) : Prop :=
  ∀ q, q <+: ops → ((w.run q).machine? i).map Machine.runState = some .running

theorem granted_eq (m : Machine) (charge : Option Nat) :
    m.granted charge = m.config.cyclesPerTick.toNat * charge.toList.length := by
  cases charge with
  | none => rfl
  | some amount => exact (Nat.mul_one _).symm

/-- As long as a machine is running, its emulator is run, given devices, asked to release what it can
rebuild, saved, and restored from records; and all that becomes of it is what these calls make of it. -/
theorem keepsRunning_emulation (pre : List Op) {m : Machine} (hm : (empty.run pre).machine? i = some m)
    (post : List Op) (hpost : (empty.run pre).KeepsRunning i post) :
    ∃ m', ((empty.run pre).run post).machine? i = some m' ∧ m'.config = m.config ∧
      (∀ c ∈ (empty.run pre).emulation i post, c.1.Spares i c.2) ∧
      ((∀ change, .machine i (.script change) ∉ post) →
        m.emulator.Undergoes (((empty.run pre).emulation i post).map Prod.snd) m'.emulator) ∧
      total (((empty.run pre).emulation i post).map Prod.snd) + m'.worker.left ≤
        m.worker.left + m.config.cyclesPerTick.toNat * ((empty.run pre).charges i post).length := by
  induction post using List.reverseRecOn with
  | nil => exact ⟨m, hm, rfl, fun c hc => (nomatch hc), fun _ => .nil _, Nat.le_of_eq (Nat.zero_add _)⟩
  | append_singleton post op ih =>
    obtain ⟨m₁, hm₁, hconfig, hspares, hundergoes, hspends⟩ :=
      ih fun q hq => hpost q (hq.trans (List.prefix_append _ _))
    rw [← run_append] at hm₁
    obtain ⟨m₂, hm₂, hemulates, hconfig₂⟩ := run_step_emulates (pre ++ post) hm₁ op
    have hrun : m₁.runState = .running := by
      have hbefore := hpost post (List.prefix_append _ _)
      rw [← run_append, hm₁] at hbefore
      exact Option.some.inj hbefore
    rw [run_append] at hm₂ hemulates
    have hop : op ≠ .machine i .finalize := by
      rintro rfl
      obtain ⟨station, hs, -⟩ := machine?_eq_some hm₁
      rw [run_append] at hs
      have hafter := hpost _ (List.prefix_refl _)
      rw [run_snoc, machine?_of_station (step_machine? hs .finalize)] at hafter
      cases (Machine.setRunState_runState _ _).symm.trans (Option.some.inj hafter)
    have hlog : (empty.run pre).emulation i (post ++ [op]) = (empty.run pre).emulation i post ++
        (((empty.run pre).run post).emulatorCalls i op).map (op, ·) := log_snoc _ _ post op
    have hcalls : ((((empty.run pre).run post).emulatorCalls i op).map (op, ·)).map Prod.snd =
        ((empty.run pre).run post).emulatorCalls i op := by
      rw [List.map_map]
      exact List.map_id _
    have hcharges : (empty.run pre).charges i (post ++ [op]) = (empty.run pre).charges i post ++
        (((empty.run pre).run post).charge? i op).toList := log_snoc _ _ post op
    refine ⟨m₂, by rw [run_snoc]; exact hm₂, hconfig₂.trans hconfig, ?_, ?_, ?_⟩
    · intro c hc
      rw [hlog] at hc
      rcases List.mem_append.1 hc with hc | hc
      · exact hspares c hc
      · obtain ⟨call, hcall, rfl⟩ := List.mem_map.1 hc
        exact hemulates.spares hrun hop hcall
    · intro hscript
      rw [hlog, List.map_append, hcalls]
      refine (hundergoes fun change hmem => hscript change (List.mem_append_left _ hmem)).trans
        (hemulates.undergoes ?_)
      rintro change rfl
      exact hscript change (List.mem_append_right _ (List.mem_singleton_self _))
    · have hgrant := hemulates.spends
      rw [granted_eq, hconfig] at hgrant
      rw [hlog, List.map_append, hcalls, EmulatorCall.total_append, hcharges, List.length_append,
        Nat.mul_add]
      omega

/-- In every run, an operation resets the emulator of a machine in a finalization, or in a load that
begins in `loading`; such a load resets it once, right before it gives it the devices, and one that begins
in `running` does not.  So as long as the machine is running its emulator is run, in slices of what ticks
granted for a charge, given devices, asked to release what it can rebuild, saved, and restored from
records, and it is what these calls make of it. -/
theorem reset_only_by_boot {pre : List Op} {i : Nat} {m : Machine}
    (hm : (empty.run pre).machine? i = some m) :
    (∀ op, ∃ m', ((empty.run pre).step op).2.machine? i = some m' ∧ (empty.run pre).Emulates i op m m' ∧
      (.reset ∈ (empty.run pre).emulatorCalls i op → op = .machine i .finalize ∨
        ∃ p ∈ (empty.run pre).loadsOf i op, p.1.runState = .loading ∧ .reset ∈ p.1.loadCalls p.2) ∧
      (m.runState = .running → op ≠ .machine i .finalize →
        ∀ call ∈ (empty.run pre).emulatorCalls i op, op.Spares i call)) ∧
    ∀ post, (empty.run pre).KeepsRunning i post →
      (∀ c ∈ (empty.run pre).emulation i post, c.2 ≠ .reset ∧ c.1.Spares i c.2) ∧
      ∃ m', ((empty.run pre).run post).machine? i = some m' ∧
        ((∀ change, .machine i (.script change) ∉ post) →
          m.emulator.Undergoes (((empty.run pre).emulation i post).map Prod.snd) m'.emulator) ∧
        total (((empty.run pre).emulation i post).map Prod.snd) + m'.worker.left ≤
          m.worker.left + m.config.cyclesPerTick.toNat * ((empty.run pre).charges i post).length := by
  constructor
  · intro op
    obtain ⟨m', hm', hemulates, -⟩ := run_step_emulates pre hm op
    exact ⟨m', hm', hemulates, hemulates.reset, fun hrun hop call => hemulates.spares hrun hop⟩
  · intro post hpost
    obtain ⟨m', hm', -, hspares, hundergoes, hspends⟩ := keepsRunning_emulation pre hm post hpost
    refine ⟨fun c hc => ⟨?_, hspares c hc⟩, m', hm', hundergoes, hspends⟩
    intro hreset
    have hspared := hspares c hc
    rw [hreset] at hspared
    exact not_spares_reset i c.1 hspared

/-- A machine boots, its memory is joined by another, and it is suspended and taken up again: the boot
resets the emulator, which is given devices twice more after that, and runs on. -/
theorem emulator_outlives_swap_and_suspension :
    let pre : List Op := [.build (.ram (.new ⟨10⟩ 4 0)), .build (.ram (.new ⟨11⟩ 4 0)),
      .topology (.insert ⟨1⟩ [] [⟨⟨0⟩, ⟨10⟩⟩]),
      .newMachine ⟨1⟩ (.scripted {}) { cyclesPerTick := 2 } .discard .unmetered,
      .machine 0 .start]
    let post : List Op := [.machine 0 .tick, .topology (.addDevice ⟨1⟩ ⟨⟨1⟩, ⟨11⟩⟩), .machine 0 .tick,
      .machine 0 .suspend, .machine 0 .tick, .machine 0 .tick, .machine 0 .quiesce]
    let booted := empty.run (pre ++ [.machine 0 .tick])
    let calls : List EmulatorCall := [.run 2 .completed [] 0, .install [⟨10⟩, ⟨11⟩] true,
      .releaseScratch, .install [⟨10⟩, ⟨11⟩] true, .run 2 .completed [] 0]
    (empty.run pre).emulatorCalls 0 (.machine 0 .tick) = [.reset, .install [⟨10⟩] true] ∧
      (∃ p ∈ (empty.run pre).loadsOf 0 (.machine 0 .tick), p.1.runState = .loading) ∧
      booted.KeepsRunning 0 post ∧ (booted.emulation 0 post).map Prod.snd = calls ∧
      ∃ m m', booted.machine? 0 = some m ∧ (booted.run post).machine? 0 = some m' ∧
        m.emulator.Undergoes calls m'.emulator := by
  intro pre post booted calls
  have hboot : (empty.run pre).emulatorCalls 0 (.machine 0 .tick) = [.reset, .install [⟨10⟩] true] := by
    decide +kernel
  have hcalls : (booted.emulation 0 post).map Prod.snd = calls := by decide +kernel
  have hrunning : ∀ n ∈ List.range 8,
      ((booted.run (post.take n)).machine? 0).map Machine.runState = some .running := by decide +kernel
  have hkeeps : booted.KeepsRunning 0 post := by
    intro q hq
    rw [List.prefix_iff_eq_take.1 hq]
    exact hrunning _ (List.mem_range.2 (Nat.lt_succ_of_le hq.length_le))
  obtain ⟨m₀, hm₀⟩ : ∃ m, (empty.run pre).machine? 0 = some m :=
    Option.isSome_iff_exists.1 (by decide +kernel)
  obtain ⟨-, -, -, hreset, -⟩ := (reset_only_by_boot hm₀).1 (.machine 0 .tick)
  have hload : ∃ p ∈ (empty.run pre).loadsOf 0 (.machine 0 .tick), p.1.runState = .loading := by
    rcases hreset (by rw [hboot]; exact List.mem_cons_self) with hfinal | ⟨p, hp, hbegan, -⟩
    · cases hfinal
    · exact ⟨p, hp, hbegan⟩
  obtain ⟨m, hm⟩ : ∃ m, booted.machine? 0 = some m := Option.isSome_iff_exists.1 (by decide +kernel)
  obtain ⟨-, m', hm', hundergoes, -⟩ := (reset_only_by_boot hm).2 post hkeeps
  have hscript : ∀ change, .machine 0 (.script change) ∉ post := by simp [post]
  rw [show (empty.run (pre ++ [.machine 0 .tick])).emulation 0 post = booted.emulation 0 post from rfl,
    hcalls] at hundergoes
  exact ⟨hboot, hload, hkeeps, hcalls, m, m', hm, hm', hundergoes hscript⟩

end World

end DeviceBus
