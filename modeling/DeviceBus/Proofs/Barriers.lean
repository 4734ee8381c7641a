import DeviceBus.Proofs.Attachment
import DeviceBus.Proofs.Machine.Grip
import DeviceBus.Proofs.Machine.Rest

/-!
# Drives and the machines they wait for

A drive waits for the machine that holds it before its medium changes or is copied out.  In every run
the machine that holds a drive is the one that attached it last, if nobody suspended the drive since,
and the drive is in the map of that machine (`World.guarded_iff_attached_last`).

Hence a drive can be in a map and wait for nobody.  When one machine takes an element over from
another, it attaches the drive first, and the other suspends the drive when it notices.
-/

namespace DeviceBus

open Event (Plain)

namespace World

variable {h : Handle} {id : MachineId} {base : Hardware} {w : World} {hs : List Handle}

/-! ## Operations -/

theorem stepMachine_quiesce_passes (w : World) (i : Nat) :
    w.site.hardware.Passes h (w.stepMachine i .quiesce).2.site.hardware := by
  unfold stepMachine
  split
  · exact .refl h _
  · next station _ => exact Machine.stepWorker_passes Worker.quiesce_carries station.machine _

theorem awaitBarrier_passes (w : World) (h' : Handle) :
    w.site.hardware.Passes h (w.awaitBarrier h').site.hardware := by
  rcases w.awaitBarrier_cases h' with he | ⟨i, he⟩
  · rw [he]
    exact .refl h _
  · rw [he]
    exact w.stepMachine_quiesce_passes i

theorem modifyDevice_passes (w : World) {h' : Handle} {f : Device → Device}
    (hf : (f (w.deviceAt h')).latch? = (w.deviceAt h').latch?) :
    w.site.hardware.Passes h (w.modifyDevice h' f).site.hardware :=
  Hardware.passes_update (.refl _ _) rfl hf

theorem changeDrive_passes (w : World) (h' : Handle) {f : Drive → Drive}
    (hf : ∀ d, (f d).barrier = d.barrier) :
    w.site.hardware.Passes h (w.changeDrive h' f).2.site.hardware := by
  refine (w.awaitBarrier_passes h').trans (modifyDevice_passes _ ?_)
  generalize (w.awaitBarrier h').deviceAt h' = d
  cases d with
  | drive d => exact congrArg some (hf d)
  | _ => rfl

/-- An operation on a device leaves a drive held as it was, or frees it. -/
theorem stepDevice_grip (hg : w.site.hardware.Grip h id base hs) (h' : Handle) (op : DeviceOp) :
    (w.stepDevice h' op).2.site.hardware.Grip h id base hs := by
  cases op with
  | suspend =>
    have hlisted : w.site.hardware.Grip h id base (h' :: hs) :=
      hg.mono fun hmem => List.mem_cons_of_mem h' hmem
    exact hlisted.suspend
  | readMemory offset count => exact hg.passes (w.site.hardware.readMemory_passes h' offset count)
  | writeMemory offset data => exact hg.passes (w.site.hardware.writeMemory_passes h' offset data)
  | writeStorage offset data =>
    unfold stepDevice
    dsimp only
    split
    · next d hd => exact hg.passes (w.modifyDevice_passes (Device.writeStorage_latch? hd))
    · exact hg
  | acknowledge => exact hg.passes (w.modifyDevice_passes (Device.acknowledge_latch? _))
  | save => exact hg.passes (w.site.hardware.save_passes h')
  | restore state =>
    have hawait : w.site.hardware.Passes h
        (if w.restoresMedium h' state then w.awaitBarrier h' else w).site.hardware := by
      split
      · exact w.awaitBarrier_passes h'
      · exact .refl h _
    exact hg.passes (hawait.trans (Hardware.restore_passes _ h' state))
  | finalize => exact hg.passes (w.site.hardware.finalize_passes h')
  | insertMedium m => exact hg.passes (w.changeDrive_passes h' fun _ => rfl)
  | ejectMedium => exact hg.passes (w.changeDrive_passes h' fun _ => rfl)
  | exportMedium => exact hg.passes (w.changeDrive_passes h' fun _ => rfl)
  | configure change =>
    refine hg.passes (w.modifyDevice_passes ?_)
    generalize w.deviceAt h' = d
    cases d <;> rfl

/-- A device object that is there is still there when another one is built. -/
theorem build_passes {hw : Hardware} (hplace : (hw.device h).latch?.isSome = true) (d : Device) :
    hw.Passes h (hw.build d).2 := by
  have hlt : h.index < hw.devices.length := by
    by_contra hge
    unfold Hardware.device at hplace
    rw [List.getD_eq_getElem?_getD, List.getElem?_eq_none (by omega)] at hplace
    cases hplace
  refine ⟨.refl _ hw, ?_⟩
  show ((hw.devices ++ [d]).getD h.index _).latch? = (hw.devices.getD h.index _).latch?
  rw [List.getD_eq_getElem?_getD, List.getD_eq_getElem?_getD, List.getElem?_append_left hlt]

/-- What is not an operation of a machine leaves a drive held as it was, or frees it. -/
theorem step_grip_other (hg : w.site.hardware.Grip h id base hs)
    (hplace : (w.deviceAt h).latch?.isSome = true) {op : Op} (hop : ∀ i mop, op ≠ .machine i mop) :
    (w.step op).2.site.hardware.Grip h id base hs := by
  cases op with
  | machine i mop => exact absurd rfl (hop i mop)
  | device h' dop => exact stepDevice_grip hg h' dop
  | build d => exact hg.passes (build_passes hplace d)
  | controller i cop =>
    show (w.stepController i cop).2.site.hardware.Grip h id base hs
    unfold stepController
    split
    · exact hg
    · next c _ =>
      refine hg.passes (Hardware.passes_of_devices (c.step_adds w.site cop) ?_)
      cases cop with
      | poll => exact (c.poll_asks w.site).devices
      | scan => exact (c.scan_asks w.site).devices
      | _ => rfl
  | topology top => exact hg
  | newController root config => exact hg
  | newMachine root emulator config sink energy => exact hg

/-! ## Runs -/

/-- Whom the device `h` is held by follows from the calls made since `base`, and every machine that
holds it has it in its map. -/
structure Grasps (w : World) (h : Handle) (base : Hardware) : Prop where
  follows : ∃ es, w.journal = es ++ base.journal ∧
    (w.deviceAt h).latch? = (base.device h).latch?.map (heldAfter h es)
  bound : ∀ machine, (w.deviceAt h).barrier? = some machine → w.bindsAt machine.index h = true

theorem Grasps.place (hg : w.Grasps h base) (hbase : (base.device h).latch?.isSome = true) :
    (w.deviceAt h).latch?.isSome = true := by
  obtain ⟨es, -, hlatch⟩ := hg.follows
  rw [hlatch, Option.isSome_map]
  exact hbase

theorem Grasps.step_other (hg : w.Grasps h base) (hbase : (base.device h).latch?.isSome = true)
    {op : Op} (hop : ∀ i mop, op ≠ .machine i mop) : (w.step op).2.Grasps h base := by
  have hgrip (machine : MachineId) : (w.step op).2.site.hardware.Grip h machine base
      (if w.bindsAt machine.index h then [h] else []) := by
    refine step_grip_other ⟨hg.follows, fun hheld => ?_⟩ (hg.place hbase) hop
    rw [if_pos (hg.bound machine hheld)]
    exact List.mem_singleton_self h
  refine ⟨(hgrip ⟨0⟩).follows, ?_⟩
  intro machine hheld
  have hmem := (hgrip machine).held hheld
  rw [bindsAt_step_other (hop machine.index)]
  by_contra hnot
  rw [if_neg hnot] at hmem
  exact absurd hmem List.not_mem_nil

theorem Grasps.step_machine (hg : w.Grasps h base) {i : Nat} {station : Station}
    (hs : w.stations[i]? = some station) (hid : station.machine.id = ⟨i⟩) (hm : station.machine.Sound)
    (op : MachineOp) : (w.step (.machine i op)).2.Grasps h base := by
  have hsite := step_site hs op
  have hstation := step_machine? hs op
  have hbound {w : World} {station : Station} (hs : w.stations[i]? = some station) :
      w.bindsAt i h = decide (h ∈ station.machine.handles) := by
    unfold bindsAt
    rw [machine?_of_station hs]
    rfl
  have hheld : (w.deviceAt h).barrier? = some ⟨i⟩ → h ∈ station.machine.handles := by
    intro hheld
    have hbinds := hg.bound ⟨i⟩ hheld
    rw [hbound hs] at hbinds
    exact of_decide_eq_true hbinds
  have hgrip : Machine.Grips h ⟨i⟩ base (station.machine, w.site.hardware) := ⟨hg.follows, hheld⟩
  have hstep := Station.step_grips op hgrip hm
  -- the calls of the operation itself
  have hown : Machine.Grips h ⟨i⟩ w.site.hardware (station.machine, w.site.hardware) :=
    Hardware.grip_refl hheld
  obtain ⟨es, hjournal, hlatch⟩ := (Station.step_grips op hown hm).follows
  obtain ⟨es', hjournal', hes⟩ := station.step_adds w.site op
  obtain rfl : es' = es := List.append_cancel_right (hjournal'.symm.trans hjournal)
  rw [hid] at hes
  refine ⟨?_, ?_⟩
  · unfold journal deviceAt
    rw [hsite]
    exact hstep.follows
  · intro machine hheld
    unfold deviceAt at hheld
    rw [hsite] at hheld
    by_cases hmachine : machine = ⟨i⟩
    · subst hmachine
      rw [hbound hstation]
      exact decide_eq_true (hstep.held hheld)
    · -- another machine held the drive before
      rw [Device.barrier?_eq_some_iff] at hheld
      dsimp only at hlatch
      rw [hlatch] at hheld
      obtain ⟨holder, hplace, hafter⟩ := Option.map_eq_some_iff.1 hheld
      obtain rfl : holder = some machine := (heldAfter_own hes hafter).resolve_left hmachine
      have hbinds := hg.bound machine (Device.barrier?_eq_some_iff.2 hplace)
      have hother : i ≠ machine.index := by
        rintro rfl
        exact hmachine rfl
      have hsame : (w.step (.machine i op)).2.stations[machine.index]? = w.stations[machine.index]? :=
        (w.stepMachine_stations i op machine.index).trans (if_neg hother)
      unfold bindsAt machine? at hbinds ⊢
      rw [hsame]
      exact hbinds

/-! ## Runs -/

/-- Whom a drive is held by follows from the calls since it was built, in every run. -/
theorem run_grasps {pre : List Op} {d : Device} (hplace : d.latch? = some none) (post : List Op) :
    (empty.run (pre ++ .build d :: post)).Grasps ⟨(empty.run pre).site.hardware.devices.length⟩
      ((empty.run pre).site.hardware.build d).2 := by
  have hbase : (((empty.run pre).site.hardware.build d).2.device
      ⟨(empty.run pre).site.hardware.devices.length⟩).latch? = some none := by
    unfold Hardware.build Hardware.device
    simp [hplace]
  induction post using List.reverseRecOn with
  | nil =>
    rw [run_snoc]
    constructor
    · refine ⟨[], rfl, ?_⟩
      show Device.latch? (Hardware.device _ _) = _
      rw [hbase]
      exact hbase
    · intro machine hheld
      rw [Device.barrier?_eq_some_iff] at hheld
      cases hbase.symm.trans hheld
  | append_singleton post op ih =>
    rw [← List.cons_append, ← List.append_assoc, run_snoc]
    by_cases hop : ∃ i mop, op = .machine i mop
    · obtain ⟨i, mop, rfl⟩ := hop
      cases hs : (empty.run (pre ++ .build d :: post)).stations[i]? with
      | none =>
        have hsame : ((empty.run (pre ++ .build d :: post)).step (.machine i mop)).2 =
            empty.run (pre ++ .build d :: post) := stepMachine_of_none hs mop
        rw [hsame]
        exact ih
      | some station =>
        have hm := machine?_of_station hs
        exact ih.step_machine hs (machine?_id _ hm) (run_sound _ hm) mop
    · exact ih.step_other (by rw [hbase]; rfl) fun i mop he => hop ⟨i, mop, he⟩

/-- A drive is held by a machine that has it in its map. -/
def Guarded (w : World) (h : Handle) : Prop :=
  ∃ machine, (w.deviceAt h).barrier? = some machine ∧ w.bindsAt machine.index h = true

/-- Whether an operation puts a medium into a drive, takes it out, or copies it. -/
def movesMedium (w : World) (h : Handle) : DeviceOp → Bool
  | .insertMedium _ => true
  | .ejectMedium => true
  | .exportMedium => true
  | .restore state => w.restoresMedium h state
  | _ => false

theorem step_movesMedium {w : World} {h : Handle} {op : DeviceOp} (hop : w.movesMedium h op = true) :
    (w.step (.device h op)).2.stations = (w.awaitBarrier h).stations := by
  cases op with
  | insertMedium m => rfl
  | ejectMedium => rfl
  | exportMedium => rfl
  | restore state =>
    have hrestores : w.restoresMedium h state = true := hop
    show (if w.restoresMedium h state then w.awaitBarrier h else w).stations = _
    rw [if_pos hrestores]
  | _ => cases hop

/-- Before the medium of a drive that is held is touched, the machine that holds it goes idle. -/
theorem movesMedium_quiesces {w : World} {h : Handle} {machine : MachineId} {station : Station}
    (hheld : (w.deviceAt h).barrier? = some machine) (hs : w.stations[machine.index]? = some station)
    {op : DeviceOp} (hop : w.movesMedium h op = true) :
    (w.step (.device h op)).2.machine? machine.index =
      some (station.machine.quiesce w.site.hardware).1 := by
  have hawait : w.awaitBarrier h = (w.stepMachine machine.index .quiesce).2 := by
    unfold awaitBarrier
    rw [hheld]
  unfold machine?
  rw [step_movesMedium hop, hawait]
  exact congrArg (·.map Station.machine) (step_machine? hs .quiesce)

/-- A drive in a map is held by a machine that has it in its map exactly if the last call that attached
or suspended it attached it.  The worker of that machine is then idle before the medium is touched; if
nobody holds the drive, no machine is waited for. -/
theorem guarded_iff_attached_last (pre post : List Op) (id : DeviceId) (capacity : Nat)
    (medium : Option Medium) :
    let h : Handle := ⟨(empty.run pre).site.hardware.devices.length⟩
    let w := empty.run (pre ++ .build (.drive ⟨id, capacity, medium, none⟩) :: post)
    ∃ es, w.journal = es ++ (empty.run pre).journal ∧
      (w.deviceAt h).barrier? = holder? h es ∧
      (w.Guarded h ↔ (holder? h es).isSome = true) ∧
      ∀ op : DeviceOp, w.movesMedium h op = true →
        match holder? h es with
        | some machine => ∃ m, w.machine? machine.index = some m ∧ h ∈ m.handles ∧
            (w.step (.device h op)).2.machine? machine.index = some (m.quiesce w.site.hardware).1 ∧
            (m.quiesce w.site.hardware).1.worker.isIdle = true
        | none => (w.step (.device h op)).2.stations = w.stations := by
  intro h w
  have hgrasps : w.Grasps h ((empty.run pre).site.hardware.build (.drive ⟨id, capacity, medium, none⟩)).2 :=
    run_grasps rfl post
  obtain ⟨es, hjournal, hlatch⟩ := hgrasps.follows
  have hbarrier : (w.deviceAt h).barrier? = holder? h es := by
    rw [Device.barrier?_eq, hlatch]
    unfold Hardware.build Hardware.device
    simp only [h, List.getD_eq_getElem?_getD, List.getElem?_concat_length]
    rfl
  refine ⟨es, hjournal, hbarrier, ?_, ?_⟩
  · constructor
    · rintro ⟨machine, hheld, -⟩
      rw [← hbarrier, hheld]
      rfl
    · intro hsome
      obtain ⟨machine, hmachine⟩ := Option.isSome_iff_exists.1 hsome
      exact ⟨machine, hbarrier.trans hmachine, hgrasps.bound machine (hbarrier.trans hmachine)⟩
  · intro op hop
    cases hholder : holder? h es with
    | none =>
      have hawait : w.awaitBarrier h = w := by
        unfold awaitBarrier
        rw [hbarrier, hholder]
      dsimp only
      rw [step_movesMedium hop, hawait]
    | some machine =>
      have hheld := hbarrier.trans hholder
      have hbinds := hgrasps.bound machine hheld
      unfold bindsAt at hbinds
      obtain ⟨m, hm, hmem⟩ := (Option.any_eq_true _ _).1 hbinds
      obtain ⟨station, hs, rfl⟩ := machine?_eq_some hm
      exact ⟨station.machine, hm, of_decide_eq_true hmem, movesMedium_quiesces hheld hs hop,
        Machine.quiesce_isIdle (run_paced _ hm) _⟩

/-- Two machines on one element.  The one that takes it over has the drive in its map, but the other
suspended the drive afterwards: the medium changes while the worker is at work. -/
theorem taken_over_drive_is_not_guarded :
    let root : List Op := [.build (.drive ⟨⟨10⟩, 4, some ⟨[1], false⟩, none⟩),
      .topology (.insert ⟨1⟩ [] [⟨⟨0⟩, ⟨10⟩⟩])]
    let machine : Op := .newMachine ⟨1⟩
      (.scripted {}) { cyclesPerTick := 1 } (.queue [])
      .unmetered
    let w := empty.run (root ++ [machine, machine, .machine 1 .start, .machine 1 .tick, .machine 0 .start,
      .machine 0 .tick, .machine 1 .tick, .machine 0 .tick])
    w.bindsAt 0 ⟨0⟩ = true ∧ ¬ w.Guarded ⟨0⟩ ∧
      ∀ op ∈ ([.insertMedium ⟨[2], false⟩, .ejectMedium, .exportMedium, .restore [0, 2]] : List DeviceOp),
        w.movesMedium ⟨0⟩ op = true ∧
          ∃ m ∈ (w.step (.device ⟨0⟩ op)).2.machine? 0, m.worker.isIdle = false := by
  intro root machine w
  refine ⟨by decide, ?_, by decide⟩
  rintro ⟨holder, hheld, -⟩
  have hnone : (w.deviceAt ⟨0⟩).barrier? = none := by decide
  rw [hnone] at hheld
  cases hheld

end World

end DeviceBus
