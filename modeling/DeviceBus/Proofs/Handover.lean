import DeviceBus.Proofs.Listing
import DeviceBus.Proofs.Machine.Moves
import Mathlib.Data.List.Induction

/-!
# Handing over persisted states

A record that a machine takes over brings states for its devices.  They wait in the machine until a
load hands each of them to its device, and a record that is saved meanwhile has the states that wait.

A state that was handed over waits no longer, whether the device accepted it or not: the machine
forgets it before it asks.  So a device that refuses its state, as a memory of another size does, loses
it, and the next record has what the device holds itself (`World.refused_state_is_lost`).
`World.saved_until_handed` says exactly when a saved record has the state of the record taken over:
until the machine handed it to its device once.
-/

namespace DeviceBus

/-! ## Handing over -/

/-- The state that a call gives to the device of a name. -/
def Event.handed? (name : Handle → DeviceId) (id : DeviceId) : Event → Option Bytes
  | .device h (.restore state _) => if name h = id then some state else none
  | _ => none

theorem Event.handed?_of_not_isRestore {e : Event} (h : e.isRestore = false)
    (name : Handle → DeviceId) (id : DeviceId) : e.handed? name id = none := by
  unfold isRestore at h
  split at h
  · cases h
  · next hne =>
    unfold handed?
    split
    · exact absurd rfl (hne _ _ _)
    · rfl

theorem Hardware.restore_journal (hw : Hardware) (h : Handle) (state : Bytes) :
    ∃ accepted, (hw.restore h state).2.journal =
      .device h (.restore state accepted) :: hw.journal := by
  unfold restore
  split
  · exact ⟨true, rfl⟩
  · exact ⟨false, rfl⟩

namespace Machine

/-- Between two states of a machine and the devices, the state that waits for the device of a name
stayed as it was and nothing was handed to that device, or the state was handed over and waits no
longer. -/
def Hands (name : Handle → DeviceId) (id : DeviceId) (a b : Machine × Hardware) : Prop :=
  ∃ es, b.2.journal = es ++ a.2.journal ∧
    ((b.1.pendingStates.get? id = a.1.pendingStates.get? id ∧ ∀ e ∈ es, e.handed? name id = none) ∨
      ∃ state, a.1.pendingStates.get? id = some state ∧ b.1.pendingStates.get? id = none ∧
        ∃ e ∈ es, e.handed? name id = some state)

section

variable {name : Handle → DeviceId} {id : DeviceId} {a b c : Machine × Hardware}

theorem Hands.trans (h₁ : Hands name id a b) (h₂ : Hands name id b c) : Hands name id a c := by
  obtain ⟨es, hes, h₁⟩ := h₁
  obtain ⟨fs, hfs, h₂⟩ := h₂
  refine ⟨fs ++ es, by rw [hfs, hes, List.append_assoc], ?_⟩
  rcases h₁ with ⟨hsame, hnone⟩ | ⟨state, hwaits, hgone, e, he, hhanded⟩
  · rcases h₂ with ⟨hsame', hnone'⟩ | ⟨state, hwaits, hgone, e, he, hhanded⟩
    · refine .inl ⟨hsame'.trans hsame, fun e he => ?_⟩
      rcases List.mem_append.1 he with he | he
      · exact hnone' e he
      · exact hnone e he
    · exact .inr ⟨state, hsame ▸ hwaits, hgone, e, List.mem_append_left _ he, hhanded⟩
  · rcases h₂ with ⟨hsame', -⟩ | ⟨state', hwaits', -⟩
    · exact .inr ⟨state, hwaits, hsame'.trans hgone, e, List.mem_append_right _ he, hhanded⟩
    · rw [hgone] at hwaits'
      cases hwaits'

/-- Calls that restore nothing hand nothing over. -/
theorem Hands.of_adds (hadds : a.2.Adds (·.isRestore = false) b.2)
    (hsame : b.1.pendingStates = a.1.pendingStates) : Hands name id a b := by
  obtain ⟨es, hes, hP⟩ := hadds
  exact ⟨es, hes, .inl ⟨by rw [hsame], fun e he => Event.handed?_of_not_isRestore (hP e he) name id⟩⟩

theorem Move.hands {bus : List BusDevice} {grants : Bool} (h : Move bus grants a b)
    (hnamed : ∀ entry ∈ bus, entry.id = name entry.device.handle) : Hands name id a b := by
  cases h with
  | other hw hworker hstates => exact .of_adds (.refl _ _) hstates
  | calls m h => exact .of_adds h.adds rfl
  | @hand m entry state hw hentry hstate =>
    obtain ⟨accepted, hjournal⟩ := hw.restore_journal entry.device.handle state
    refine ⟨[.device entry.device.handle (.restore state accepted)], hjournal, ?_⟩
    have hname := hnamed entry hentry
    by_cases hid : entry.id = id
    · refine .inr ⟨state, hid ▸ hstate, ?_, _, List.mem_singleton_self _, ?_⟩
      · show (m.pendingStates.erase entry.id).get? id = none
        rw [hid, Table.get?_erase_self]
      · exact if_pos (hname ▸ hid)
    · refine .inl ⟨?_, fun e he => ?_⟩
      · show (m.pendingStates.erase entry.id).get? id = m.pendingStates.get? id
        rw [Table.get?_erase, if_neg fun hindex => hid (Key.index_inj hindex)]
      · rw [List.mem_singleton.1 he]
        exact if_neg (hname ▸ hid)
  | advance m slices hw =>
    exact .of_adds (stepWorker_calls (fun h w g => Worker.progress_carries h slices w g) m hw).adds rfl
  | cancel m hw => exact .of_adds (stepWorker_calls Worker.cancel_carries m hw).adds rfl
  | shutdown m hw => exact .of_adds (stepWorker_calls Worker.shutdown_carries m hw).adds rfl
  | takeFault m hw => exact .of_adds (.refl _ _) rfl
  | start m hw => exact .of_adds (.refl _ _) rfl
  | grant m cycles hw hgrants => exact .of_adds (.refl _ _) rfl

theorem Moves.hands {bus : List BusDevice} {grants : Bool} (h : Moves bus grants a b)
    (hnamed : ∀ entry ∈ bus, entry.id = name entry.device.handle) : Hands name id a b := by
  induction h with
  | refl => exact .of_adds (.refl _ _) rfl
  | tail _ hmove ih => exact ih.trans (hmove.hands hnamed)

end

/-! ## Records -/

/-- A record that is taken over brings the states that wait from then on. -/
theorem loadRecord_states (m : Machine) (r : Record) (hw : Hardware) :
    (m.loadRecord r hw).1.pendingStates = r.devices := by
  unfold loadRecord
  generalize m.cancel hw = p
  obtain ⟨m', hw'⟩ := p
  dsimp only
  generalize m'.releaseDevices hw' = p
  obtain ⟨m'', hw''⟩ := p
  dsimp only
  unfold restoreEmulator rejectEmulation
  split
  · rfl
  · split
    · next he =>
      split at he
      · cases he
        rfl
      · cases he
    · next he =>
      split at he
      · cases he
      · cases he
        dsimp only
        split <;> rfl

/-- The persisted state that a device has for a name. -/
def savedAs (hw : Hardware) (id : DeviceId) (d : BusDevice) : Option Bytes :=
  if d.id = id then (hw.device d.device.handle).save else none

/-- The persisted state that the bus has for a name: that of the first device under it that has one. -/
def ownState? (m : Machine) (hw : Hardware) (id : DeviceId) : Option Bytes :=
  m.controller.devices.findSome? (savedAs hw id)

theorem savedAs_congr {hw hw' : Hardware} (h : hw'.devices = hw.devices) :
    savedAs hw' = savedAs hw := by
  unfold savedAs Hardware.device
  rw [h]

theorem saveDevice_devices (saved : Table DeviceId Bytes × Hardware) (d : BusDevice) :
    (saveDevice saved d).2.devices = saved.2.devices := by
  unfold saveDevice Hardware.save
  dsimp only
  split
  · rfl
  · cases (saved.2.device d.device.handle).save <;> rfl

/-- A state that is there stays, and the device adds its own under its name if there is none. -/
theorem saveDevice_get? (saved : Table DeviceId Bytes × Hardware) (d : BusDevice) (id : DeviceId) :
    (saveDevice saved d).1.get? id = (saved.1.get? id).or (savedAs saved.2 id d) := by
  have hcontains : saved.1.contains d.id = (saved.1.get? d.id).isSome := rfl
  unfold saveDevice savedAs Hardware.save
  dsimp only
  rw [hcontains]
  by_cases hid : d.id = id
  · subst hid
    rw [if_pos rfl]
    cases hstate : saved.1.get? d.id with
    | some state => exact hstate
    | none =>
      cases (saved.2.device d.device.handle).save with
      | none => exact hstate
      | some state => exact saved.1.get?_insert_self d.id state
  · rw [if_neg hid, Option.or_none]
    split
    · rfl
    · cases (saved.2.device d.device.handle).save with
      | none => rfl
      | some state => exact saved.1.get?_insert_of_ne state hid

theorem foldl_saveDevice_get? (devices : List BusDevice) (saved : Table DeviceId Bytes × Hardware)
    (id : DeviceId) :
    (devices.foldl saveDevice saved).1.get? id =
      (saved.1.get? id).or (devices.findSome? (savedAs saved.2 id)) := by
  induction devices generalizing saved with
  | nil => exact Option.or_none.symm
  | cons d rest ih =>
    rw [List.foldl_cons, ih, saveDevice_get?, savedAs_congr (saveDevice_devices saved d),
      List.findSome?_cons, Option.or_assoc]
    cases savedAs saved.2 id d <;> rfl

/-- Slices change no device. -/
theorem runSlice_devices (id : MachineId) :
    Worker.Carries (runSlice id) fun g g' => g'.hardware.devices = g.hardware.devices where
  refl _ := rfl
  trans h₁ h₂ := h₂.trans h₁
  slice _ _ := rfl

theorem quiesce_devices (m : Machine) (hw : Hardware) : (m.quiesce hw).2.devices = hw.devices :=
  Worker.quiesce_carries (runSlice_devices m.id) m.worker ⟨m.emulator, m.terminal, hw⟩

/-- A saved record has the state that waits for a device, or else the device's own. -/
theorem saveRecord_get? (m : Machine) (hw : Hardware) (id : DeviceId) :
    (m.saveRecord hw).1.devices.get? id = (m.pendingStates.get? id).or (m.ownState? hw id) := by
  show ((m.quiesce hw).1.controller.devices.foldl saveDevice
    ((m.quiesce hw).1.pendingStates, (m.quiesce hw).2)).1.get? id = _
  rw [foldl_saveDevice_get?, savedAs_congr (m.quiesce_devices hw)]
  rfl

end Machine

/-! ## Runs -/

/-- Whether an operation leaves the states that wait in the machine at a position to its loads: it
neither finalizes the machine nor has it take over a record. -/
def Op.leavesStates (i : Nat) : Op → Bool
  | .machine j op => j ≠ i || !op.replacesStates
  | _ => true

namespace World

variable {name : Handle → DeviceId} {id : DeviceId} {i : Nat}

/-- The calls that an operation makes, in their order. -/
def calls (w : World) (op : Op) : List Event :=
  ((w.step op).2.journal.take ((w.step op).2.journal.length - w.journal.length)).reverse

/-- The calls that the operations of the machine at a position make in a run. -/
def callsOf (i : Nat) (w : World) (ops : List Op) : List Event :=
  w.log (fun w op => if op.isOf i then w.calls op else []) ops

theorem calls_eq {w : World} {op : Op} {es : List Event} (h : (w.step op).2.journal = es ++ w.journal) :
    w.calls op = es.reverse := by
  unfold calls
  rw [h, List.length_append, Nat.add_sub_cancel, List.take_left]

/-- In the run, the machine at a position handed a state to the device of a name. -/
def HandsOver (name : Handle → DeviceId) (i : Nat) (id : DeviceId) (state : Bytes) (w : World)
    (ops : List Op) : Prop := ∃ e ∈ w.callsOf i ops, e.handed? name id = some state

instance (name : Handle → DeviceId) (i : Nat) (id : DeviceId) (state : Bytes) (w : World)
    (ops : List Op) : Decidable (HandsOver name i id state w ops) :=
  inferInstanceAs (Decidable (∃ e ∈ w.callsOf i ops, e.handed? name id = some state))

theorem handsOver_snoc (w : World) (ops : List Op) (op : Op) (state : Bytes) :
    w.HandsOver name i id state (ops ++ [op]) ↔ w.HandsOver name i id state ops ∨
      op.isOf i = true ∧ ∃ e ∈ (w.run ops).calls op, e.handed? name id = some state := by
  have hcalls : w.callsOf i (ops ++ [op]) =
      w.callsOf i ops ++ if op.isOf i then (w.run ops).calls op else [] := w.log_snoc _ ops op
  unfold HandsOver
  rw [hcalls]
  cases op.isOf i <;> simp [or_and_right, exists_or]

/-- A state waits in the machine at a position until it is handed over, and no longer. -/
def Waits (i : Nat) (id : DeviceId) (state : Bytes) (handed : Prop) (w : World) : Prop :=
  ∃ station, w.stations[i]? = some station ∧
    (¬handed ∧ station.machine.pendingStates.get? id = some state ∨
      handed ∧ station.machine.pendingStates.get? id = none)

theorem Waits.congr {w : World} {state : Bytes} {handed handed' : Prop}
    (h : w.Waits i id state handed) (hiff : handed' ↔ handed) : w.Waits i id state handed' := by
  rwa [propext hiff]

/-- An operation that is not one of the machine hands over nothing of it. -/
theorem Waits.step_other {w : World} {op : Op} {state : Bytes} {handed : Prop}
    (h : w.Waits i id state handed) (hop : op.isOf i = false) : (w.step op).2.Waits i id state handed := by
  obtain ⟨station, hs, hwaits⟩ := h
  obtain ⟨station', hs', rfl | rfl⟩ := step_station_other hs hop
  · exact ⟨_, hs', hwaits⟩
  · exact ⟨_, hs', hwaits⟩

/-- An operation of the machine hands the state over, or leaves it waiting. -/
theorem Waits.step_own {w : World} {mop : MachineOp} {state : Bytes} {handed : Prop}
    (h : w.Waits i id state handed) (hop : mop.replacesStates = false)
    (hlists : (w.step (.machine i mop)).2.network.Lists fun d => d.id = name d.handle) :
    (w.step (.machine i mop)).2.Waits i id state
      (handed ∨ ∃ e ∈ w.calls (.machine i mop), e.handed? name id = some state) := by
  obtain ⟨station, hs, hwaits⟩ := h
  have hs' := step_machine? hs mop
  have hnamed := (hlists.controllers _ _ (controllerAt_machine hs')).stocks
  have hmoved : Machine.Hands name id (station.machine, w.site.hardware)
      ((station.step w.site mop).2.1.machine, (station.step w.site mop).2.2.hardware) :=
    (station.step_moves w.site hop).hands hnamed
  obtain ⟨es, hjournal, hhands⟩ := hmoved
  have hcalls : w.calls (.machine i mop) = es.reverse := by
    refine calls_eq ?_
    show (w.step (.machine i mop)).2.site.hardware.journal = _
    rw [step_site hs]
    exact hjournal
  refine ⟨_, hs', ?_⟩
  simp only [hcalls, List.mem_reverse]
  rcases hhands with ⟨hsame, hnone⟩ | ⟨state', hstate', hgone, e, he, hhanded⟩
  · have hnot : ¬∃ e ∈ es, e.handed? name id = some state := by
      rintro ⟨e, he, hhanded⟩
      rw [hnone e he] at hhanded
      cases hhanded
    rcases hwaits with ⟨hnever, hstate⟩ | ⟨honce, hgone⟩
    · exact .inl ⟨not_or.2 ⟨hnever, hnot⟩, hsame.trans hstate⟩
    · exact .inr ⟨.inl honce, hsame.trans hgone⟩
  · rcases hwaits with ⟨-, hstate⟩ | ⟨-, hgone'⟩
    · obtain rfl : state' = state := Option.some.inj (hstate'.symm.trans hstate)
      exact .inr ⟨.inr ⟨e, he, hhanded⟩, hgone⟩
    · have hnothing := hstate'.symm.trans hgone'
      cases hnothing

/-- A state that waits goes on to wait through a run that leaves it, until it is handed over. -/
theorem Waits.run {w : World} {ops : List Op} {state : Bytes} (h : w.Waits i id state False)
    (hlists : ∀ pre, pre <+: ops → (w.run pre).network.Lists fun d => d.id = name d.handle)
    (hleaves : ∀ op ∈ ops, op.leavesStates i = true) :
    (w.run ops).Waits i id state (w.HandsOver name i id state ops) := by
  induction ops using List.reverseRecOn with
  | nil =>
    refine h.congr ⟨?_, False.elim⟩
    rintro ⟨e, he, -⟩
    cases he
  | append_singleton ops op ih =>
    have hwaits := ih (fun pre hpre => hlists pre (hpre.trans (List.prefix_append _ _)))
      (fun op' h => hleaves op' (List.mem_append_left _ h))
    have hlast := hlists _ (List.prefix_refl _)
    have hleave := hleaves op (List.mem_append_right _ (List.mem_singleton_self op))
    rw [run_snoc] at hlast ⊢
    cases hop : op.isOf i with
    | false =>
      refine (hwaits.step_other hop).congr ((handsOver_snoc w ops op state).trans ?_)
      simp [hop]
    | true =>
      cases op with
      | machine j mop =>
        obtain rfl : j = i := of_decide_eq_true hop
        have hkept : mop.replacesStates = false := by simpa [Op.leavesStates] using hleave
        refine (hwaits.step_own hkept hlast).congr ((handsOver_snoc w ops _ state).trans ?_)
        simp [hop]
      | _ => cases hop

/-- A machine that took a record over and neither was finalized nor took another over saves the state
of the record for a device until it handed it to the device, whether that accepted it or not; from then
on it saves what the device has. -/
theorem saved_until_handed {pre post : List Op} {r : Record} {state : Bytes}
    (hnamed : ∀ op ∈ pre ++ .machine i (.loadRecord r) :: post, op.Stocks fun d => d.id = name d.handle)
    (hleaves : ∀ op ∈ post, op.leavesStates i = true)
    (hbuilt : ((empty.run pre).machine? i).isSome = true) (hstate : r.devices.get? id = some state) :
    let w := empty.run (pre ++ [.machine i (.loadRecord r)])
    let hw := (w.run post).site.hardware
    ∃ m, (w.run post).machine? i = some m ∧
      (¬w.HandsOver name i id state post → (m.saveRecord hw).1.devices.get? id = some state) ∧
      (w.HandsOver name i id state post → (m.saveRecord hw).1.devices.get? id = m.ownState? hw id) := by
  intro w hw
  have hfirst : w.Waits i id state False := by
    obtain ⟨m, hm⟩ := Option.isSome_iff_exists.1 hbuilt
    obtain ⟨station, hs, rfl⟩ := machine?_eq_some hm
    have hs' := step_machine? hs (.loadRecord r)
    rw [← run_snoc] at hs'
    refine ⟨_, hs', .inl ⟨not_false, ?_⟩⟩
    show (station.machine.loadRecord r _).1.pendingStates.get? id = _
    rw [Machine.loadRecord_states]
    exact hstate
  have hlists (part : List Op) (hpart : part <+: post) :
      (w.run part).network.Lists fun d => d.id = name d.handle := by
    have hrun : w.run part = empty.run (pre ++ .machine i (.loadRecord r) :: part) := by
      rw [List.append_cons, run_append]
    rw [hrun]
    refine run_lists fun op hop => hnamed op ?_
    rcases List.mem_append.1 hop with hop | hop
    · exact List.mem_append_left _ hop
    · refine List.mem_append_right _ ?_
      rcases List.mem_cons.1 hop with rfl | hop
      · exact List.mem_cons_self
      · exact List.mem_cons_of_mem _ (hpart.subset hop)
  obtain ⟨station, hs, hwaits⟩ := hfirst.run hlists hleaves
  refine ⟨station.machine, machine?_of_station hs, ?_, ?_⟩
  · intro hnever
    rw [Machine.saveRecord_get?]
    rcases hwaits with ⟨-, hstate'⟩ | ⟨honce, -⟩
    · rw [hstate']
      rfl
    · exact absurd honce hnever
  · intro honce
    rw [Machine.saveRecord_get?]
    rcases hwaits with ⟨hnever, -⟩ | ⟨-, hgone⟩
    · exact absurd honce hnever
    · rw [hgone]
      rfl

/-- Two memories with states to take over.  The first refuses its state, the load fails, and the state
of the second is saved as it was. -/
theorem state_of_second_device_stays :
    let r : Record := { Record.empty with
      elements := [⟨1⟩]
      devices := .ofList [(⟨10⟩, [0xAA, 0xBB, 0xCC]), (⟨11⟩, [1, 2, 3, 4])] }
    let name (h : Handle) : DeviceId := if h.index = 0 then ⟨10⟩ else ⟨11⟩
    let pre : List Op := [.build (.ram (.new ⟨10⟩ 4 0)), .build (.ram (.new ⟨11⟩ 4 0)),
      .topology (.insert ⟨1⟩ [] [⟨⟨0⟩, ⟨10⟩⟩, ⟨⟨1⟩, ⟨11⟩⟩]),
      .newMachine ⟨1⟩ (.scripted {}) {} (.queue [])
        .unmetered]
    let post : List Op := [.machine 0 .start, .machine 0 .tick]
    let w := empty.run (pre ++ [.machine 0 (.loadRecord r)])
    (∀ op ∈ pre ++ .machine 0 (.loadRecord r) :: post, op.Stocks fun d => d.id = name d.handle) ∧
      ∃ m, (w.run post).machine? 0 = some m ∧ m.runState = .error ∧
        (m.saveRecord (w.run post).site.hardware).1.devices.get? ⟨11⟩ = some [1, 2, 3, 4] := by
  intro r name pre post
  dsimp only
  have hnamed : ∀ op ∈ pre ++ .machine 0 (.loadRecord r) :: post,
      op.Stocks fun d => d.id = name d.handle := by
    simp [pre, post, name, Op.Stocks, TopologyOp.Stocks]
  have hstate : r.devices.get? ⟨11⟩ = some [1, 2, 3, 4] := by decide
  obtain ⟨m, hm, hsaved, -⟩ := saved_until_handed hnamed (by decide) (by decide) hstate
  have hrun : ∃ m ∈ ((empty.run (pre ++ [.machine 0 (.loadRecord r)])).run post).machine? 0,
      m.runState = .error := by decide
  obtain ⟨m', hm', hrun⟩ := hrun
  obtain rfl : m' = m := Option.some.inj (hm'.symm.trans hm)
  exact ⟨hnamed, m', hm, hrun, hsaved (by decide)⟩

/-- A memory refuses the state of another size that was restored for it.  No device accepted that
state, and yet the next record has the blank memory instead of it. -/
theorem refused_state_is_lost :
    let r : Record := { Record.empty with
      elements := [⟨1⟩], devices := .ofList [(⟨10⟩, [0xAA, 0xBB, 0xCC])] }
    let ops : List Op := [.build (.ram (.new ⟨10⟩ 4 0)), .topology (.insert ⟨1⟩ [] [⟨⟨0⟩, ⟨10⟩⟩]),
      .newMachine ⟨1⟩ (.scripted {}) {} (.queue [])
        .unmetered,
      .machine 0 (.loadRecord r), .machine 0 .start, .machine 0 .tick]
    r.devices.get? ⟨10⟩ = some [0xAA, 0xBB, 0xCC] ∧
      .device ⟨0⟩ (.restore [0xAA, 0xBB, 0xCC] true) ∉ (empty.run ops).journal ∧
      ∃ m ∈ (empty.run ops).machine? 0, m.runState = .error ∧
        (m.saveRecord (empty.run ops).site.hardware).1.devices.get? ⟨10⟩ = some [0, 0, 0, 0] := by
  decide

end World

end DeviceBus
