import DeviceBus.Proofs.Listing
import DeviceBus.Proofs.Machine.Devices
import Mathlib.Data.List.Induction

/-!
# Attached devices in a run

In a run in which every device object goes by one name, is on the bus of one machine only, and is left
to that machine by the host, each device is attached and released in turns, and the devices that are
attached are those of the machines' maps (`World.attached_of_usesAlone`).  A load that fails leaves
none of its machine's devices attached.
-/

namespace DeviceBus

open Event (Plain)
open Hardware (Apart)

/-! ## Failing loads -/

namespace Machine

/-- What a load that failed leaves. -/
structure Failed (e : BootError) (m : Machine) : Prop where
  runState : m.runState = .error
  bootError : m.bootError = some e.message
  map : m.map = none

theorem Failed.steady {e : BootError} {m m' : Machine} (h : m.Failed e) (hs : m.Steady m') :
    m'.Failed e :=
  ⟨hs.runState.trans h.runState, hs.bootError.trans h.bootError, hs.map.trans h.map⟩

theorem load_failed {e : BootError} {m : Machine} {hw : Hardware} (he : m.loadError? hw = some e) :
    (m.load hw).1.Failed e :=
  ⟨(load_of_error he).1, (load_of_error he).2.1, (load_of_error he).2.2⟩

/-- A tick goes no further after a load that failed. -/
theorem proceed_of_failed {e : BootError} {m : Machine} (h : m.Failed e) (energy : EnergySource)
    (hw : Hardware) : m.proceed energy hw = (m, energy, hw) := by
  unfold proceed
  rw [h.runState]

/-- A load of a tick that fails is the last that the tick does. -/
theorem tick_failed {e : BootError} {m : Machine} {s : Site} {p : Machine × Hardware}
    (hp : p ∈ m.tickLoads s) (he : p.1.loadError? p.2 = some e) (energy : EnergySource) :
    (m.tick energy s).1.Failed e := by
  unfold tickLoads at hp
  rw [tick_eq]
  generalize m.observe s = q at hp
  obtain ⟨m₁, s₁⟩ := q
  dsimp only at hp ⊢
  have hfailed : ((m₁.absorbChanges s₁.hardware).1.proceed energy
      (m₁.absorbChanges s₁.hardware).2).1.Failed e := by
    rcases List.mem_append.1 hp with hp | hp
    · rw [absorbChanges_of_some (Option.mem_toList.1 hp)]
      have hload := load_failed he
      rw [proceed_of_failed hload]
      exact hload
    · rw [proceed_of_some (Option.mem_toList.1 hp)]
      exact load_failed he
  exact hfailed.steady ((flushTerminal_steady _).trans (publishMedia_steady _ _))

end Machine

/-- A load that fails in an operation of a machine leaves the machine in its error state. -/
theorem Station.step_failed {e : BootError} {station : Station} {s : Site} {op : MachineOp}
    {p : Machine × Hardware} (hp : p ∈ station.loads s op) (he : p.1.loadError? p.2 = some e) :
    (station.step s op).2.1.machine.Failed e := by
  cases op with
  | start =>
    have hstart := Machine.start_of_some (Option.mem_toList.1 hp)
    show (station.machine.start s.hardware).2.1.Failed e
    rw [hstart]
    exact Machine.load_failed he
  | tick => exact Machine.tick_failed hp he station.energy
  | _ => cases hp

/-- A bus whose devices go by the names of their objects lists no object twice. -/
theorem Controller.Lists.busHandles_nodup {name : Handle → DeviceId} {c : Controller}
    (h : c.Lists fun d => d.id = name d.handle) : (busHandles c.devices).Nodup := by
  have hids : c.devices.map BusDevice.id = (busHandles c.devices).map name := by
    unfold busHandles
    rw [List.map_map]
    exact List.map_congr_left h.stocks
  have hnodup := h.nodup
  rw [hids] at hnodup
  exact hnodup.of_map

namespace World

/-! ## Runs in which devices are used alone -/

/-- Every device object goes by the name `name`, is on the bus of the machine `home` only, and is left
to it by the host. -/
structure UsesAlone (name : Handle → DeviceId) (home : Handle → Nat) (ops : List Op) : Prop where
  /-- Elements and the provider offer devices under their names. -/
  named : ∀ op ∈ ops, op.Stocks fun d => d.id = name d.handle
  /-- A device is never on the bus of another machine. -/
  alone : ∀ pre, pre <+: ops → ∀ i m, (empty.run pre).machine? i = some m →
    ∀ h ∈ busHandles m.controller.devices, home h = i
  /-- The host neither suspends nor finalizes a device itself. -/
  left : ∀ op ∈ ops, op.letsGo = false

theorem UsesAlone.take {name : Handle → DeviceId} {home : Handle → Nat} {ops ops' : List Op}
    (h : UsesAlone name home (ops ++ ops')) : UsesAlone name home ops where
  named := fun op hop => h.named op (List.mem_append_left _ hop)
  alone := fun pre hpre => h.alone pre (hpre.trans (List.prefix_append _ _))
  left := fun op hop => h.left op (List.mem_append_left _ hop)

/-- Each device takes turns, and the attached devices are those of the maps of running machines. -/
structure TakesTurns (w : World) : Prop where
  /-- No call came out of turn, and the attached devices are those of the machines' maps. -/
  attached : ∀ h, ∃ b, attached? h w.journal = some b ∧
    (b = true ↔ ∃ i m, w.machine? i = some m ∧ h ∈ m.handles)
  /-- There is a map only while the machine runs. -/
  running : ∀ i m, w.machine? i = some m → m.map.isSome = true → m.runState = .running

/-- Whether the machine at a position has a device in its map. -/
def bindsAt (w : World) (i : Nat) (h : Handle) : Bool :=
  (w.machine? i).any fun m => decide (h ∈ m.handles)

/-- The devices of every machine's map are on its bus alone, and each device is attached exactly if it
is in the map of its machine. -/
structure Bound (home : Handle → Nat) (w : World) : Prop where
  running : ∀ i m, w.machine? i = some m → m.map.isSome = true → m.runState = .running
  nodup : ∀ i m, w.machine? i = some m → m.handles.Nodup
  within : ∀ i m, w.machine? i = some m → ∀ h ∈ m.handles, home h = i
  attached : ∀ h, attached? h w.journal = some (w.bindsAt (home h) h)

/-- Whether a device is in the map of a machine other than that at a position. -/
def elsewhere (home : Handle → Nat) (w : World) (i : Nat) (h : Handle) : Bool :=
  !decide (home h = i) && w.bindsAt (home h) h

theorem Bound.keeps {home : Handle → Nat} {w : World} (hb : w.Bound home) {i : Nat}
    {station : Station} (hs : w.stations[i]? = some station) (h : Handle) :
    Machine.Keeps (home · = i) h (elsewhere home w i h) (station.machine, w.site.hardware) := by
  have hm := machine?_of_station hs
  refine ⟨⟨hb.nodup i _ hm, hb.within i _ hm, ?_, ?_⟩, hb.running i _ hm⟩
  · intro hmem
    unfold elsewhere
    rw [hb.within i _ hm h hmem]
    simp
  · show attached? h w.journal = _
    rw [hb.attached h]
    unfold elsewhere
    by_cases hhome : home h = i
    · subst hhome
      simp [bindsAt, hm]
    · have hmem : h ∉ station.machine.handles := fun hmem => hhome (hb.within i _ hm h hmem)
      simp [hhome, hmem]

/-- The machine at a position after an operation that is not its own: as steady as before, or just
built and without a map. -/
theorem machine?_step_other {w : World} {op : Op} {i : Nat} (hop : ∀ mop, op ≠ .machine i mop)
    {m' : Machine} (hm' : (w.step op).2.machine? i = some m') :
    (∃ m, w.machine? i = some m ∧ m.Steady m') ∨ w.machine? i = none ∧ m'.map = none := by
  obtain ⟨station', hs', rfl⟩ := machine?_eq_some hm'
  rcases step_station_inv hs' with ⟨station, hs⟩ | ⟨root, emulator, config, sink, hi, hm⟩
  · left
    refine ⟨station.machine, machine?_of_station hs, ?_⟩
    obtain ⟨station'', hs'', hcases⟩ := step_station hs op
    rw [hs'] at hs''
    cases hs''
    rcases hcases with rfl | rfl | ⟨mop, rfl, -⟩
    · exact .refl _
    · exact station.machine.stepWorker_steady Worker.quiesce w.site.hardware
    · exact absurd rfl (hop mop)
  · right
    rw [hm]
    refine ⟨?_, rfl⟩
    unfold machine?
    rw [List.getElem?_eq_none (Nat.le_of_eq hi.symm)]
    rfl

/-- A machine that is there stays there. -/
theorem machine?_step_isSome {w : World} {i : Nat} {m : Machine} (hm : w.machine? i = some m)
    (op : Op) : ∃ m', (w.step op).2.machine? i = some m' := by
  obtain ⟨station, hs, -⟩ := machine?_eq_some hm
  obtain ⟨station', hs', -⟩ := step_station hs op
  exact ⟨station'.machine, machine?_of_station hs'⟩

/-- An operation that is not one of a machine leaves every map as it was. -/
theorem bindsAt_step_other {w : World} {op : Op} {i : Nat} (hop : ∀ mop, op ≠ .machine i mop)
    (h : Handle) : (w.step op).2.bindsAt i h = w.bindsAt i h := by
  unfold bindsAt
  cases hm' : (w.step op).2.machine? i with
  | none =>
    cases hm : w.machine? i with
    | none => rfl
    | some m =>
      obtain ⟨m', hm''⟩ := machine?_step_isSome hm op
      rw [hm'] at hm''
      cases hm''
  | some m' =>
    rcases machine?_step_other hop hm' with ⟨m, hm, hsteady⟩ | ⟨hm, hmap⟩
    · rw [hm]
      show decide (h ∈ m'.handles) = decide (h ∈ m.handles)
      rw [hsteady.handles]
    · rw [hm]
      show decide (h ∈ m'.handles) = false
      rw [Machine.handles_of_none hmap]
      rfl

/-- What the buses of the machines list after an operation is theirs alone, each device once. -/
def ServesAlone (home : Handle → Nat) (w : World) : Prop :=
  ∀ i m, w.machine? i = some m → (busHandles m.controller.devices).Nodup ∧
    ∀ h ∈ busHandles m.controller.devices, home h = i

theorem Bound.step_other {home : Handle → Nat} {w : World} (hb : w.Bound home) {op : Op}
    (hop : ∀ i mop, op ≠ .machine i mop) (hleft : op.letsGo = false) : (w.step op).2.Bound home := by
  have hkept {i : Nat} {m' : Machine} (hm' : (w.step op).2.machine? i = some m') :=
    machine?_step_other (hop i) hm'
  refine ⟨?_, ?_, ?_, ?_⟩
  · intro i m' hm' hsome
    rcases hkept hm' with ⟨m, hm, hsteady⟩ | ⟨-, hmap⟩
    · rw [hsteady.map] at hsome
      exact hsteady.runState.trans (hb.running i m hm hsome)
    · rw [hmap] at hsome
      cases hsome
  · intro i m' hm'
    rcases hkept hm' with ⟨m, hm, hsteady⟩ | ⟨-, hmap⟩
    · rw [hsteady.handles]
      exact hb.nodup i m hm
    · rw [Machine.handles_of_none hmap]
      exact List.nodup_nil
  · intro i m' hm'
    rcases hkept hm' with ⟨m, hm, hsteady⟩ | ⟨-, hmap⟩
    · rw [hsteady.handles]
      exact hb.within i m hm
    · rw [Machine.handles_of_none hmap]
      intro h hmem
      exact absurd hmem List.not_mem_nil
  · intro h
    rw [bindsAt_step_other (hop (home h)), ← hb.attached h]
    exact (w.step_adds_plain hop hleft).plain_attached?_eq

theorem Bound.step_machine {home : Handle → Nat} {w : World} (hb : w.Bound home) {i : Nat}
    {op : MachineOp} (hserves : (w.step (.machine i op)).2.ServesAlone home) :
    (w.step (.machine i op)).2.Bound home := by
  cases hs : w.stations[i]? with
  | none =>
    have hsame : (w.step (.machine i op)).2 = w := stepMachine_of_none hs op
    rw [hsame]
    exact hb
  | some station =>
    have hs' := step_machine? hs op
    have hm' := machine?_of_station hs'
    have hsite : (w.step (.machine i op)).2.site.hardware = (station.step w.site op).2.2.hardware := by
      show (w.stepMachine i op).2.site.hardware = _
      unfold stepMachine
      rw [hs]
    obtain ⟨hnodup, hwithin⟩ := hserves i _ hm'
    have hkeeps (h : Handle) := Station.step_keeps op (hb.keeps hs h) ⟨hnodup, hwithin, fun hmem => by
      unfold elsewhere
      rw [hwithin h hmem]
      simp⟩
    have hother {j : Nat} (hj : j ≠ i) :
        (w.step (.machine i op)).2.machine? j = w.machine? j := by
      unfold machine?
      rw [show (w.step (.machine i op)).2.stations[j]? = w.stations[j]? from
        (w.stepMachine_stations i op j).trans (if_neg fun e => hj e.symm)]
    have hown {j : Nat} {m : Machine} (hm : (w.step (.machine i op)).2.machine? j = some m) :
        j = i ∧ m = (station.step w.site op).2.1.machine ∨ w.machine? j = some m := by
      by_cases hj : j = i
      · subst hj
        rw [hm'] at hm
        cases hm
        exact .inl ⟨rfl, rfl⟩
      · rw [hother hj] at hm
        exact .inr hm
    refine ⟨?_, ?_, ?_, ?_⟩
    · intro j m hm hsome
      rcases hown hm with ⟨rfl, rfl⟩ | hm
      · exact (hkeeps ⟨0⟩).running hsome
      · exact hb.running j m hm hsome
    · intro j m hm
      rcases hown hm with ⟨rfl, rfl⟩ | hm
      · exact (hkeeps ⟨0⟩).nodup
      · exact hb.nodup j m hm
    · intro j m hm
      rcases hown hm with ⟨rfl, rfl⟩ | hm
      · exact (hkeeps ⟨0⟩).within
      · exact hb.within j m hm
    · intro h
      have htracks : (station.step w.site op).2.2.hardware.Tracks h (elsewhere home w i h)
        (station.step w.site op).2.1.machine.handles := (hkeeps h).tracks
      unfold journal
      rw [hsite, htracks]
      unfold elsewhere
      by_cases hhome : home h = i
      · subst hhome
        simp [bindsAt, hm']
      · have hmem : h ∉ (station.step w.site op).2.1.machine.handles := fun hmem =>
          hhome ((hkeeps h).within h hmem)
        simp [bindsAt, hother hhome, hhome, hmem]

/-- What the buses list, in a run in which devices are used alone. -/
theorem UsesAlone.servesAlone {name : Handle → DeviceId} {home : Handle → Nat} {ops : List Op}
    (h : UsesAlone name home ops) : (empty.run ops).ServesAlone home := by
  intro i m hm
  obtain ⟨station, hs, rfl⟩ := machine?_eq_some hm
  refine ⟨?_, h.alone ops (List.prefix_refl ops) i _ hm⟩
  exact ((run_lists h.named).controllers _ _ (controllerAt_machine hs)).busHandles_nodup

/-- The maps of the machines follow the journal through every run in which devices are used alone. -/
theorem run_bound {name : Handle → DeviceId} {home : Handle → Nat} {ops : List Op}
    (h : UsesAlone name home ops) : (empty.run ops).Bound home := by
  induction ops using List.reverseRecOn with
  | nil =>
    refine ⟨?_, ?_, ?_, fun h => rfl⟩
    · intro i m hm
      cases hm
    · intro i m hm
      cases hm
    · intro i m hm
      cases hm
  | append_singleton ops op ih =>
    have hb := ih h.take
    -- a load of the operation attaches what the bus lists after the operation
    have hserves := h.servesAlone
    rw [run_snoc] at hserves ⊢
    by_cases hop : ∃ i mop, op = .machine i mop
    · obtain ⟨i, mop, rfl⟩ := hop
      exact hb.step_machine hserves
    · exact hb.step_other (fun i mop he => hop ⟨i, mop, he⟩)
        (h.left op (List.mem_append_right _ (List.mem_singleton_self op)))

theorem Bound.takesTurns {home : Handle → Nat} {w : World} (hb : w.Bound home) : w.TakesTurns := by
  refine ⟨?_, hb.running⟩
  intro h
  refine ⟨_, hb.attached h, ?_⟩
  unfold bindsAt
  rw [Option.any_eq_true]
  constructor
  · rintro ⟨m, hm, hmem⟩
    exact ⟨home h, m, hm, of_decide_eq_true hmem⟩
  · rintro ⟨i, m, hm, hmem⟩
    rw [hb.within i m hm h hmem]
    exact ⟨m, hm, decide_eq_true hmem⟩

/-- In a run in which every device is used by one machine alone, devices are attached and released in
turns, and the attached devices are those of the maps of running machines.  A load that fails leaves
its machine in the error state, with a boot error, and none of the machine's devices attached. -/
theorem attached_of_usesAlone {name : Handle → DeviceId} {home : Handle → Nat} {ops : List Op}
    (h : UsesAlone name home ops) :
    (empty.run ops).TakesTurns ∧
      ∀ pre i mop, pre ++ [.machine i mop] <+: ops →
        ∀ p ∈ (empty.run pre).loads (.machine i mop), ∀ e, p.1.loadError? p.2 = some e →
          let w' := empty.run (pre ++ [.machine i mop])
          (∃ m, w'.machine? i = some m ∧ m.Failed e) ∧
            ∀ h, home h = i → attached? h w'.journal = some false := by
  refine ⟨(run_bound h).takesTurns, ?_⟩
  intro pre i mop hpre p hp e he
  obtain ⟨post, rfl⟩ := hpre
  have hsome : ∃ station, (empty.run pre).stations[i]? = some station := by
    obtain ⟨station, hs, -⟩ := List.mem_flatMap.1 hp
    exact ⟨station, Option.mem_toList.1 hs⟩
  obtain ⟨station, hs⟩ := hsome
  rw [loads_machine hs] at hp
  have hfailed := Station.step_failed hp he
  have hm' : (empty.run (pre ++ [.machine i mop])).machine? i =
      some (station.step (empty.run pre).site mop).2.1.machine := by
    rw [run_snoc]
    exact machine?_of_station (step_machine? hs mop)
  refine ⟨⟨_, hm', hfailed⟩, ?_⟩
  rintro h' rfl
  rw [(run_bound h.take).attached h']
  unfold bindsAt
  rw [hm']
  show some (decide (h' ∈ Machine.handles _)) = some false
  rw [Machine.handles_of_none hfailed.map]
  rfl

/-- The machines of a run are those it built. -/
theorem run_stations_length (ops : List Op) :
    (empty.run ops).stations.length = ops.countP Op.buildsMachine := by
  induction ops using List.reverseRecOn with
  | nil => rfl
  | append_singleton ops op ih =>
    rw [run_snoc, List.countP_append, ← ih, step_stations_count]

/-- A run with one machine uses all devices alone. -/
theorem usesAlone_of_one_machine {name : Handle → DeviceId} {ops : List Op}
    (hone : ops.countP Op.buildsMachine ≤ 1)
    (hnamed : ∀ op ∈ ops, op.Stocks fun d => d.id = name d.handle)
    (hleft : ∀ op ∈ ops, op.letsGo = false) : UsesAlone name (fun _ => 0) ops := by
  refine ⟨hnamed, ?_, hleft⟩
  rintro pre ⟨post, rfl⟩ i m hm h -
  obtain ⟨station, hs, -⟩ := machine?_eq_some hm
  have hlt : i < (empty.run pre).stations.length := (List.getElem?_eq_some_iff.1 hs).1
  rw [run_stations_length] at hlt
  rw [List.countP_append] at hone
  omega

/-- A machine with one device, which is attached, released, and then refuses. -/
theorem turns_of_refusing_device :
    let probe : Probe := ⟨⟨10⟩, "probe", 0, 0, false, 0, false, none, none, none⟩
    let pre : List Op := [.build (.probe probe), .topology (.insert ⟨1⟩ [] [⟨⟨0⟩, ⟨10⟩⟩]),
      .newMachine ⟨1⟩ (.scripted {}) {} (.queue [])
        .unmetered,
      .machine 0 .start, .machine 0 .tick, .machine 0 .stop,
      .device ⟨0⟩ (.configure fun p => { p with refusal := some ⟨"busy"⟩ })]
    let w' := empty.run (pre ++ [.machine 0 .start])
    UsesAlone (fun _ => ⟨10⟩) (fun _ => 0) (pre ++ [.machine 0 .start]) ∧ w'.TakesTurns ∧
      (∃ m, w'.machine? 0 = some m ∧ m.Failed (.deviceRejected ⟨10⟩ ⟨"busy"⟩)) := by
  intro probe pre w'
  have h : UsesAlone (fun _ => ⟨10⟩) (fun _ => 0) (pre ++ [.machine 0 .start]) := by
    refine usesAlone_of_one_machine (by decide) ?_ (by decide)
    simp [pre, Op.Stocks, TopologyOp.Stocks]
  have hfailed := (attached_of_usesAlone h).2 pre 0 .start (List.prefix_refl _)
    (((empty.run pre).loads (.machine 0 .start)).head (by decide)) (List.head_mem _)
    (.deviceRejected ⟨10⟩ ⟨"busy"⟩) (by decide)
  exact ⟨h, (attached_of_usesAlone h).1, hfailed.1⟩

end World

end DeviceBus
