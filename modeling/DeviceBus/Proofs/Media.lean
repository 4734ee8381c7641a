import DeviceBus.Proofs.Charts
import DeviceBus.Proofs.Emulation
import DeviceBus.Proofs.Machine.Media

/-!
# Observers of media

An observer that applies every update knows of a drive what was last reported of it, if anything was.  Since
a machine forgets in a load what it saw, a medium that was swapped while the drive was not attached is not
reported when the drive is attached again.  So after a tick the observer is right about an attached drive
exactly if there was a report since the last load, or it is right by what it knew at that load
(`World.media_mirror`).
-/

namespace DeviceBus

namespace World

variable {w : World} {i : Nat} {m : Machine}

/-! ## Between loads -/

/-- No operation of the run loads the machine at a position. -/
def LoadFree (i : Nat) : World → List Op → Prop
  | _, [] => True
  | w, op :: ops => w.loadsOf i op = [] ∧ LoadFree i (w.step op).2 ops

/-- A run is split where the machine at a position loaded for the last time: `before` ends with that load, or
is empty if there was none. -/
structure LastLoad (i : Nat) (w : World) (before since : List Op) : Prop where
  loads : before = [] ∨ ∃ pre op, before = pre ++ [op] ∧ (w.run pre).loadsOf i op ≠ []
  free : (w.run before).LoadFree i since

/-- Every run can be split at the last load. -/
theorem exists_lastLoad (i : Nat) (w : World) (ops : List Op) :
    ∃ before since, ops = before ++ since ∧ w.LastLoad i before since := by
  induction ops generalizing w with
  | nil => exact ⟨[], [], rfl, .inl rfl, trivial⟩
  | cons op ops ih =>
    obtain ⟨before, since, rfl, hloads, hfree⟩ := ih (w.step op).2
    rcases hloads with rfl | ⟨pre, last, rfl, hlast⟩
    · by_cases hload : w.loadsOf i op = []
      · exact ⟨[], op :: since, rfl, .inl rfl, hload, hfree⟩
      · exact ⟨[op], since, rfl, .inr ⟨[], op, rfl, hload⟩, hfree⟩
    · exact ⟨op :: (pre ++ [last]), since, rfl, .inr ⟨op :: pre, last, rfl, hlast⟩, hfree⟩

theorem updates_append (w : World) (i : Nat) (ops ops' : List Op) :
    w.updates i (ops ++ ops') = w.updates i ops ++ (w.run ops).updates i ops' := by
  induction ops generalizing w with
  | nil => rfl
  | cons op ops ih =>
    show w.published i op ++ (w.step op).2.updates i (ops ++ ops') = _
    rw [ih, ← List.append_assoc]
    rfl

/-- What a machine with a queue publishes in an operation that does not load it is what it remembers. -/
theorem step_remembers {waiting : List Update} (hm : w.machine? i = some m)
    (hsink : m.sink = .queue waiting) {op : Op} (hload : w.loadsOf i op = []) :
    ∃ m' waiting', (w.step op).2.machine? i = some m' ∧ m'.sink = .queue waiting' ∧
      (m'.map.isSome = true → m.map.isSome = true ∧
        Machine.Agrees m.media (w.published i op) m'.media) := by
  obtain ⟨station, hs, rfl⟩ := machine?_eq_some hm
  obtain ⟨station', hs', hcases⟩ := step_station hs op
  have hm' := machine?_of_station hs'
  have hrecalls (h : station.machine.Recalls station'.machine) :
      ∃ m' waiting', (w.step op).2.machine? i = some m' ∧ m'.sink = .queue waiting' ∧
        (m'.map.isSome = true → station.machine.map.isSome = true ∧
          Machine.Agrees station.machine.media (w.published i op) m'.media) := by
    obtain ⟨us, hremembers⟩ := h
    have hqueue := hremembers.sink
    rw [hsink, Sink.foldl_publish_queue] at hqueue
    refine ⟨station'.machine, _, hm', hqueue, fun hmap => ⟨hremembers.map hmap, ?_⟩⟩
    rw [published_eq hm hsink hm' hremembers.sink]
    exact hremembers.media hmap
  rcases hcases with rfl | rfl | ⟨mop, rfl, rfl⟩
  · exact hrecalls (.refl _)
  · exact hrecalls (Machine.recalls_of_same rfl rfl rfl)
  · by_cases hdrain : mop = .drainUpdates
    · subst hdrain
      obtain ⟨hempty, hnone⟩ := published_drain hs hsink
      refine ⟨_, [], hm', hempty, fun hmap => ⟨hmap, ?_⟩⟩
      rw [hnone]
      exact .refl _
    · rw [loadsOf_machine hs] at hload
      exact hrecalls (Station.step_recalls hload hdrain)

theorem run_remembers {waiting : List Update} {ops : List Op} (hm : w.machine? i = some m)
    (hsink : m.sink = .queue waiting) (hfree : w.LoadFree i ops) {m' : Machine}
    (hm' : (w.run ops).machine? i = some m') (hmap : m'.map.isSome = true) :
    m.map.isSome = true ∧ Machine.Agrees m.media (w.updates i ops) m'.media := by
  induction ops generalizing w m waiting with
  | nil =>
    rw [run_nil, hm] at hm'
    cases hm'
    exact ⟨hmap, .refl _⟩
  | cons op ops ih =>
    obtain ⟨hload, hrest⟩ := hfree
    obtain ⟨m₁, waiting₁, hm₁, hsink₁, hstep⟩ := step_remembers hm hsink hload
    obtain ⟨hmap₁, hlater⟩ := ih hm₁ hsink₁ hrest hm'
    obtain ⟨hmap₀, hfirst⟩ := hstep hmap₁
    exact ⟨hmap₀, hfirst.trans hlater⟩

/-- A machine with a queue has one ever after. -/
theorem run_queue {waiting : List Update} (hm : w.machine? i = some m) (hsink : m.sink = .queue waiting)
    (ops : List Op) : ∃ m' waiting', (w.run ops).machine? i = some m' ∧ m'.sink = .queue waiting' := by
  induction ops generalizing w m waiting with
  | nil => exact ⟨m, waiting, hm, hsink⟩
  | cons op ops ih =>
    obtain ⟨station, hs, rfl⟩ := machine?_eq_some hm
    obtain ⟨station', hs', hcases⟩ := step_station hs op
    obtain ⟨waiting', hsink'⟩ : ∃ waiting', station'.machine.sink = .queue waiting' := by
      rcases hcases with rfl | rfl | ⟨mop, rfl, rfl⟩
      · exact ⟨waiting, hsink⟩
      · exact ⟨waiting, hsink⟩
      · exact Station.step_queue hsink w.site mop
    exact ih (machine?_of_station hs') hsink'

/-- After a tick an observer knows of an attached drive what was last reported since the last load, or what
it knew then.  It is right about the medium, or knows nothing, exactly if there was a report since that
load, or what it knew then is right, or it knew nothing. -/
theorem media_mirror {pre ops : List Op} {waiting : List Update} (hm : (empty.run pre).machine? i = some m)
    (hsink : m.sink = .queue waiting) {m' : Machine}
    (hm' : (empty.run (pre ++ (ops ++ [.machine i .tick]))).machine? i = some m') {map : DeviceMap}
    (hmap : m'.map = some map) {mapping : Mapping} (hmem : mapping ∈ map.mappings) {storage : Device.Storage}
    (hstorage : ((empty.run (pre ++ (ops ++ [.machine i .tick]))).deviceAt
      mapping.device.handle).storage? = some storage) (v : RemoteView) :
    let w := empty.run pre
    let id := mapping.device.id
    let knows (us : List Update) := (v.applyAll us).mediaPresent? id
    ∃ before since, ops ++ [.machine i .tick] = before ++ since ∧ w.LastLoad i before since ∧
      knows (w.updates i (ops ++ [.machine i .tick])) =
        (Update.reported? id ((w.run before).updates i since)).or (knows (w.updates i before)) ∧
      ((knows (w.updates i (ops ++ [.machine i .tick])) = none ∨
          knows (w.updates i (ops ++ [.machine i .tick])) = some storage.mediaPresent) ↔
        (∃ present, .mediaChanged id present ∈ (w.run before).updates i since) ∨
          knows (w.updates i before) = none ∨ knows (w.updates i before) = some storage.mediaPresent) := by
  intro w id knows
  obtain ⟨before, since, hsplit, hlast⟩ := exists_lastLoad i w (ops ++ [.machine i .tick])
  have hknows : knows (w.updates i (ops ++ [.machine i .tick])) =
      (Update.reported? id ((w.run before).updates i since)).or (knows (w.updates i before)) := by
    show (v.applyAll _).mediaPresent? id = _
    rw [hsplit, updates_append, RemoteView.applyAll_mediaPresent?, Update.reported?_append, Option.or_assoc,
      ← RemoteView.applyAll_mediaPresent?]
  -- what was reported since the last load is what is remembered, and that is so
  have hreported : ∀ present, Update.reported? id ((w.run before).updates i since) = some present →
      present = storage.mediaPresent := by
    intro present hpresent
    obtain ⟨m₀, waiting₀, hm₀, hsink₀⟩ := run_queue hm hsink before
    have hend : ((w.run before).run since).machine? i = some m' := by
      rw [← run_append, ← hsplit, ← run_append]
      exact hm'
    obtain ⟨-, hagrees⟩ := run_remembers hm₀ hsink₀ hlast.free hend (by rw [hmap]; rfl)
    have hremembered := hagrees id present (by rw [hpresent]; rfl)
    have hnodup := map_nodup _ hm' hmap
    obtain ⟨station, hs⟩ : ∃ station, (empty.run (pre ++ ops)).stations[i]? = some station := by
      obtain ⟨m₁, -, hm₁, -⟩ := run_queue hm hsink ops
      obtain ⟨station, hs, -⟩ := machine?_eq_some hm₁
      exact ⟨station, by rw [run_append]; exact hs⟩
    rw [← List.append_assoc, run_snoc] at hm' hstorage
    rw [machine?_of_station (step_machine? hs .tick)] at hm'
    obtain rfl := Option.some.inj hm'
    have hsite := congrArg Site.hardware (step_site hs .tick)
    unfold World.deviceAt at hstorage
    rw [hsite] at hstorage
    have hlooked : (station.step (empty.run (pre ++ ops)).site .tick).2.1.machine.media.get? id =
        some storage.mediaPresent := Machine.tick_media hmap hnodup hmem hstorage
    exact Option.some.inj (hremembered.symm.trans hlooked)
  refine ⟨before, since, hsplit, hlast, hknows, ?_⟩
  rw [hknows, ← Update.reported?_isSome]
  cases hcase : Update.reported? id ((w.run before).updates i since) with
  | none => simp
  | some present => simp [hreported present hcase]

/-- A medium that is taken out while the machine runs is reported by the next tick. -/
theorem ejected_medium_is_reported :
    let pre : List Op := [.build (.drive (Drive.new ⟨10⟩ 4 |>.insert ⟨[1], false⟩)),
      .topology (.insert ⟨1⟩ [] [⟨⟨0⟩, ⟨10⟩⟩]),
      .newMachine ⟨1⟩ (.scripted {}) { cyclesPerTick := 1 } (.queue []) .unmetered]
    let ops : List Op := [.machine 0 .start, .machine 0 .tick, .device ⟨0⟩ .ejectMedium]
    let v : RemoteView := .new {}
    let knows (us : List Update) := (v.applyAll us).mediaPresent? ⟨10⟩
    knows ((empty.run pre).updates 0 (ops ++ [.machine 0 .tick])) = some false ∧
      ∃ before since, ops ++ [.machine 0 .tick] = before ++ since ∧ (empty.run pre).LastLoad 0 before since ∧
        ((knows ((empty.run pre).updates 0 (ops ++ [.machine 0 .tick])) = none ∨
            knows ((empty.run pre).updates 0 (ops ++ [.machine 0 .tick])) = some false) ↔
          (∃ present, .mediaChanged ⟨10⟩ present ∈ ((empty.run pre).run before).updates 0 since) ∨
            knows ((empty.run pre).updates 0 before) = none ∨
            knows ((empty.run pre).updates 0 before) = some false) := by
  intro pre ops v knows
  refine ⟨by decide, ?_⟩
  have hbuilt : (empty.run pre).machine? 0 = some _ := rfl
  have hticked : (empty.run (pre ++ (ops ++ [.machine 0 .tick]))).machine? 0 = some _ := rfl
  obtain ⟨before, since, hsplit, hlast, -, hiff⟩ := media_mirror hbuilt rfl hticked rfl List.mem_cons_self
    rfl v
  exact ⟨before, since, hsplit, hlast, hiff⟩

/-- A medium that is put in while another device joins is not reported: the drive is attached in every tick,
and after the last one the observer still takes it to be empty. -/
theorem medium_swapped_in_load_is_missed :
    let pre : List Op := [.build (.drive (Drive.new ⟨10⟩ 4 |>.insert ⟨[1], false⟩)),
      .build (.ram (.new ⟨11⟩ 4 0)), .topology (.insert ⟨1⟩ [] [⟨⟨0⟩, ⟨10⟩⟩]),
      .newMachine ⟨1⟩ (.scripted {}) { cyclesPerTick := 1 } (.queue []) .unmetered]
    let post : List Op := [.machine 0 .start, .machine 0 .tick, .device ⟨0⟩ .ejectMedium, .machine 0 .tick,
      .device ⟨0⟩ (.insertMedium ⟨[1], false⟩), .topology (.addDevice ⟨1⟩ ⟨⟨1⟩, ⟨11⟩⟩), .machine 0 .tick]
    let v : RemoteView := .new {}
    ∃ m ∈ (empty.run (pre ++ post)).machine? 0, ∃ map ∈ m.map, ∃ mapping ∈ map.mappings,
      (((empty.run (pre ++ post)).deviceAt mapping.device.handle).storage?.map fun storage =>
          storage.mediaPresent) = some true ∧
        (v.applyAll ((empty.run pre).updates 0 post)).mediaPresent? mapping.device.id = some false := by
  decide

end World

end DeviceBus
