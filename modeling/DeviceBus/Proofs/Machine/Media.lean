import DeviceBus.Proofs.Machine.Charts
import DeviceBus.Proofs.Mirror

/-!
# Media, as a machine remembers them

At the end of a tick a machine looks at the medium of every attached device, and publishes a change against
what it saw before.  What it saw before it forgets in every load.  As long as it does not load, what it last
reported of a device is what it remembers, and what it remembers at the end of a tick is so:

    (Update.reported? d us).or (m.media.get? d) = some present → m'.media.get? d = some present

where `us` was published on the way from `m` to `m'` (`Machine.Remembers`).
-/

namespace DeviceBus

/-! ## Reports -/

/-- What an update reports of a device: whether there is a medium in it. -/
def Update.report? (d : DeviceId) : Update → Option Bool
  | .mediaChanged device present => if device = d then some present else none
  | _ => none

/-- What a list of updates last reports of a device. -/
def Update.reported? (d : DeviceId) (us : List Update) : Option Bool := us.reverse.findSome? (report? d)

theorem Update.reported?_append (d : DeviceId) (us vs : List Update) :
    reported? d (us ++ vs) = (reported? d vs).or (reported? d us) := by
  unfold reported?
  rw [List.reverse_append, List.findSome?_append]

theorem Update.reported?_singleton (d : DeviceId) (u : Update) : reported? d [u] = report? d u := by
  unfold reported?
  simp

/-- A device was reported of if there is a report in the list. -/
theorem Update.reported?_isSome (d : DeviceId) (us : List Update) :
    (reported? d us).isSome = true ↔ ∃ present, .mediaChanged d present ∈ us := by
  unfold reported?
  rw [List.findSome?_isSome_iff]
  constructor
  · rintro ⟨u, hu, hreport⟩
    cases u with
    | mediaChanged device present =>
      by_cases hd : device = d
      · subst hd
        exact ⟨present, List.mem_reverse.1 hu⟩
      · simp [report?, hd] at hreport
    | _ => simp [report?] at hreport
  · rintro ⟨present, hmem⟩
    exact ⟨_, List.mem_reverse.2 hmem, by simp [report?]⟩

/-- An observer knows of a device what was last reported, or what it knew before. -/
theorem RemoteView.applyAll_mediaPresent? (v : RemoteView) (us : List Update) (d : DeviceId) :
    (v.applyAll us).mediaPresent? d = (Update.reported? d us).or (v.mediaPresent? d) := by
  induction us generalizing v with
  | nil => rfl
  | cons u us ih =>
    have hone : (v.apply u).mediaPresent? d = (Update.report? d u).or (v.mediaPresent? d) := by
      cases u with
      | mediaChanged device present =>
        show (v.media.insert device present).get? d = _
        unfold Update.report?
        by_cases hd : device = d
        · subst hd
          simp
        · simp [hd, Table.get?_insert_of_ne, mediaPresent?]
      | _ => rfl
    show ((v.apply u).applyAll us).mediaPresent? d = _
    rw [ih, hone, ← List.singleton_append, Update.reported?_append, Update.reported?_singleton,
      Option.or_assoc]

namespace Machine

/-! ## Looking at media -/

/-- The table of media, after updates that were published since there was another table, agrees with what
was last reported. -/
def Agrees (media : Table DeviceId Bool) (us : List Update) (media' : Table DeviceId Bool) : Prop :=
  ∀ d present, (Update.reported? d us).or (media.get? d) = some present → media'.get? d = some present

theorem Agrees.refl (media : Table DeviceId Bool) : Agrees media [] media := fun _ _ h => h

theorem Agrees.trans {media media' media'' : Table DeviceId Bool} {us vs : List Update}
    (h : Agrees media us media') (h' : Agrees media' vs media'') : Agrees media (us ++ vs) media'' := by
  intro d present hknown
  rw [Update.reported?_append, Option.or_assoc] at hknown
  apply h'
  cases hreported : Update.reported? d vs with
  | some present' =>
    rw [hreported] at hknown
    exact hknown
  | none =>
    rw [hreported, Option.none_or] at hknown
    rw [Option.none_or]
    exact h d present hknown

variable {hw : Hardware}

/-- A look at a medium is remembered, and a change is listed. -/
theorem lookAtMedium_agrees {media : Table DeviceId Bool} {seen : Table DeviceId Bool × List Update}
    (h : Agrees media seen.2 seen.1) (mapping : Mapping) :
    Agrees media (lookAtMedium hw seen mapping).2 (lookAtMedium hw seen mapping).1 := by
  unfold lookAtMedium
  split
  · exact h
  · next storage _ =>
    intro d present hknown
    dsimp only at hknown ⊢
    by_cases hd : mapping.device.id = d
    · subst hd
      rw [Table.get?_insert_self]
      split at hknown
      · rw [Update.reported?_append, Update.reported?_singleton] at hknown
        simpa [Update.report?] using hknown
      · next hsame =>
        -- what was remembered is not the opposite of what is seen now
        have hwas := h mapping.device.id present hknown
        rw [hwas] at hsame
        cases hp : present <;> cases hs : storage.mediaPresent <;> simp_all
    · rw [Table.get?_insert_of_ne _ _ hd]
      apply h d present
      split at hknown
      · rw [Update.reported?_append, Update.reported?_singleton] at hknown
        simpa [Update.report?, hd] using hknown
      · exact hknown

theorem foldl_lookAtMedium_agrees {media : Table DeviceId Bool} (mappings : List Mapping)
    {seen : Table DeviceId Bool × List Update} (h : Agrees media seen.2 seen.1) :
    Agrees media (mappings.foldl (lookAtMedium hw) seen).2 (mappings.foldl (lookAtMedium hw) seen).1 := by
  induction mappings generalizing seen with
  | nil => exact h
  | cons mapping rest ih => exact ih (lookAtMedium_agrees h mapping)

theorem lookAtMedium_get?_of_ne {seen : Table DeviceId Bool × List Update} {mapping : Mapping} {d : DeviceId}
    (hd : mapping.device.id ≠ d) : (lookAtMedium hw seen mapping).1.get? d = seen.1.get? d := by
  unfold lookAtMedium
  split
  · rfl
  · exact Table.get?_insert_of_ne _ _ hd

theorem foldl_lookAtMedium_get?_of_ne {mappings : List Mapping} {seen : Table DeviceId Bool × List Update}
    {d : DeviceId} (hd : ∀ mapping ∈ mappings, mapping.device.id ≠ d) :
    (mappings.foldl (lookAtMedium hw) seen).1.get? d = seen.1.get? d := by
  induction mappings generalizing seen with
  | nil => rfl
  | cons mapping rest ih =>
    show (rest.foldl (lookAtMedium hw) (lookAtMedium hw seen mapping)).1.get? d = _
    rw [ih fun mapping' hmem => hd mapping' (List.mem_cons_of_mem _ hmem)]
    exact lookAtMedium_get?_of_ne (hd mapping List.mem_cons_self)

/-- Once all devices were looked at, the medium of each is remembered as it is, if they have different
names. -/
theorem foldl_lookAtMedium_get? {mappings : List Mapping} {seen : Table DeviceId Bool × List Update}
    (hnodup : (mappings.map fun mapping => mapping.device.id).Nodup) {mapping : Mapping}
    (hmem : mapping ∈ mappings) {storage : Device.Storage}
    (hstorage : (hw.device mapping.device.handle).storage? = some storage) :
    (mappings.foldl (lookAtMedium hw) seen).1.get? mapping.device.id = some storage.mediaPresent := by
  induction mappings generalizing seen with
  | nil => cases hmem
  | cons first rest ih =>
    rw [List.map_cons, List.nodup_cons] at hnodup
    rcases List.mem_cons.1 hmem with rfl | hrest
    · show (rest.foldl (lookAtMedium hw) (lookAtMedium hw seen mapping)).1.get? mapping.device.id = _
      rw [foldl_lookAtMedium_get?_of_ne]
      · unfold lookAtMedium
        rw [hstorage]
        exact Table.get?_insert_self ..
      · intro mapping' hmem' heq
        apply hnodup.1
        rw [← heq]
        exact List.mem_map_of_mem hmem'
    · exact ih hnodup.2 hrest

/-! ## Remembering -/

/-- The updates were published on the way from one state of a machine to the next; and if devices are
attached after that, some were before, and what is remembered of media agrees with what was reported. -/
structure Remembers (us : List Update) (m m' : Machine) : Prop where
  sink : m'.sink = us.foldl Sink.publish m.sink
  map : m'.map.isSome = true → m.map.isSome = true
  media : m'.map.isSome = true → Agrees m.media us m'.media

/-- The machine published some updates, and remembers what they report. -/
def Recalls (m m' : Machine) : Prop := ∃ us, Remembers us m m'

variable {m m' m'' : Machine}

theorem Recalls.trans (h : m.Recalls m') (h' : m'.Recalls m'') : m.Recalls m'' := by
  obtain ⟨us, h⟩ := h
  obtain ⟨vs, h'⟩ := h'
  refine ⟨us ++ vs, ?_, ?_, ?_⟩
  · rw [h'.sink, h.sink, List.foldl_append]
  · intro hmap
    exact h.map (h'.map hmap)
  · intro hmap
    exact (h.media (h'.map hmap)).trans (h'.media hmap)

/-- Nothing is published, and all that is remembered stays. -/
theorem recalls_of_same (hsink : m'.sink = m.sink) (hmap : m'.map = m.map) (hmedia : m'.media = m.media) :
    m.Recalls m' := by
  refine ⟨[], hsink, ?_, ?_⟩
  · intro hsome
    rw [← hmap]
    exact hsome
  · intro _
    rw [hmedia]
    exact .refl _

theorem Recalls.refl (m : Machine) : m.Recalls m := recalls_of_same rfl rfl rfl

/-- Nothing is published, and no device is attached any more. -/
theorem recalls_of_none (hsink : m'.sink = m.sink) (hmap : m'.map = none) : m.Recalls m' := by
  have hnever {P : Prop} (hsome : m'.map.isSome = true) : P := by
    rw [hmap] at hsome
    cases hsome
  exact ⟨[], hsink, hnever, hnever⟩

/-- An update about something else is published, and all that is remembered stays. -/
theorem recalls_of_publish {u : Update} (hu : ∀ d, Update.report? d u = none)
    (hsink : m'.sink = m.sink.publish u) (hmap : m'.map = m.map) (hmedia : m'.media = m.media) :
    m.Recalls m' := by
  refine ⟨[u], hsink, ?_, ?_⟩
  · intro hsome
    rw [← hmap]
    exact hsome
  · intro _ d present hknown
    rw [Update.reported?_singleton, hu d] at hknown
    rw [hmedia]
    exact hknown

/-! ## Pieces -/

theorem setRunState_recalls (m : Machine) (state : RunState) : m.Recalls (m.setRunState state) := by
  unfold setRunState
  split
  · exact .refl m
  · exact recalls_of_publish (u := .runState state) (fun _ => rfl) rfl rfl rfl

theorem setBootError_recalls (m : Machine) (error : Option String) : m.Recalls (m.setBootError error) := by
  unfold setBootError
  split
  · exact .refl m
  · exact recalls_of_publish (u := .bootError error) (fun _ => rfl) rfl rfl rfl

theorem setBusState_recalls (m : Machine) (state : BusState) : m.Recalls (m.setBusState state) := by
  unfold setBusState
  split
  · exact .refl m
  · exact recalls_of_publish (u := .busState state) (fun _ => rfl) rfl rfl rfl

theorem settle_recalls (m : Machine) (error : Option String) (state : RunState) :
    m.Recalls ((m.setBootError error).setRunState state) :=
  (m.setBootError_recalls error).trans (setRunState_recalls _ state)

theorem flushTerminal_recalls (m : Machine) : m.Recalls m.flushTerminal := by
  unfold flushTerminal
  split
  · exact .refl m
  · next chunk terminal _ =>
    exact recalls_of_publish (u := .terminalOutput chunk) (fun _ => rfl) rfl rfl rfl

theorem resetTerminal_recalls (m : Machine) : m.Recalls m.resetTerminal :=
  recalls_of_publish (u := .terminalReset) (fun _ => rfl) rfl rfl rfl

theorem releaseDevices_sink (m : Machine) (hw : Hardware) : (m.releaseDevices hw).1.sink = m.sink := by
  unfold releaseDevices
  split <;> rfl

theorem releaseDevices_recalls (m : Machine) (hw : Hardware) : m.Recalls (m.releaseDevices hw).1 :=
  recalls_of_none (m.releaseDevices_sink hw) (m.releaseDevices_map hw)

theorem halt_recalls (m : Machine) (error : BootError) (hw : Hardware) :
    m.Recalls (m.halt error hw).1 := by
  have hcancel : m.Recalls (m.cancel hw).1 := recalls_of_same rfl rfl rfl
  have hrelease := hcancel.trans (releaseDevices_recalls (m.cancel hw).1 (m.cancel hw).2)
  have hresume : ((m.cancel hw).1.releaseDevices (m.cancel hw).2).1.Recalls
      { ((m.cancel hw).1.releaseDevices (m.cancel hw).2).1 with resume := false } :=
    recalls_of_same rfl rfl rfl
  exact (hrelease.trans hresume).trans (settle_recalls _ _ _)

theorem stop_recalls (m : Machine) (hw : Hardware) : m.Recalls (m.stop hw).1 := by
  unfold stop
  split
  · have hstopping := m.setRunState_recalls .stopping
    generalize m.setRunState .stopping = m₁ at hstopping
    have hcancel : m₁.Recalls (m₁.cancel hw).1 := recalls_of_same rfl rfl rfl
    have hrelease := hcancel.trans (releaseDevices_recalls (m₁.cancel hw).1 (m₁.cancel hw).2)
    have hresume : ((m₁.cancel hw).1.releaseDevices (m₁.cancel hw).2).1.Recalls
        { ((m₁.cancel hw).1.releaseDevices (m₁.cancel hw).2).1 with resume := false } :=
      recalls_of_same rfl rfl rfl
    have hreset := hresume.trans (resetTerminal_recalls _)
    exact ((hstopping.trans hrelease).trans hreset).trans (setRunState_recalls _ .stopped)
  · exact .refl m

theorem clear_recalls (m : Machine) (hw : Hardware) : m.Recalls (m.clear hw).1 := by
  have hquiesce : m.Recalls (m.quiesce hw).1 := recalls_of_same rfl rfl rfl
  exact hquiesce.trans (releaseDevices_recalls (m.quiesce hw).1 (m.quiesce hw).2)

/-- A start that does not load. -/
theorem start_recalls {m : Machine} {hw : Hardware} (h : m.startLoad? hw = none) :
    m.Recalls (m.start hw).2.1 := by
  rw [start_of_none h]
  dsimp only
  split
  · have hresume : m.Recalls { m with resume := false } := recalls_of_same rfl rfl rfl
    exact hresume.trans (setRunState_recalls _ .loading)
  · exact .refl m

/-! ## Ticks -/

theorem observe_recalls (m : Machine) (s : Site) : m.Recalls (m.observe s).1 := by
  have hcontroller : m.Recalls { m with controller := (m.controller.poll s).1 } :=
    recalls_of_same rfl rfl rfl
  exact hcontroller.trans (setBusState_recalls _ _)

theorem absorbChanges_recalls {m : Machine} {hw : Hardware} (h : m.absorbLoad? hw = none) :
    m.Recalls (m.absorbChanges hw).1 := by
  have htaken : m.Recalls { m with controller := m.controller.takeChanges.2 } :=
    recalls_of_same rfl rfl rfl
  rw [absorbChanges_of_none h]
  dsimp only
  split
  · exact htaken.trans (clear_recalls _ hw)
  · exact htaken

theorem drift_recalls (m : Machine) (slices : Option Nat) (hw : Hardware) :
    m.Recalls (m.drift slices hw).1 :=
  drift_cases (P := fun p => m.Recalls p.1) (.refl m) (fun _ => recalls_of_same rfl rfl rfl) slices

theorem grantAtOnce_recalls (m : Machine) (energy : EnergySource) : m.Recalls (m.grantAtOnce energy).1 := by
  unfold grantAtOnce
  split
  · exact .refl m
  · dsimp only
    split
    · exact .refl m
    · exact recalls_of_same rfl rfl rfl

theorem grantTick_recalls (m : Machine) (energy : EnergySource) (hw : Hardware) :
    m.Recalls (m.grantTick energy hw).1 := by
  rw [grantTick_eq]
  exact (m.drift_recalls _ hw).trans (grantAtOnce_recalls _ energy)

theorem step_recalls (m : Machine) (energy : EnergySource) (hw : Hardware) :
    m.Recalls (m.step energy hw).1 := by
  unfold step
  split
  · next fault worker _ =>
    have htaken : m.Recalls { m with worker } := recalls_of_same rfl rfl rfl
    exact htaken.trans (halt_recalls _ _ hw)
  · exact m.grantTick_recalls energy hw

theorem proceed_recalls {m : Machine} {hw : Hardware} (h : m.proceedLoad? hw = none)
    (energy : EnergySource) : m.Recalls (m.proceed energy hw).1 := by
  rcases proceed_of_none h energy with heq | ⟨-, -, heq⟩
  · rw [heq]
    exact .refl m
  · rw [heq]
    exact m.step_recalls energy hw

theorem foldl_publish_sink (us : List Update) (m : Machine) :
    (us.foldl publish m).sink = us.foldl Sink.publish m.sink := by
  induction us generalizing m with
  | nil => rfl
  | cons u us ih => exact ih (m.publish u)

theorem foldl_publish_media (us : List Update) (m : Machine) : (us.foldl publish m).media = m.media := by
  induction us generalizing m with
  | nil => rfl
  | cons u us ih => exact ih (m.publish u)

theorem publishMedia_recalls (m : Machine) (hw : Hardware) : m.Recalls (m.publishMedia hw) := by
  have hmap := (publishMedia_steady m hw).map
  unfold publishMedia at hmap ⊢
  cases h : m.map with
  | none => exact .refl m
  | some map =>
    rw [h] at hmap
    dsimp only at hmap ⊢
    refine ⟨(map.mappings.foldl (lookAtMedium hw) (m.media, [])).2, ?_, ?_, ?_⟩
    · exact foldl_publish_sink _ _
    · intro _
      rw [h]
      rfl
    · intro _
      rw [foldl_publish_media]
      exact foldl_lookAtMedium_agrees map.mappings (.refl m.media)

/-- At the end of a tick the media of the attached devices are remembered as they are. -/
theorem publishMedia_get? {m : Machine} {map : DeviceMap} (hmap : m.map = some map)
    (hnodup : (map.mappings.map fun mapping => mapping.device.id).Nodup) {mapping : Mapping}
    (hmem : mapping ∈ map.mappings) {storage : Device.Storage}
    (hstorage : (hw.device mapping.device.handle).storage? = some storage) :
    (m.publishMedia hw).media.get? mapping.device.id = some storage.mediaPresent := by
  unfold publishMedia
  rw [hmap]
  dsimp only
  rw [foldl_publish_media]
  exact foldl_lookAtMedium_get? hnodup hmem hstorage

/-- A tick that does not load. -/
theorem tick_recalls {m : Machine} {s : Site} (h : m.tickLoads s = []) (energy : EnergySource) :
    m.Recalls (m.tick energy s).1 := by
  have hobserve := m.observe_recalls s
  unfold tickLoads at h
  rw [tick_eq]
  generalize m.observe s = p at h hobserve
  obtain ⟨m₁, s₁⟩ := p
  dsimp only at h hobserve ⊢
  obtain ⟨habsorb, hproceed⟩ := List.append_eq_nil_iff.1 h
  have habsorbed := hobserve.trans (absorbChanges_recalls (Option.toList_eq_nil_iff.1 habsorb))
  generalize m₁.absorbChanges s₁.hardware = p at hproceed habsorbed
  obtain ⟨m₂, hw₂⟩ := p
  have hproceeded := habsorbed.trans (proceed_recalls (Option.toList_eq_nil_iff.1 hproceed) energy)
  dsimp only
  generalize m₂.proceed energy hw₂ = p at hproceeded
  obtain ⟨m₃, energy₃, hw₃⟩ := p
  exact (hproceeded.trans m₃.flushTerminal_recalls).trans (publishMedia_recalls _ hw₃)

theorem tick_media {m : Machine} {energy : EnergySource} {s : Site} {map : DeviceMap}
    (hmap : (m.tick energy s).1.map = some map)
    (hnodup : (map.mappings.map fun mapping => mapping.device.id).Nodup) {mapping : Mapping}
    (hmem : mapping ∈ map.mappings) {storage : Device.Storage}
    (hstorage : ((m.tick energy s).2.2.hardware.device mapping.device.handle).storage? = some storage) :
    (m.tick energy s).1.media.get? mapping.device.id = some storage.mediaPresent := by
  rw [tick_eq] at hmap hstorage ⊢
  dsimp only at hmap hstorage ⊢
  apply publishMedia_get? _ hnodup hmem hstorage
  rw [← (publishMedia_steady _ _).map]
  exact hmap

/-! ## Suspension and records -/

theorem suspend_recalls (m : Machine) (s : Site) : m.Recalls (m.suspend s).1 := by
  have hsink := releaseDevices_sink (m.shutdown s.hardware).1
    ((m.shutdown s.hardware).1.noteCall .releaseScratch (m.shutdown s.hardware).2)
  apply recalls_of_none _ (m.suspend_map s)
  unfold suspend
  dsimp only
  split <;> exact hsink

theorem finalize_recalls (m : Machine) (s : Site) : m.Recalls (m.finalize s).1 := by
  have hsuspend := m.suspend_recalls s
  have hmap : (m.suspend s).1.map = none := m.suspend_map s
  unfold finalize
  generalize m.suspend s = p at hsuspend hmap
  obtain ⟨m₁, s₁⟩ := p
  have hcleared : m₁.Recalls { m₁ with
      emulator := m₁.emulator.reset, pendingStates := .empty, media := .empty, resume := false } :=
    recalls_of_none rfl hmap
  exact ((hsuspend.trans hcleared).trans (resetTerminal_recalls _)).trans (settle_recalls _ none .stopped)

/-- A record is taken over without a word. -/
theorem loadRecord_sink (m : Machine) (r : Record) (hw : Hardware) : (m.loadRecord r hw).1.sink = m.sink := by
  have hrelease : ((m.cancel hw).1.releaseDevices (m.cancel hw).2).1.sink = m.sink :=
    releaseDevices_sink (m.cancel hw).1 (m.cancel hw).2
  unfold loadRecord
  generalize m.cancel hw = p at hrelease
  obtain ⟨m₁, hw₁⟩ := p
  dsimp only at hrelease ⊢
  generalize m₁.releaseDevices hw₁ = p at hrelease
  obtain ⟨m₂, hw₂⟩ := p
  dsimp only at hrelease ⊢
  unfold restoreEmulator
  split
  · exact hrelease
  · split
    · next he =>
      split at he
      · cases he
        exact hrelease
      · cases he
    · next he =>
      split at he
      · cases he
      · cases he
        unfold rejectEmulation
        dsimp only
        split <;> exact hrelease

end Machine

namespace Station

open Machine (Recalls recalls_of_same)

theorem readMemory_machine (m : Machine) (address count : Nat) (hw : Hardware) :
    (readMemory m address count hw).2.1 = m := by
  unfold readMemory
  split <;> rfl

theorem writeMemory_machine (m : Machine) (address : Nat) (data : Bytes) (hw : Hardware) :
    (writeMemory m address data hw).2.1 = m := by
  unfold writeMemory
  split <;> rfl

/-- An operation that does not load remembers what it reports. -/
theorem step_recalls {station : Station} {s : Site} {op : MachineOp} (hload : station.loads s op = [])
    (hdrain : op ≠ .drainUpdates) : station.machine.Recalls (station.step s op).2.1.machine := by
  cases op with
  | start => exact Machine.start_recalls (Option.toList_eq_nil_iff.1 hload)
  | stop => exact station.machine.stop_recalls s.hardware
  | tick => exact Machine.tick_recalls hload station.energy
  | suspend => exact station.machine.suspend_recalls s
  | finalize => exact station.machine.finalize_recalls s
  | readMemory address count =>
    exact recalls_of_same (congrArg Machine.sink (readMemory_machine station.machine address count _))
      (congrArg Machine.map (readMemory_machine station.machine address count _))
      (congrArg Machine.media (readMemory_machine station.machine address count _))
  | writeMemory address data =>
    exact recalls_of_same (congrArg Machine.sink (writeMemory_machine station.machine address data _))
      (congrArg Machine.map (writeMemory_machine station.machine address data _))
      (congrArg Machine.media (writeMemory_machine station.machine address data _))
  | loadRecord r =>
    exact Machine.recalls_of_none (station.machine.loadRecord_sink r s.hardware)
      (station.machine.loadRecord_map r s.hardware)
  | drainUpdates => exact absurd rfl hdrain
  | advance slices => exact recalls_of_same rfl rfl rfl
  | quiesce => exact recalls_of_same rfl rfl rfl
  | saveRecord => exact recalls_of_same rfl rfl rfl
  | scheduleScan => exact recalls_of_same rfl rfl rfl
  | recharge amount simulate => exact recalls_of_same rfl rfl rfl
  | terminal call => exact recalls_of_same rfl rfl rfl
  | script change => exact recalls_of_same rfl rfl rfl
  | platform platform => exact recalls_of_same rfl rfl rfl

/-- A machine with a queue publishes to a queue ever after. -/
theorem step_queue {station : Station} {waiting : List Update} (h : station.machine.sink = .queue waiting)
    (s : Site) (op : MachineOp) :
    ∃ waiting', (station.step s op).2.1.machine.sink = .queue waiting' := by
  have hspeaks {m' : Machine} (hs : station.machine.Speaks m') : ∃ waiting', m'.sink = .queue waiting' := by
    obtain ⟨us, -, hus⟩ := hs
    rw [h, Sink.foldl_publish_queue] at hus
    exact ⟨_, hus⟩
  cases op with
  | loadRecord r => exact ⟨waiting, (station.machine.loadRecord_sink r s.hardware).trans h⟩
  | drainUpdates =>
    refine ⟨[], ?_⟩
    show station.machine.sink.drain.2 = _
    rw [h]
    rfl
  | terminal call => exact ⟨waiting, h⟩
  | _ => exact hspeaks (station.step_speaks s rfl (by simp))

end Station

end DeviceBus
