import DeviceBus.Proofs.Machine.Rest
import DeviceBus.Proofs.Machine.Terms

/-!
# Loading again

A load is determined by the bus and by what the devices ask for.  The map that a load left says which
range and how many interrupt lines each device was given.  Where the devices still ask for that much
(`Mapping.Suits`), and no device refuses, a load of the same bus gives each device the range and the
lines it had, in the same order, and ends with the same map (`Machine.attachEach_again`).

Every map there is was left by a load of devices that are where those of the bus are now, and no
restored state waits for any of them (`Station.step_replays`).
-/

namespace DeviceBus

/-! ## What a device asks for -/

/-- A device has the size that a mapping of it says, asks for as many lines, and does not refuse. -/
structure Mapping.Suits (mapping : Mapping) (hw : Hardware) : Prop where
  size : (hw.device mapping.device.handle).size = mapping.size
  lines : (hw.device mapping.device.handle).lineCount = mapping.lines.length
  willing : (hw.device mapping.device.handle).refusal? = none

instance (mapping : Mapping) (hw : Hardware) : Decidable (mapping.Suits hw) :=
  decidable_of_iff ((hw.device mapping.device.handle).size = mapping.size ∧
      (hw.device mapping.device.handle).lineCount = mapping.lines.length ∧
      (hw.device mapping.device.handle).refusal? = none)
    ⟨fun h => ⟨h.1, h.2.1, h.2.2⟩, fun h => ⟨h.size, h.lines, h.willing⟩⟩

/-- A mapping suits a device for as long as its terms stay. -/
theorem Mapping.Suits.congr {mapping : Mapping} {hw hw' : Hardware} (h : mapping.Suits hw)
    (hterms : hw'.termsAt = hw.termsAt) : mapping.Suits hw' := by
  have hdevice := congrFun hterms mapping.device.handle
  exact ⟨(congrArg Device.Terms.size hdevice).trans h.size, (congrArg Device.Terms.lines hdevice).trans h.lines,
    (congrArg Device.Terms.refusal hdevice).trans h.willing⟩

theorem Mapping.Suits.of_devices {mapping : Mapping} {hw hw' : Hardware} (h : mapping.Suits hw)
    (hdevices : hw'.devices = hw.devices) : mapping.Suits hw' :=
  h.congr (Hardware.termsAt_of_devices hdevices)

/-- What one device is attached to does not matter to another. -/
theorem Mapping.Suits.attach {mapping : Mapping} {hw : Hardware} (h : mapping.Suits hw) (r : Handle)
    (machine : MachineId) (base : Option Nat) (lines : List Nat) (idle : Bool) :
    mapping.Suits (hw.attach r machine base lines idle).2 :=
  h.congr (hw.attach_termsAt r machine base lines idle)

/-! ## Attaching again -/

/-- The device of an entry and its address, which is all that a load looks at. -/
def BusDevice.spot (d : BusDevice) : DeviceRef × Option Nat := (d.device, d.address)

/-- The call by which a machine attaches the device of a mapping. -/
def Mapping.attachment (machine : MachineId) (idle : Bool) (mapping : Mapping) : Event :=
  .device mapping.device.handle (.attach machine mapping.base mapping.lines idle)

namespace AttachContext

variable {ctx ctx' : AttachContext} {entry entry' : BusDevice} {hw hw' : Hardware}

theorem place_again {size : Nat} {base : Option Nat} (h : ctx.place entry size = .ok base)
    (haddress : entry'.address = entry.address) : ctx.place entry' size = .ok base := by
  unfold place at h ⊢
  rw [haddress]
  cases haddress : entry.address with
  | none =>
    rw [haddress] at h
    exact h
  | some address =>
    rw [haddress] at h
    simp only [reserve] at h ⊢
    split at h
    · cases h
    · next hfits =>
      rw [if_neg hfits]
      exact h

theorem wire_again {d d' : Device} {lines : List Nat} (h : ctx.wire entry d = .ok lines)
    (hlines : d'.lineCount = lines.length) : ctx.wire entry' d' = .ok lines := by
  -- the lines are the first of those that are free
  have htaken : lines = ctx.freeLines.take lines.length ∧ lines.length ≤ ctx.freeLines.length := by
    unfold wire at h
    split at h
    · cases h
      exact ⟨rfl, Nat.zero_le _⟩
    · next requested _ _ =>
      split at h
      · cases h
      · next hleft =>
        cases h
        rw [List.length_take, Nat.min_eq_left (Nat.le_of_not_lt hleft)]
        exact ⟨rfl, Nat.le_of_not_lt hleft⟩
  unfold Device.lineCount at hlines
  unfold wire
  cases hasks : d'.interrupt? with
  | none =>
    rw [hasks] at hlines
    rw [List.length_eq_zero_iff.1 hlines.symm]
  | some asks =>
    rw [hasks] at hlines
    replace hlines : asks.1 = lines.length := hlines
    dsimp only
    rw [hlines, if_neg (Nat.not_lt.2 htaken.2), ← htaken.1]

/-- A device that is attached gets a mapping, and it can be attached under that mapping again. -/
theorem attach_again {machine : MachineId} {idle : Bool}
    (h : ctx.attach machine idle entry hw = (.ok ctx', hw')) :
    ∃ mapping, mapping.device = entry.device ∧ ctx'.mappings = ctx.mappings ++ [mapping] ∧
      ∀ (machine' : MachineId) (idle' : Bool) {entry' : BusDevice} {hw₁ : Hardware},
        entry'.spot = entry.spot → mapping.Suits hw₁ →
          ctx.attach machine' idle' entry' hw₁ = (.ok ctx',
            (hw₁.attach mapping.device.handle machine' mapping.base mapping.lines idle').2) ∧
          (hw₁.attach mapping.device.handle machine' mapping.base mapping.lines idle').2.journal =
            mapping.attachment machine' idle' :: hw₁.journal := by
  unfold attach at h
  dsimp only at h
  split at h
  · cases h
  · next base hplace =>
    split at h
    · cases h
    · next lines hwire =>
      split at h
      · cases h
      · cases h
        refine ⟨⟨entry.device, base, (hw.device entry.device.handle).size, lines⟩, rfl, rfl, ?_⟩
        intro machine' idle' entry' hw₁ hspot hsuits
        have hdevice : entry'.device = entry.device := congrArg Prod.fst hspot
        have hsize : (hw₁.device entry'.device.handle).size = (hw.device entry.device.handle).size :=
          hdevice ▸ hsuits.size
        have hlines : (hw₁.device entry'.device.handle).lineCount = lines.length := hdevice ▸ hsuits.lines
        have hattach : hw₁.attach entry.device.handle machine' base lines idle' =
            (.ok (), (hw₁.record (.device entry.device.handle (.attach machine' base lines idle'))).update
              entry.device.handle ((hw₁.device entry.device.handle).attach machine')) := by
          unfold Hardware.attach
          rw [show (hw₁.device entry.device.handle).refusal? = none from hsuits.willing]
        refine ⟨?_, ?_⟩
        · unfold attach
          dsimp only
          rw [hsize, place_again hplace (congrArg Prod.snd hspot), wire_again hwire hlines, hdevice]
          dsimp only
          rw [hattach]
        · dsimp only
          rw [hattach]
          rfl

/-- All ranges end where there still are addresses. -/
structure Fits (ctx : AttachContext) : Prop where
  window : ctx.windowEnd ≤ Scan.lastAddress
  ranges : ∀ mapping ∈ ctx.mappings, ∀ base, mapping.base = some base →
    base + mapping.size ≤ Scan.lastAddress

theorem new_fits (config : Config) : (new config).Fits :=
  ⟨Nat.min_le_right _ _, fun _ hmem => nomatch hmem⟩

theorem place_fits {size : Nat} {base : Option Nat} (hfits : ctx.Fits) (h : ctx.place entry size = .ok base)
    (start : Nat) (hstart : base = some start) : start + size ≤ Scan.lastAddress := by
  subst hstart
  unfold place at h
  split at h
  · cases h
  · simp only [reserve] at h
    split at h
    · cases h
    · next hroom =>
      cases h
      exact Nat.le_trans (Nat.le_of_not_lt (not_or.1 hroom).1) hfits.window

theorem attach_fits {machine : MachineId} {idle : Bool} (hfits : ctx.Fits)
    (h : ctx.attach machine idle entry hw = (.ok ctx', hw')) : ctx'.Fits := by
  unfold attach at h
  dsimp only at h
  split at h
  · cases h
  · next base hplace =>
    split at h
    · cases h
    · split at h
      · cases h
      · cases h
        refine ⟨hfits.window, fun mapping hmem => ?_⟩
        rcases List.mem_append.1 hmem with hmem | hmem
        · exact hfits.ranges mapping hmem
        · rw [List.mem_singleton.1 hmem]
          exact place_fits hfits hplace

end AttachContext

namespace Machine

theorem attachEach_fits {entries : List BusDevice} {ctx ctx' : AttachContext} {m : Machine}
    {b : Machine × Hardware} {hw : Hardware} (hfits : ctx.Fits)
    (h : attachEach entries ctx m hw = (.ok ctx', b)) : ctx'.Fits := by
  induction entries generalizing ctx m hw with
  | nil =>
    cases h
    exact hfits
  | cons entry rest ih =>
    unfold attachEach at h
    split at h
    · cases h
    · split at h
      · cases h
      · next ctx₁ _ hattach => exact ih (AttachContext.attach_fits hfits hattach) h

/-- Devices that were attached can be attached again under the mappings they got, if no restored state
waits for one of them. -/
theorem attachEach_again {entries entries' : List BusDevice} {ctx ctx' : AttachContext} {a m : Machine}
    {b : Machine × Hardware} {hw : Hardware} (h : attachEach entries ctx a hw = (.ok ctx', b))
    (hspots : entries'.map BusDevice.spot = entries.map BusDevice.spot)
    (hnone : ∀ entry ∈ entries', m.pendingStates.get? entry.id = none) :
    ∃ new, ctx'.mappings = ctx.mappings ++ new ∧ new.map Mapping.device = entries.map BusDevice.device ∧
      ∀ hw₁, (∀ mapping ∈ new, mapping.Suits hw₁) →
        ∃ hw₂, attachEach entries' ctx m hw₁ = (.ok ctx', m, hw₂) ∧
          hw₂.journal = (new.map (Mapping.attachment m.id m.worker.isIdle)).reverse ++ hw₁.journal := by
  induction entries generalizing entries' ctx a hw with
  | nil =>
    cases h
    rw [List.map_nil, List.map_eq_nil_iff] at hspots
    subst hspots
    exact ⟨[], (List.append_nil _).symm, rfl, fun hw₁ _ => ⟨hw₁, rfl, rfl⟩⟩
  | cons entry rest ih =>
    obtain ⟨entry', rest', rfl, hspot, hspots⟩ := List.map_eq_cons_iff.1 hspots
    unfold attachEach at h
    split at h
    · cases h
    · split at h
      · cases h
      · next ctx₁ _ hattach =>
        obtain ⟨mapping, hdevice, hmappings, hagain⟩ := AttachContext.attach_again hattach
        obtain ⟨new, hnew, hdevices, hrest⟩ :=
          ih h hspots fun d hd => hnone d (List.mem_cons_of_mem _ hd)
        refine ⟨mapping :: new, ?_, ?_, fun hw₁ hsuits => ?_⟩
        · rw [hnew, hmappings, List.append_assoc]
          rfl
        · rw [List.map_cons, List.map_cons, hdevice, hdevices]
        · obtain ⟨hattach, hjournal⟩ := hagain m.id m.worker.isIdle hspot
            (hsuits mapping List.mem_cons_self)
          obtain ⟨hw₂, hloop, hcalls⟩ := hrest _ fun mapping' hmem =>
            (hsuits mapping' (List.mem_cons_of_mem _ hmem)).attach mapping.device.handle m.id mapping.base
              mapping.lines m.worker.isIdle
          have hrestore : m.restoreDevice entry' hw₁ = (.ok (), m, hw₁) := by
            unfold restoreDevice
            rw [hnone entry' List.mem_cons_self]
          refine ⟨hw₂, ?_, ?_⟩
          · unfold attachEach
            rw [hrestore]
            dsimp only
            rw [hattach]
            exact hloop
          · rw [hcalls, hjournal, List.map_cons, List.reverse_cons, List.append_assoc]
            rfl

/-! ## What a load leaves -/

variable {m m' : Machine} {hw hw' : Hardware}

/-- Where no restored state waits none comes to wait. -/
theorem Moves.absent {bus : List BusDevice} {grants : Bool} {a b : Machine × Hardware}
    (h : Moves bus grants a b) {id : DeviceId} (hnone : a.1.pendingStates.get? id = none) :
    b.1.pendingStates.get? id = none := by
  induction h with
  | refl => exact hnone
  | tail _ hmove ih =>
    cases hmove with
    | other hw hworker hstates => exact hstates ▸ ih
    | @hand m entry state hw hentry hstate =>
      show (m.pendingStates.erase entry.id).get? id = none
      rw [Table.get?_erase]
      split
      · rfl
      · exact ih
    | _ => exact ih

/-- A device that is attached has taken the restored state that waited for it. -/
theorem attachEach_absent {entries : List BusDevice} {ctx ctx' : AttachContext}
    (h : attachEach entries ctx m hw = (.ok ctx', m', hw')) {entry : BusDevice} (hentry : entry ∈ entries) :
    m'.pendingStates.get? entry.id = none := by
  induction entries generalizing ctx m hw with
  | nil => cases hentry
  | cons first rest ih =>
    unfold attachEach at h
    split at h
    · cases h
    · next m₁ hw₁ hrestore =>
      split at h
      · cases h
      · next ctx₁ hw₂ _ =>
        rcases List.mem_cons.1 hentry with rfl | hentry
        · have htaken : m₁.pendingStates.get? entry.id = none := by
            unfold restoreDevice at hrestore
            split at hrestore
            · next hnone =>
              cases hrestore
              exact hnone
            · dsimp only at hrestore
              split at hrestore
              · cases hrestore
                exact Table.get?_erase_self _ _
              · cases hrestore
          have hrest : Moves rest false (m₁, hw₂) (attachEach rest ctx₁ m₁ hw₂).2 :=
            attachEach_moves (fun _ hmem => hmem) ctx₁ m₁ hw₂
          rw [h] at hrest
          exact hrest.absent htaken
        · exact ih h hentry

/-- The map is what attaching the devices leads to. -/
def Replays (m : Machine) (devices : List BusDevice) (map : DeviceMap) : Prop :=
  (∃ a hw ctx b, attachEach devices (.new m.config) a hw = (.ok ctx, b) ∧ map = ctx.finish) ∧
    ∀ d ∈ devices, m.pendingStates.get? d.id = none

/-- The map is what attaching the devices of the bus leads to. -/
def ReplaysBus (p : Machine × Hardware) (map : DeviceMap) : Prop :=
  p.1.Replays p.1.controller.devices map

theorem load_replays {map : DeviceMap} (h : (m.load hw).1.map = some map) : ReplaysBus (m.load hw) map := by
  have hacts := m.load_acts hw
  have hquiesce := ({ m with resume := false } : Machine).quiesce_acts hw
  have hconfig : (m.load hw).1.config = m.config := hacts.relays.config
  have hcontroller : (m.load hw).1.controller = m.controller := hacts.relays.controller
  unfold ReplaysBus Replays
  rw [hconfig, hcontroller]
  clear hacts hconfig hcontroller
  unfold load at h ⊢
  generalize ({ m with resume := false } : Machine).quiesce hw = p at h hquiesce ⊢
  obtain ⟨m₁, hw₁⟩ := p
  have hconfig : m₁.config = m.config := hquiesce.relays.config
  have hcontroller : m₁.controller = m.controller := hquiesce.relays.controller
  dsimp only at h ⊢
  split at h
  · next map' m₂ hw₂ hall =>
    obtain rfl : map' = map := enter_map h
    obtain ⟨ctx, m₃, hw₃, hloop, hmap, hinstalled⟩ := attachAll_ok hall
    rw [hconfig, hcontroller] at hloop
    have hinstall : Moves [] false (m₃, hw₃) (m₃.installDevices m.resume map' hw₃).2 :=
      m₃.installDevices_moves m.resume map' hw₃
    rw [hinstalled] at hinstall
    have hend : Moves [] false (m₃, hw₃) (m₂.enter m.resume map' hw₂) :=
      hinstall.trans (m₂.enter_moves m.resume map' hw₂)
    exact ⟨⟨m₁, hw₁, ctx, _, hloop, hmap⟩, fun d hd => hend.absent (attachEach_absent hloop hd)⟩
  · next e m₂ hw₂ _ =>
    rw [(m₂.halt_outcome e hw₂).2.2] at h
    cases h

/-- The map lists what was attached. -/
theorem Replays.lists {devices : List BusDevice} {map : DeviceMap} (h : m.Replays devices map) :
    map.mappings.map Mapping.device = devices.map BusDevice.device := by
  obtain ⟨⟨a, hw, ctx, b, hloop, rfl⟩, -⟩ := h
  have hplaces := congrArg (List.map Prod.fst) (attachEach_place hloop).2
  rw [List.map_append, List.map_map, List.map_map, List.map_map] at hplaces
  exact hplaces

/-- The devices that a load attached end where there still are addresses, if they have the sizes they had
then. -/
theorem Replays.room {devices : List BusDevice} {map : DeviceMap} (h : m.Replays devices map)
    (hsuits : ∀ mapping ∈ map.mappings, mapping.Suits hw) {d : BusDevice} (hd : d ∈ devices) {address : Nat}
    (haddress : d.address = some address) :
    address + hw.sizeAt d.device.handle ≤ Scan.lastAddress := by
  obtain ⟨⟨a, hw₀, ctx, b, hloop, rfl⟩, -⟩ := h
  obtain ⟨-, hplaces⟩ := attachEach_place hloop
  obtain ⟨mapping, hmapping, hplace⟩ := List.mem_map.1 (hplaces ▸ List.mem_map_of_mem hd :
    d.place (AttachContext.new m.config).windowStart hw₀.sizeAt ∈ ctx.mappings.map Mapping.place)
  have hdevice : mapping.device = d.device := congrArg Prod.fst hplace
  have hbase : mapping.base = some ((AttachContext.new m.config).windowStart + address) := by
    have hbase : mapping.base = d.address.map _ := congrArg (fun place => place.2.1) hplace
    rw [hbase, haddress]
    rfl
  have hfits := (attachEach_fits (AttachContext.new_fits m.config) hloop).ranges mapping hmapping _ hbase
  rw [← (hsuits mapping hmapping).size, hdevice] at hfits
  exact Nat.le_trans (Nat.add_le_add_right (Nat.le_add_left _ _) _) hfits

theorem Replays.of_moves {bus devices : List BusDevice} {grants : Bool} {map : DeviceMap}
    (h : m.Replays devices map) (hmoves : Moves bus grants (m, hw) (m', hw'))
    (hconfig : m'.config = m.config) : m'.Replays devices map :=
  ⟨hconfig ▸ h.1, fun d hd => hmoves.absent (h.2 d hd)⟩

theorem replaysBus_lasts : Lasts ReplaysBus := by
  refine ⟨load_replays, fun {m m'} {hw hw'} {map} _ _ hmoves hconfig hdevices h => ?_⟩
  unfold ReplaysBus at h ⊢
  dsimp only at h ⊢
  rw [hdevices]
  exact h.of_moves hmoves hconfig

end Machine

/-! ## Resuming -/

namespace Hardware

/-- The calls of loads that were made between two states of the devices, in their order. -/
def Loads (calls : List Event) (hw hw' : Hardware) : Prop :=
  ∃ es, hw'.journal = es ++ hw.journal ∧ es.reverse.filter (·.loader?.isSome) = calls

variable {calls calls' : List Event} {hw hw' hw'' : Hardware}

theorem Adds.loads (h : hw.Adds Event.Outside hw') : Loads [] hw hw' := by
  obtain ⟨es, hes, hnone⟩ := h
  refine ⟨es, hes, List.filter_eq_nil_iff.2 fun e he => ?_⟩
  rw [show e.loader? = none from hnone e (List.mem_reverse.1 he)]
  exact Bool.false_ne_true

theorem Loads.trans (h : Loads calls hw hw') (h' : Loads calls' hw' hw'') :
    Loads (calls ++ calls') hw hw'' := by
  obtain ⟨es, hes, rfl⟩ := h
  obtain ⟨es', hes', rfl⟩ := h'
  exact ⟨es' ++ es, by rw [hes', hes, List.append_assoc], by rw [List.reverse_append, List.filter_append]⟩

theorem Loads.one {e : Event} (h : hw'.journal = e :: hw.journal) (he : e.loader?.isSome = true) :
    Loads [e] hw hw' :=
  ⟨[e], h, List.filter_eq_self.2 fun _ hmem => List.mem_singleton.1 hmem ▸ he⟩

end Hardware

namespace Machine

/-- The calls of a load that attaches the devices of a map and gives them to the emulator. -/
def loadOf (id : MachineId) (map : DeviceMap) (accepted : Bool) : List Event :=
  map.mappings.map (Mapping.attachment id true) ++
    [.emulator id (.install (map.mappings.map (·.device.id)) accepted)]

/-- How such a load ends: the machine runs with the map, unless the platform refuses its worker a thread; or
its emulator refused the devices. -/
def Ends (map : DeviceMap) (m : Machine) : Bool → Prop
  | true => m.runState = .running ∧ m.map = some map ∧ m.bootError = none ∨
      ∃ reason, m.platform.refusal = some reason ∧ m.runState = .error ∧ m.map = none ∧
        m.bootError = some (BootError.io reason).message
  | false => m.runState = .error ∧ m.map = none ∧
      ∃ fault, m.bootError = some (BootError.emulation fault).message

variable {m : Machine} {hw : Hardware}

theorem halt_platform (m : Machine) (error : BootError) (hw : Hardware) :
    (m.halt error hw).1.platform = m.platform := by
  have hrelease : ((m.cancel hw).1.releaseDevices (m.cancel hw).2).1.platform = m.platform := by
    unfold releaseDevices
    split <;> rfl
  exact (settle_sameInside _ _ _).platform.trans hrelease

/-- Devices that the emulator took stay attached, unless there is no thread. -/
theorem enter_ends (m : Machine) (keepState : Bool) (map : DeviceMap) (hw : Hardware) :
    Ends map (m.enter keepState map hw).1 true := by
  obtain ⟨_, worker, -, ⟨-, -, he⟩ | ⟨reason, -, hrefusal, he⟩⟩ := m.enter_cases keepState map hw <;> rw [he]
  · refine .inl ⟨setRunState_runState _ _, (settle_sameInside _ _ _).map, ?_⟩
    exact (setRunState_bootError _ _).trans (setBootError_bootError _ _)
  · obtain ⟨hrun, herror, hmap⟩ := halt_outcome { m with map := some map, media := .empty, worker }
      (.io reason) hw
    refine .inr ⟨reason, ?_, hrun, hmap, herror⟩
    rw [halt_platform]
    unfold threadRefusal? at hrefusal
    split at hrefusal
    · cases hrefusal
    · exact hrefusal

/-- Where the state of the emulator is kept, giving it the devices is one call, and the devices are
taken or the emulator says why not. -/
theorem installDevices_loads (m : Machine) (map : DeviceMap) (hw : Hardware) :
    ∃ accepted, Hardware.Loads [.emulator m.id (.install (map.mappings.map (·.device.id)) accepted)] hw
        (m.installDevices true map hw).2.2 ∧
      if accepted then (m.installDevices true map hw).1 = .ok map
      else ∃ fault, (m.installDevices true map hw).1 = .error (.emulation fault) := by
  have hchecked : hw.Adds Event.Outside (m.emulator.install map hw).2.2 :=
    m.emulator.install_adds (fun _ _ _ => rfl) (fun _ _ _ => rfl) map hw
  have hinstalled : Hardware.Loads
      [.emulator m.id (.install (map.mappings.map (·.device.id)) (m.emulator.install map hw).1.isOk)] hw
      (m.install map hw).2.2 := hchecked.loads.trans (.one rfl rfl)
  refine ⟨(m.emulator.install map hw).1.isOk, ?_⟩
  have hresult : (m.install map hw).1 = (m.emulator.install map hw).1 := rfl
  rw [← hresult] at hinstalled ⊢
  unfold installDevices
  dsimp only
  rw [if_pos rfl]
  dsimp only
  generalize m.install map hw = p at hinstalled
  obtain ⟨result, m', hw'⟩ := p
  cases result with
  | ok => exact ⟨hinstalled, rfl⟩
  | error fault =>
    have hreleased : hw'.Adds Event.Outside (suspendAll map.mappings hw') := suspendAll_adds fun _ => rfl
    exact ⟨hinstalled.trans hreleased.loads, fault, rfl⟩

/-- A load that keeps the state of the emulator, of devices that were attached under this map, attaches
them under it again. -/
theorem load_again {devices : List BusDevice} {map : DeviceMap} (hresume : m.resume = true)
    (hidle : m.worker.isIdle = true) (hreplays : m.Replays devices map)
    (hspots : m.controller.devices.map BusDevice.spot = devices.map BusDevice.spot)
    (hsuits : ∀ mapping ∈ map.mappings, mapping.Suits hw) :
    ∃ accepted, Hardware.Loads (loadOf m.id map accepted) hw (m.load hw).2 ∧
      Ends map (m.load hw).1 accepted := by
  obtain ⟨⟨a, hw₀, ctx, b, hloop, rfl⟩, hnone⟩ := hreplays
  have hwaits : ∀ d ∈ m.controller.devices, m.pendingStates.get? d.id = none := by
    intro d hd
    obtain ⟨d', hd', hspot⟩ := List.mem_map.1 (hspots ▸ List.mem_map_of_mem hd)
    rw [show d.id = d'.id from congrArg (fun spot => spot.1.id) hspot.symm]
    exact hnone d' hd'
  obtain ⟨new, hnew, -, hagain⟩ :=
    attachEach_again (m := { m with resume := false }) hloop hspots hwaits
  obtain rfl : ctx.mappings = new := hnew
  obtain ⟨hw₁, hattach, hjournal⟩ := hagain hw hsuits
  have hattached : Hardware.Loads (ctx.mappings.map (Mapping.attachment m.id true)) hw hw₁ := by
    refine ⟨_, hidle ▸ hjournal, ?_⟩
    rw [List.reverse_reverse, List.filter_eq_self]
    intro e he
    obtain ⟨mapping, -, rfl⟩ := List.mem_map.1 he
    rfl
  obtain ⟨accepted, hinstalled, hresult⟩ :=
    ({ m with resume := false } : Machine).installDevices_loads ctx.finish hw₁
  have hall : ({ m with resume := false } : Machine).attachAll true hw =
      ({ m with resume := false } : Machine).installDevices true ctx.finish hw₁ := by
    unfold attachAll
    dsimp only at hattach ⊢
    rw [hattach]
  have hquiesce := quiesce_of_isIdle (m := { m with resume := false }) hidle hw
  refine ⟨accepted, ?_⟩
  unfold load
  dsimp only
  rw [hquiesce, hresume]
  dsimp only
  rw [hall]
  generalize ({ m with resume := false } : Machine).installDevices true ctx.finish hw₁ = p
    at hinstalled hresult
  obtain ⟨result, m₂, hw₂⟩ := p
  have hloads := hattached.trans hinstalled
  cases accepted with
  | true =>
    obtain rfl : result = .ok ctx.finish := hresult
    exact ⟨List.append_nil (loadOf m.id ctx.finish true) ▸
      hloads.trans (m₂.enter_acts true ctx.finish hw₂).adds.loads, m₂.enter_ends true ctx.finish hw₂⟩
  | false =>
    obtain ⟨fault, rfl⟩ := hresult
    obtain ⟨hrun, herror, hmap⟩ := m₂.halt_outcome (.emulation fault) hw₂
    exact ⟨List.append_nil (loadOf m.id ctx.finish false) ▸
      hloads.trans (m₂.halt_acts (.emulation fault) hw₂).adds.loads, hrun, hmap, fault, herror⟩

end Machine

/-! ## Maps through a run -/

/-- A map stays what attaching the devices leads to, if the bus lists different names. -/
theorem Station.step_replays {station : Station} {s : Site} {op : MachineOp}
    (h : station.machine.MapsBy Machine.Replays)
    (hnodup : ((station.step s op).2.1.machine.controller.devices.map BusDevice.id).Nodup) :
    (station.step s op).2.1.machine.MapsBy Machine.Replays := by
  refine Station.step_mapsBy Machine.replaysBus_lasts h hnodup (fun map hmade => hmade)
    fun devices map hmap hreplays => ?_
  have hop : op.replacesStates = false := by
    cases op with
    | finalize =>
      rw [show (station.step s .finalize).2.1.machine.map = none from station.machine.finalize_map s] at hmap
      cases hmap
    | loadRecord r =>
      rw [show (station.step s (.loadRecord r)).2.1.machine.map = none from
        station.machine.loadRecord_map r s.hardware] at hmap
      cases hmap
    | _ => rfl
  exact hreplays.of_moves (station.step_moves s hop) (station.step_config s op)

end DeviceBus
