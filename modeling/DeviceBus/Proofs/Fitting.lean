import DeviceBus.Proofs.Addressing
import DeviceBus.Proofs.Attachment
import DeviceBus.Proofs.Handover
import DeviceBus.Proofs.Wiring

/-!
# Fitting into the window

A scan gives the devices of a bus one range behind the other, from zero on, and a load puts them behind the
start of the device window in the same order.  So every device comes to stand right behind those before it:

    next = the sizes of the devices before it
    room for a device of that size  ↔  start + next + size ≤ stop

If no device refuses and there are lines for all, a load takes one such step for each device, for as long as
that is so (`Loading.step`), and fails at the first device that ends behind the window (`Loading.conflict`).
Whether a bus that was scanned can be attached is a matter of the sum of the sizes alone
(`Machine.scanned_bus_fits_iff`), and no device is ever in the way of another.
-/

namespace DeviceBus

/-! ## Refusals -/

namespace Machine

/-- No device refuses the state that waits for it, or to be attached. -/
structure Welcome (m : Machine) (devices : List BusDevice) (hw : Hardware) : Prop where
  restores : ∀ d ∈ devices, ∀ state ∈ m.pendingStates.get? d.id,
    ((hw.device d.device.handle).restore state).isOk = true
  willing : ∀ d ∈ devices, (hw.device d.device.handle).refusal? = none

instance (m : Machine) (devices : List BusDevice) (hw : Hardware) : Decidable (m.Welcome devices hw) :=
  decidable_of_iff ((∀ d ∈ devices, ∀ state ∈ m.pendingStates.get? d.id,
      ((hw.device d.device.handle).restore state).isOk = true) ∧
      ∀ d ∈ devices, (hw.device d.device.handle).refusal? = none)
    ⟨fun h => ⟨h.1, h.2⟩, fun h => ⟨h.restores, h.willing⟩⟩

variable {m m' : Machine} {hw hw' : Hardware} {d : BusDevice} {devices rest : List BusDevice}

/-- A machine is welcome where it was, as long as no more states wait and the terms stay. -/
theorem Welcome.congr (h : m.Welcome devices hw) (hterms : hw'.termsAt = hw.termsAt)
    (hstates : ∀ id, ∀ state ∈ m'.pendingStates.get? id, state ∈ m.pendingStates.get? id) :
    m'.Welcome devices hw' where
  restores := by
    intro d hd state hstate
    have htakes := congrFun (congrArg Device.Terms.takes (congrFun hterms d.device.handle)) state
    exact htakes.trans (h.restores d hd state (hstates _ state hstate))
  willing := by
    intro d hd
    have hrefusal := congrArg Device.Terms.refusal (congrFun hterms d.device.handle)
    exact hrefusal.trans (h.willing d hd)

theorem Welcome.of_cons (h : m.Welcome (d :: rest) hw) : m.Welcome rest hw :=
  ⟨fun d' hd' => h.restores d' (List.mem_cons_of_mem _ hd'),
    fun d' hd' => h.willing d' (List.mem_cons_of_mem _ hd')⟩

/-- A device that is welcome takes over the state that waits for it, if there is one. -/
theorem Welcome.restoreDevice (h : m.Welcome devices hw) (hd : d ∈ devices) : ∃ m' hw',
    m.restoreDevice d hw = (.ok (), m', hw') ∧ hw'.termsAt = hw.termsAt ∧ m'.Welcome devices hw' := by
  unfold Machine.restoreDevice
  cases hstate : m.pendingStates.get? d.id with
  | none => exact ⟨m, hw, rfl, rfl, h⟩
  | some state =>
    dsimp only
    have hrestores := h.restores d hd state hstate
    have hterms := hw.restore_termsAt d.device.handle state
    unfold Hardware.restore at hterms ⊢
    cases hrestore : (hw.device d.device.handle).restore state with
    | error reason =>
      rw [hrestore] at hrestores
      cases hrestores
    | ok d' =>
      rw [hrestore] at hterms
      refine ⟨_, _, rfl, hterms, h.congr hterms fun id state' hstate' => ?_⟩
      replace hstate' : state' ∈ (m.pendingStates.erase d.id).get? id := hstate'
      rw [Table.get?_erase] at hstate'
      split at hstate'
      · cases hstate'
      · exact hstate'

end Machine

/-! ## Steps -/

/-- The lines that devices ask for. -/
def Hardware.linesOf (hw : Hardware) (devices : List BusDevice) : Nat :=
  (devices.map fun d => (hw.device d.device.handle).lineCount).sum

theorem Hardware.linesOf_of_termsAt {hw hw' : Hardware} (h : hw'.termsAt = hw.termsAt)
    (devices : List BusDevice) : hw'.linesOf devices = hw.linesOf devices := by
  have hlines (d : BusDevice) : (hw'.device d.device.handle).lineCount =
      (hw.device d.device.handle).lineCount :=
    congrArg Device.Terms.lines (congrFun h d.device.handle)
  unfold linesOf
  rw [List.map_congr_left fun d _ => hlines d]

/-- The first address behind some devices that stand one behind the other. -/
def Scan.behind (size : Handle → Nat) (start : Nat) (devices : List BusDevice) : Nat :=
  start + (devices.map fun d => size d.device.handle).sum

namespace Scan

variable {size : Handle → Nat}

theorem behind_cons (size : Handle → Nat) (start : Nat) (d : BusDevice) (rest : List BusDevice) :
    behind size start (d :: rest) = behind size (start + size d.device.handle) rest := by
  unfold behind
  rw [List.map_cons, List.sum_cons, Nat.add_assoc]

theorem le_behind (size : Handle → Nat) (start : Nat) (devices : List BusDevice) :
    start ≤ behind size start devices := Nat.le_add_right _ _

/-- Where devices go behind a limit there is a first one that does. -/
theorem exists_first_beyond {start limit : Nat} {devices : List BusDevice} (hstart : start ≤ limit)
    (h : limit < behind size start devices) : ∃ before d after, devices = before ++ d :: after ∧
      behind size start before ≤ limit ∧ limit < behind size start before + size d.device.handle := by
  induction devices generalizing start with
  | nil => exact absurd h (Nat.not_lt.2 hstart)
  | cons d rest ih =>
    by_cases hd : start + size d.device.handle ≤ limit
    · rw [behind_cons] at h
      obtain ⟨before, d', after, rfl, hbefore, hbeyond⟩ := ih hd h
      refine ⟨d :: before, d', after, rfl, ?_⟩
      rw [behind_cons]
      exact ⟨hbefore, hbeyond⟩
    · exact ⟨[], d, rest, rfl, hstart, Nat.lt_of_not_le hd⟩

end Scan

/-- A load in the window `start … stop` that came to the address `next`: what is attached ends there at the
latest, the devices that are left come next, they do not refuse, and there are lines for them. -/
structure Loading (start stop : Nat) (size : Handle → Nat) (next : Nat) (rest : List BusDevice)
    (ctx : AttachContext) (m : Machine) (hw : Hardware) : Prop where
  windowStart : ctx.windowStart = start
  windowEnd : ctx.windowEnd = stop
  sizes : hw.sizeAt = size
  last : stop ≤ Scan.lastAddress
  inside : start + next ≤ stop
  passed : ∀ mapping ∈ ctx.mappings, ∀ base, mapping.base = some base → base + mapping.size ≤ start + next
  addresses : rest.map BusDevice.address = Scan.addresses next (rest.map fun d => size d.device.handle)
  lines : hw.linesOf rest ≤ ctx.freeLines.length
  welcome : m.Welcome rest hw

namespace Loading

variable {start stop next : Nat} {size : Handle → Nat} {d : BusDevice} {rest : List BusDevice}
  {ctx : AttachContext} {m : Machine} {hw : Hardware}

/-- The next device stands where the devices before it end, if it has an extent. -/
theorem address (h : Loading start stop size next (d :: rest) ctx m hw) :
    d.address = if size d.device.handle = 0 then none else some next :=
  (List.cons.inj h.addresses).1

/-- A load before its first device. -/
theorem new {config : Config} {devices : List BusDevice}
    (haddresses : devices.map BusDevice.address =
      Scan.addresses 0 (devices.map fun d => hw.sizeAt d.device.handle))
    (hlines : hw.linesOf devices ≤ config.interruptLines.toNat) (hwelcome : m.Welcome devices hw) :
    Loading config.mmioBase.toNat
      (min (config.mmioBase.toNat + config.mmioSize.toNat) Scan.lastAddress) hw.sizeAt 0 devices
      (.new config) m hw where
  windowStart := rfl
  windowEnd := rfl
  sizes := rfl
  last := Nat.min_le_right _ _
  inside := Nat.le_min.2 ⟨Nat.le_add_right _ _, Nat.le_sub_one_of_lt config.mmioBase.toNat_lt⟩
  passed := fun _ hmapping => absurd hmapping List.not_mem_nil
  addresses := haddresses
  lines := by
    show _ ≤ ((List.range config.interruptLines.toNat).map (· + 1)).length
    rwa [List.length_map, List.length_range]
  welcome := hwelcome

/-- There is room for the next device exactly if it ends within the window. -/
theorem roomFor_iff (h : Loading start stop size next (d :: rest) ctx m hw) {s : Nat} :
    ctx.RoomFor next s ↔ start + next + s ≤ stop := by
  unfold AttachContext.RoomFor
  rw [h.windowStart, h.windowEnd]
  exact ⟨And.left, fun hroom => ⟨hroom, fun mapping hmapping base hbase =>
    .inl (h.passed mapping hmapping base hbase)⟩⟩

/-- Whatever keeps the terms leaves a load where it came to. -/
theorem congr {m' : Machine} {hw' : Hardware} (h : Loading start stop size next rest ctx m hw)
    (hterms : hw'.termsAt = hw.termsAt) (hwelcome : m'.Welcome rest hw') :
    Loading start stop size next rest ctx m' hw' :=
  { h with
    sizes := (Hardware.sizeAt_of_termsAt hterms).trans h.sizes
    lines := (Hardware.linesOf_of_termsAt hterms rest).symm ▸ h.lines
    welcome := hwelcome }

/-- The next device takes over the state that waits for it. -/
theorem restored (h : Loading start stop size next (d :: rest) ctx m hw) : ∃ m' hw',
    m.restoreDevice d hw = (.ok (), m', hw') ∧ Loading start stop size next (d :: rest) ctx m' hw' := by
  obtain ⟨m', hw', hrestore, hterms, hwelcome⟩ := h.welcome.restoreDevice List.mem_cons_self
  exact ⟨m', hw', hrestore, h.congr hterms hwelcome⟩

theorem device_size (h : Loading start stop size next rest ctx m hw) (d : BusDevice) :
    (hw.device d.device.handle).size = size d.device.handle := congrFun h.sizes _

theorem lines_cons (h : Loading start stop size next (d :: rest) ctx m hw) :
    (hw.device d.device.handle).lineCount + hw.linesOf rest ≤ ctx.freeLines.length := h.lines

/-- The next device is accepted if it ends within the window. -/
theorem accepts (h : Loading start stop size next (d :: rest) ctx m hw)
    (hroom : start + next + size d.device.handle ≤ stop) : ctx.Accepts d (hw.device d.device.handle) where
  room := by
    intro address haddress
    rw [h.address] at haddress
    split at haddress
    · cases haddress
    · cases haddress
      rw [h.roomFor_iff, h.device_size]
      exact hroom
  lines := Nat.le_trans (Nat.le_add_right _ _) h.lines_cons
  willing := h.welcome.willing d List.mem_cons_self

/-- Once the next device is entered the load goes on behind it. -/
theorem enter {hw' : Hardware} (h : Loading start stop size next (d :: rest) ctx m hw)
    (hroom : start + next + size d.device.handle ≤ stop) (hterms : hw'.termsAt = hw.termsAt) :
    Loading start stop size (next + size d.device.handle) rest
      (ctx.enter (ctx.mapped d (hw.device d.device.handle))) m hw' where
  windowStart := h.windowStart
  windowEnd := h.windowEnd
  sizes := (Hardware.sizeAt_of_termsAt hterms).trans h.sizes
  last := h.last
  inside := Nat.add_assoc start next _ ▸ hroom
  passed := by
    refine List.forall_mem_append.2 ⟨fun mapping hmapping base hbase => ?_,
      List.forall_mem_singleton.2 fun base hbase => ?_⟩
    · exact Nat.le_trans (h.passed mapping hmapping base hbase)
        (Nat.add_le_add_left (Nat.le_add_right _ _) _)
    · obtain ⟨address, haddress, rfl⟩ := Option.map_eq_some_iff.1 hbase
      rw [h.address] at haddress
      split at haddress
      · cases haddress
      · cases haddress
        show ctx.windowStart + next + (hw.device d.device.handle).size ≤ _
        rw [h.windowStart, h.device_size]
        exact Nat.le_of_eq (Nat.add_assoc _ _ _)
  addresses := (List.cons.inj h.addresses).2
  lines := by
    have hlines := h.lines_cons
    show _ ≤ (ctx.freeLines.drop (ctx.mapped d _).lines.length).length
    rw [AttachContext.mapped_lines (h.accepts hroom).lines, List.length_drop,
      Hardware.linesOf_of_termsAt hterms]
    omega
  welcome := h.welcome.of_cons.congr hterms fun _ _ hstate => hstate

/-- The next device is attached if it ends within the window, and the load goes on behind it. -/
theorem step (h : Loading start stop size next (d :: rest) ctx m hw)
    (hroom : start + next + size d.device.handle ≤ stop) :
    ∃ ctx' m' hw', Loading start stop size (next + size d.device.handle) rest ctx' m' hw' ∧
      (Machine.attachEach (d :: rest) ctx m hw).1 = (Machine.attachEach rest ctx' m' hw').1 := by
  obtain ⟨m', hw₁, hrestore, h₁⟩ := h.restored
  obtain ⟨hw₂, hattach⟩ := AttachContext.attach_of_accepts m'.id m'.worker.isIdle (h₁.accepts hroom)
  have hterms : hw₂.termsAt = hw₁.termsAt := by
    have hterms := ctx.attach_termsAt m'.id m'.worker.isIdle d hw₁
    rwa [hattach] at hterms
  refine ⟨_, m', hw₂, h₁.enter hroom hterms, ?_⟩
  rw [Machine.attachEach, hrestore]
  dsimp only
  rw [hattach]

/-- The next device conflicts if it ends behind the window. -/
theorem conflict (h : Loading start stop size next (d :: rest) ctx m hw)
    (hbeyond : stop < start + next + size d.device.handle) :
    (Machine.attachEach (d :: rest) ctx m hw).1 =
      .error (.addressConflict d.id (start + next) (size d.device.handle)) := by
  obtain ⟨m', hw₁, hrestore, h₁⟩ := h.restored
  have haddress : d.address = some next := by
    have hinside := h.inside
    rw [h.address, if_neg (by omega)]
  have hroom : ¬ ctx.RoomFor next (hw₁.device d.device.handle).size := by
    rw [h.roomFor_iff, h₁.device_size, Nat.not_le]
    exact hbeyond
  have hbase : start + next < UInt64.size :=
    Nat.lt_of_le_of_lt (Nat.le_trans h.inside h.last) (by decide)
  rw [Machine.attachEach, hrestore]
  dsimp only
  rw [AttachContext.attach_conflict haddress hroom, h.windowStart, h₁.device_size, Nat.mod_eq_of_lt hbase]

/-- A load attaches all devices if they end within the window. -/
theorem attachEach_ok (h : Loading start stop size next rest ctx m hw)
    (hroom : Scan.behind size (start + next) rest ≤ stop) :
    ∃ ctx', (Machine.attachEach rest ctx m hw).1 = .ok ctx' := by
  induction rest generalizing next ctx m hw with
  | nil => exact ⟨ctx, rfl⟩
  | cons d rest ih =>
    rw [Scan.behind_cons] at hroom
    obtain ⟨ctx', m', hw', h', he⟩ := h.step (Nat.le_trans (Scan.le_behind _ _ _) hroom)
    rw [he]
    exact ih h' (Nat.add_assoc start next _ ▸ hroom)

/-- A load fails at the first device that ends behind the window. -/
theorem attachEach_conflict {before after : List BusDevice}
    (h : Loading start stop size next (before ++ d :: after) ctx m hw)
    (hbefore : Scan.behind size (start + next) before ≤ stop)
    (hbeyond : stop < Scan.behind size (start + next) before + size d.device.handle) :
    (Machine.attachEach (before ++ d :: after) ctx m hw).1 =
      .error (.addressConflict d.id (Scan.behind size (start + next) before) (size d.device.handle)) := by
  induction before generalizing next ctx m hw with
  | nil => exact h.conflict hbeyond
  | cons first before ih =>
    rw [Scan.behind_cons] at hbefore hbeyond ⊢
    obtain ⟨ctx', m', hw', h', he⟩ := h.step (Nat.le_trans (Scan.le_behind _ _ _) hbefore)
    rw [Nat.add_assoc start next] at hbefore hbeyond ⊢
    exact he.trans (ih h' hbefore hbeyond)

end Loading

/-! ## Conflicts -/

/-- Whether a device has addresses in common with the mapping of another one, in a window that starts at
`window`. -/
def BusDevice.Conflicts (window : Nat) (size : Handle → Nat) (d d' : BusDevice) : Prop :=
  ∃ mapping : Mapping, mapping.place = d.place window size ∧ ∃ address, d'.address = some address ∧
    mapping.overlaps (window + address) (window + address + size d'.device.handle) = true

/-- Two devices that stand one behind the other do not conflict. -/
theorem BusDevice.not_conflicts {window : Nat} {size : Handle → Nat} {d d' : BusDevice}
    (h : ∀ r, d.range? size = some r → ∀ r', d'.range? size = some r' → r.2 ≤ r'.1 ∨ r'.2 ≤ r.1) :
    ¬ d.Conflicts window size d' := by
  rintro ⟨mapping, hplace, address', haddress', hoverlaps⟩
  rw [Mapping.overlaps_eq_false_iff.2] at hoverlaps
  · cases hoverlaps
  · intro base hbase
    have hbase' : mapping.base = d.address.map (window + ·) := congrArg (fun place => place.2.1) hplace
    have hsize : mapping.size = size d.device.handle := congrArg (fun place => place.2.2) hplace
    rw [hbase] at hbase'
    obtain ⟨address, haddress, rfl⟩ := Option.map_eq_some_iff.1 hbase'.symm
    have := h _ (by rw [BusDevice.range?, haddress]; rfl) _ (by rw [BusDevice.range?, haddress']; rfl)
    dsimp only at this
    omega

/-- No two devices of a bus that was scanned conflict. -/
theorem Scan.pairwise_not_conflicts {size : Handle → Nat} {devices : List BusDevice} (window : Nat)
    (h : devices.map BusDevice.address = addresses 0 (devices.map fun d => size d.device.handle)) :
    devices.Pairwise fun d d' => ¬ d.Conflicts window size d' ∧ ¬ d'.Conflicts window size d := by
  refine (List.pairwise_filterMap.1 (contiguous_of_addresses h).disjoint).imp fun hranges => ⟨?_, ?_⟩
  · exact BusDevice.not_conflicts fun r hr r' hr' => .inl (hranges r hr r' hr').2
  · exact BusDevice.not_conflicts fun r hr r' hr' => .inr (hranges r' hr' r hr).2

/-! ## Loads -/

namespace Machine

variable {m : Machine} {hw : Hardware}

/-- The machine and the devices when a load begins to attach. -/
def settled (m : Machine) (hw : Hardware) : Machine × Hardware := { m with resume := false }.quiesce hw

theorem settled_termsAt (m : Machine) (hw : Hardware) : (m.settled hw).2.termsAt = hw.termsAt :=
  Hardware.termsAt_of_devices (({ m with resume := false } : Machine).quiesce_devices hw)

theorem settled_relays (m : Machine) (hw : Hardware) :
    (m.settled hw).1.config = m.config ∧ (m.settled hw).1.controller = m.controller := by
  have hrelays := (({ m with resume := false } : Machine).quiesce_acts hw).relays
  exact ⟨hrelays.config, hrelays.controller⟩

/-- A load that cannot attach all devices fails with the error of the first that it cannot attach. -/
theorem loadError?_of_attachEach {e : BootError}
    (h : (attachEach m.controller.devices (.new m.config) (m.settled hw).1 (m.settled hw).2).1 = .error e) :
    m.loadError? hw = some e := by
  obtain ⟨hconfig, hcontroller⟩ := m.settled_relays hw
  unfold loadError?
  unfold settled at h hconfig hcontroller
  generalize ({ m with resume := false } : Machine).quiesce hw = p at h hconfig hcontroller
  obtain ⟨m₁, hw₁⟩ := p
  dsimp only at h hconfig hcontroller ⊢
  unfold attachAll
  rw [hconfig, hcontroller]
  generalize attachEach m.controller.devices (.new m.config) m₁ hw₁ = q at h
  obtain ⟨result, m₂, hw₂⟩ := q
  dsimp only at h
  subst h
  rfl

/-- A load that attaches all devices ends with their map, unless the emulator refuses them or there is no
thread for the worker. -/
theorem load_of_attachEach {ctx : AttachContext}
    (h : (attachEach m.controller.devices (.new m.config) (m.settled hw).1 (m.settled hw).2).1 = .ok ctx) :
    ∃ accepted, Ends ctx.finish (m.load hw).1 accepted := by
  obtain ⟨hconfig, hcontroller⟩ := m.settled_relays hw
  unfold load
  unfold settled at h hconfig hcontroller
  generalize ({ m with resume := false } : Machine).quiesce hw = p at h hconfig hcontroller
  obtain ⟨m₁, hw₁⟩ := p
  dsimp only at h hconfig hcontroller ⊢
  unfold attachAll
  rw [hconfig, hcontroller]
  generalize attachEach m.controller.devices (.new m.config) m₁ hw₁ = q at h
  obtain ⟨result, m₂, hw₂⟩ := q
  dsimp only at h ⊢
  subst h
  dsimp only
  unfold installDevices
  generalize (if m.resume = true then (m₂, hw₂) else m₂.resetEmulator hw₂) = q
  obtain ⟨m₃, hw₃⟩ := q
  dsimp only
  generalize m₃.install ctx.finish hw₃ = q
  obtain ⟨result, m₄, hw₄⟩ := q
  cases result with
  | error fault =>
    obtain ⟨hrun, herror, hmap⟩ := m₄.halt_outcome (.emulation fault) (suspendAll ctx.finish.mappings hw₄)
    exact ⟨false, hrun, hmap, fault, herror⟩
  | ok _ =>
    exact ⟨true, m₄.enter_ends m.resume ctx.finish hw₄⟩

/-- Attaching the devices of a bus that was scanned, if they have the sizes that they had then and do not
refuse, and there are interrupt lines for all, depends on the sum of their sizes alone.  If the last device
ends within the window, and where there still are addresses, all are attached, each where the scan put it, and
only the emulator can refuse them, or the platform a thread.  If not, the load fails with an address conflict
of the first device that ends behind that.  No two of the devices conflict with each other, wherever the
window starts. -/
theorem scanned_bus_fits_iff {t : Topology} {hw₀ : Hardware} {visits : List Scan.Visit}
    (hscan : (Scan.enumerate t hw₀ visits).1 = .ok m.controller.devices)
    (hsizes : ∀ d ∈ m.controller.devices, hw.sizeAt d.device.handle = hw₀.sizeAt d.device.handle)
    (hwelcome : m.Welcome m.controller.devices hw)
    (hlines : hw.linesOf m.controller.devices ≤ m.config.interruptLines.toNat) :
    let start := m.config.mmioBase.toNat
    let limit := min (start + m.config.mmioSize.toNat) (2 ^ 64 - 1)
    let attached := attachEach m.controller.devices (.new m.config) m hw
    ((∃ ctx, attached.1 = .ok ctx) ↔ Scan.behind hw.sizeAt start m.controller.devices ≤ limit) ∧
    (Scan.behind hw.sizeAt start m.controller.devices ≤ limit →
      ∃ map accepted, map.Charts start hw.sizeAt m.controller.devices ∧
        Ends map (m.load hw).1 accepted) ∧
    (limit < Scan.behind hw.sizeAt start m.controller.devices →
      ∃ before d after, m.controller.devices = before ++ d :: after ∧
        let base := Scan.behind hw.sizeAt start before
        let size := hw.sizeAt d.device.handle
        base ≤ limit ∧ limit < base + size ∧ attached.1 = .error (.addressConflict d.id base size) ∧
          m.loadError? hw = some (.addressConflict d.id base size) ∧
          (m.load hw).1.Failed (.addressConflict d.id base size)) ∧
    ∀ window, m.controller.devices.Pairwise fun d d' =>
      ¬ d.Conflicts window hw.sizeAt d' ∧ ¬ d'.Conflicts window hw.sizeAt d := by
  intro start limit attached
  have haddresses : m.controller.devices.map BusDevice.address =
      Scan.addresses 0 (m.controller.devices.map fun d => hw.sizeAt d.device.handle) := by
    rw [Scan.enumerate_places hscan, List.map_congr_left hsizes]
  have hnow := Loading.new haddresses hlines hwelcome
  -- a load waits for the worker first, which does nothing to the devices
  have hterms := m.settled_termsAt hw
  have hlater : Loading start limit hw.sizeAt 0 m.controller.devices (.new m.config) (m.settled hw).1
      (m.settled hw).2 := hnow.congr hterms (hwelcome.congr hterms fun _ _ hstate => hstate)
  have hconflict (hbeyond : limit < Scan.behind hw.sizeAt start m.controller.devices) :
      ∃ before d after, m.controller.devices = before ++ d :: after ∧
        let base := Scan.behind hw.sizeAt start before
        let size := hw.sizeAt d.device.handle
        base ≤ limit ∧ limit < base + size ∧ attached.1 = .error (.addressConflict d.id base size) ∧
          m.loadError? hw = some (.addressConflict d.id base size) := by
    obtain ⟨before, d, after, hdevices, hbefore, hd⟩ := Scan.exists_first_beyond hnow.inside hbeyond
    rw [hdevices] at hnow hlater
    have herror := hnow.attachEach_conflict hbefore hd
    have herror' := hlater.attachEach_conflict hbefore hd
    rw [← hdevices] at herror herror'
    exact ⟨before, d, after, hdevices, hbefore, hd, herror, loadError?_of_attachEach herror'⟩
  refine ⟨⟨?_, hnow.attachEach_ok⟩, fun hroom => ?_, fun hbeyond => ?_,
    fun window => Scan.pairwise_not_conflicts window haddresses⟩
  · rintro ⟨ctx, hctx⟩
    by_contra hbeyond
    obtain ⟨before, d, after, -, -, -, herror, -⟩ := hconflict (Nat.lt_of_not_le hbeyond)
    rw [hctx] at herror
    cases herror
  · obtain ⟨ctx, hctx⟩ := hlater.attachEach_ok hroom
    obtain ⟨accepted, hends⟩ := load_of_attachEach hctx
    refine ⟨ctx.finish, accepted, ?_, hends⟩
    obtain ⟨-, hplaces⟩ := attachEach_place (Prod.ext hctx rfl : _ = (_, _, _))
    rw [Hardware.sizeAt_of_termsAt hterms] at hplaces
    exact hplaces
  · obtain ⟨before, d, after, hdevices, hbefore, hd, herror, hload⟩ := hconflict hbeyond
    exact ⟨before, d, after, hdevices, hbefore, hd, herror, hload, load_failed hload⟩

/-- Two memories of 32 and 64 bytes, with a device without an extent in between, are attached in a window of
96 bytes.  One byte less, and the second memory conflicts. -/
theorem scanned_bus_fits_to_the_byte :
    let world (room : UInt64) : World := World.empty.run [
      .build (.ram (.new ⟨10⟩ 32 0)), .build (.bare ⟨11⟩), .build (.ram (.new ⟨12⟩ 64 0)),
      .topology (.insert ⟨1⟩ [] [⟨⟨0⟩, ⟨10⟩⟩, ⟨⟨1⟩, ⟨11⟩⟩, ⟨⟨2⟩, ⟨12⟩⟩]),
      .newMachine ⟨1⟩ (.demo .new) { mmioBase := 0x1000, mmioSize := room } (.queue []) .unmetered,
      .machine 0 .tick]
    let scanned (w : World) (m : Machine) : Prop :=
      (Scan.enumerate w.site.topology w.site.hardware [⟨⟨1⟩, none⟩]).1 = .ok m.controller.devices ∧
        m.Welcome m.controller.devices w.site.hardware ∧
        w.site.hardware.linesOf m.controller.devices ≤ m.config.interruptLines.toNat
    (∃ m ∈ (world 96).machine? 0, scanned (world 96) m ∧
      ∃ map accepted, map.Charts 0x1000 (world 96).site.hardware.sizeAt m.controller.devices ∧
        Ends map (m.load (world 96).site.hardware).1 accepted) ∧
    ∃ m ∈ (world 95).machine? 0, scanned (world 95) m ∧
      (m.load (world 95).site.hardware).1.Failed (.addressConflict ⟨12⟩ 0x1020 64) := by
  intro world scanned
  have hfits : ∃ m ∈ (world 96).machine? 0, scanned (world 96) m ∧ m.config.mmioBase.toNat = 0x1000 ∧
      Scan.behind (world 96).site.hardware.sizeAt m.config.mmioBase.toNat m.controller.devices ≤
        min (m.config.mmioBase.toNat + m.config.mmioSize.toNat) (2 ^ 64 - 1) := by decide
  have hconflicts : ∃ m ∈ (world 95).machine? 0, scanned (world 95) m ∧
      m.loadError? (world 95).site.hardware = some (.addressConflict ⟨12⟩ 0x1020 64) ∧
      min (m.config.mmioBase.toNat + m.config.mmioSize.toNat) (2 ^ 64 - 1) <
        Scan.behind (world 95).site.hardware.sizeAt m.config.mmioBase.toNat m.controller.devices := by decide
  obtain ⟨m, hm, hscanned, hbase, hroom⟩ := hfits
  obtain ⟨m', hm', hscanned', herror, hbeyond⟩ := hconflicts
  have hfitted := (scanned_bus_fits_iff hscanned.1 (fun _ _ => rfl) hscanned.2.1 hscanned.2.2).2.1 hroom
  have hfailed := (scanned_bus_fits_iff hscanned'.1 (fun _ _ => rfl) hscanned'.2.1 hscanned'.2.2).2.2.1 hbeyond
  obtain ⟨before, d, after, -, -, -, -, hload, hfailed⟩ := hfailed
  rw [herror, Option.some.injEq] at hload
  rw [hbase] at hfitted
  exact ⟨⟨m, hm, hscanned, hfitted⟩, m', hm', hscanned', hload ▸ hfailed⟩

end Machine

end DeviceBus
