import DeviceBus.Proofs.Machine.Replay
import Mathlib.Data.List.Induction

/-!
# Ranges and lines

Devices are attached one at a time, and every call may fail: for want of room, for want of interrupt lines,
or because the device refuses.  A context is changed in place for this (`AttachContext.attachInPlace`): the
lines of a device are taken from the free ones, one by one, and given back if it refuses, which leaves the
context as it was (`AttachContext.attachInPlace_eq`).

After any calls the ranges are apart and within the window, and the lines of the mappings, one mapping behind
the other, and then the free ones are the lines that the configuration has (`AttachContext.Wired`).  So an
address is in the range of one mapping at most, and the map finds that one.

    (ctx.mappings.flatMap Mapping.lines) ++ ctx.freeLines = 1, …, config.interruptLines
    map.find? address = some (m, offset)  ↔  m alone contains it, offset behind its base   (calls_wired)
-/

namespace DeviceBus

/-! ## Mappings -/

namespace Mapping

/-- Whether the range of a mapping contains an address. -/
def contains (m : Mapping) (address : Nat) : Bool := (m.offset? address).isSome

/-- The ranges of two mappings, one of which is behind the other. -/
def Apart (m m' : Mapping) : Prop := ∀ base base', m.base = some base → m'.base = some base' →
  base + m.size ≤ base' ∨ base' + m'.size ≤ base

variable {m m' : Mapping} {address offset start stop : Nat}

theorem overlaps_eq_false_iff : m.overlaps start stop = false ↔
    ∀ base, m.base = some base → base + m.size ≤ start ∨ stop ≤ base := by
  unfold overlaps
  cases m.base with
  | none => exact iff_of_true rfl fun _ h => nomatch h
  | some base =>
    rw [Bool.and_eq_false_iff, decide_eq_false_iff_not, decide_eq_false_iff_not, Nat.not_lt, Nat.not_lt]
    exact ⟨fun h base' hbase => Option.some.inj hbase ▸ h, fun h => h base rfl⟩

theorem offset?_eq_some_iff : m.offset? address = some offset ↔
    ∃ base, m.base = some base ∧ address = base + offset ∧ offset < m.size := by
  unfold offset?
  cases m.base with
  | none => exact iff_of_false (fun h => nomatch h) fun ⟨_, h, _⟩ => nomatch h
  | some base =>
    dsimp only
    constructor
    · intro h
      split at h
      · next hrange =>
        cases h
        exact ⟨base, rfl, by omega, by omega⟩
      · cases h
    · rintro ⟨_, ⟨⟩, rfl, hoffset⟩
      rw [if_pos ⟨Nat.le_add_right _ _, Nat.add_lt_add_left hoffset _⟩, Nat.add_sub_cancel_left]

theorem contains_iff : m.contains address = true ↔
    ∃ base, m.base = some base ∧ base ≤ address ∧ address < base + m.size := by
  unfold contains
  rw [Option.isSome_iff_exists]
  constructor
  · rintro ⟨offset, h⟩
    obtain ⟨base, hbase, haddress, hoffset⟩ := offset?_eq_some_iff.1 h
    exact ⟨base, hbase, by omega, by omega⟩
  · rintro ⟨base, hbase, hstart, hstop⟩
    exact ⟨address - base, offset?_eq_some_iff.2 ⟨base, hbase, by omega, by omega⟩⟩

/-- No address is in two ranges that are apart. -/
theorem Apart.not_both (h : m.Apart m') (hm : m.contains address = true) : m'.contains address = false := by
  refine eq_false_of_ne_true fun hm' => ?_
  obtain ⟨base, hbase, hstart, hstop⟩ := contains_iff.1 hm
  obtain ⟨base', hbase', hstart', hstop'⟩ := contains_iff.1 hm'
  have := h base base' hbase hbase'
  omega

end Mapping

/-! ## Look-ups -/

namespace DeviceMap

variable {map : DeviceMap} {m : Mapping} {address offset : Nat}

/-- A look-up finds the first mapping that contains the address. -/
theorem find?_eq_head? (map : DeviceMap) (address : Nat) : map.find? address =
    (map.mappings.filter (·.contains address)).head?.bind fun m => (m.offset? address).map fun o => (m, o) := by
  unfold find?
  induction map.mappings with
  | nil => rfl
  | cons first rest ih =>
    rw [List.findSome?_cons, List.filter_cons]
    cases hoffset : first.offset? address with
    | none =>
      have hcontains : first.contains address = false := congrArg Option.isSome hoffset
      rw [if_neg (ne_true_of_eq_false hcontains)]
      exact ih
    | some offset =>
      have hcontains : first.contains address = true := congrArg Option.isSome hoffset
      rw [if_pos hcontains, List.head?_cons, Option.bind_some, hoffset]
      rfl

theorem find?_eq_none_iff : map.find? address = none ↔
    ∀ m ∈ map.mappings, m.contains address = false := by
  rw [find?_eq_head?]
  cases hfound : map.mappings.filter (·.contains address) with
  | nil =>
    refine iff_of_true rfl fun m hm => eq_false_of_ne_true ?_
    exact List.filter_eq_nil_iff.1 hfound m hm
  | cons first rest =>
    obtain ⟨hfirst, hcontains⟩ := List.mem_filter.1 (hfound ▸ List.mem_cons_self : first ∈ _)
    refine iff_of_false (fun hnone => ?_) fun hnone => ?_
    · obtain ⟨offset, hoffset⟩ := Option.isSome_iff_exists.1 hcontains
      rw [List.head?_cons, Option.bind_some, hoffset] at hnone
      cases hnone
    · rw [hnone first hfirst] at hcontains
      cases hcontains

/-- Where the ranges are apart, one at most contains an address. -/
theorem filter_contains (happart : map.mappings.Pairwise Mapping.Apart) (address : Nat) :
    map.mappings.filter (·.contains address) = [] ∨ ∃ m, map.mappings.filter (·.contains address) = [m] := by
  have hpairs := happart.filter (·.contains address)
  cases hfound : map.mappings.filter (·.contains address) with
  | nil => exact .inl rfl
  | cons first rest =>
    have hcontains : ∀ m ∈ first :: rest, m.contains address = true := by
      rw [← hfound]
      exact fun m hm => (List.mem_filter.1 hm).2
    rw [hfound] at hpairs
    cases rest with
    | nil => exact .inr ⟨first, rfl⟩
    | cons second rest =>
      have hapart := List.rel_of_pairwise_cons hpairs (List.mem_cons_self (a := second))
      have hsecond := hapart.not_both (hcontains first List.mem_cons_self)
      rw [hcontains second (List.mem_cons_of_mem _ List.mem_cons_self)] at hsecond
      cases hsecond

theorem find?_eq_some_iff (happart : map.mappings.Pairwise Mapping.Apart) :
    map.find? address = some (m, offset) ↔ map.mappings.filter (·.contains address) = [m] ∧
      ∃ base, m.base = some base ∧ address = base + offset ∧ offset < m.size := by
  rw [find?_eq_head?, ← Mapping.offset?_eq_some_iff]
  rcases filter_contains happart address with hnone | ⟨only, honly⟩
  · rw [hnone]
    exact iff_of_false (fun h => nomatch h) fun h => nomatch h.1
  · rw [honly, List.head?_cons, Option.bind_some, Option.map_eq_some_iff]
    constructor
    · rintro ⟨o, ho, heq⟩
      cases heq
      exact ⟨rfl, ho⟩
    · rintro ⟨⟨⟩, hoffset⟩
      exact ⟨offset, hoffset, rfl⟩

end DeviceMap

/-! ## One call -/

namespace AttachContext

variable {ctx ctx' : AttachContext} {machine : MachineId} {idle : Bool} {entry : BusDevice} {hw hw' : Hardware}

/-- A range is within the window and apart from the ranges that are taken. -/
def RoomFor (ctx : AttachContext) (address size : Nat) : Prop :=
  ctx.windowStart + address + size ≤ ctx.windowEnd ∧
    ∀ m ∈ ctx.mappings, ∀ base, m.base = some base →
      base + m.size ≤ ctx.windowStart + address ∨ ctx.windowStart + address + size ≤ base

/-- There is room for a device, there are lines enough, and it does not refuse. -/
structure Accepts (ctx : AttachContext) (entry : BusDevice) (d : Device) : Prop where
  room : ∀ address, entry.address = some address → ctx.RoomFor address d.size
  lines : d.lineCount ≤ ctx.freeLines.length
  willing : d.refusal? = none

/-- What a device is given. -/
def mapped (ctx : AttachContext) (entry : BusDevice) (d : Device) : Mapping :=
  ⟨entry.device, entry.address.map (ctx.windowStart + ·), d.size, ctx.freeLines.take d.lineCount⟩

/-- The context with one more mapping, which has the lowest of the free lines. -/
def enter (ctx : AttachContext) (m : Mapping) : AttachContext :=
  { ctx with freeLines := ctx.freeLines.drop m.lines.length, mappings := ctx.mappings ++ [m] }

theorem reserve_of_room {device : DeviceId} {address size : Nat} (h : ctx.RoomFor address size) :
    ctx.reserve device address size = .ok (ctx.windowStart + address) := by
  have hoverlaps : ctx.mappings.any (·.overlaps (ctx.windowStart + address)
      (ctx.windowStart + address + size)) = false :=
    List.any_eq_false.2 fun m hm => ne_true_of_eq_false (Mapping.overlaps_eq_false_iff.2 (h.2 m hm))
  unfold reserve
  dsimp only
  rw [if_neg]
  rw [hoverlaps, not_or]
  exact ⟨Nat.not_lt.2 h.1, Bool.false_ne_true⟩

theorem reserve_of_no_room {device : DeviceId} {address size : Nat} (h : ¬ ctx.RoomFor address size) :
    ctx.reserve device address size =
      .error (.addressConflict device ((ctx.windowStart + address) % UInt64.size) size) := by
  unfold reserve
  dsimp only
  rw [if_pos]
  by_contra hroom
  rw [not_or, Bool.not_eq_true, List.any_eq_false] at hroom
  refine h ⟨Nat.le_of_not_lt hroom.1, fun m hm => ?_⟩
  exact Mapping.overlaps_eq_false_iff.1 (eq_false_of_ne_true (hroom.2 m hm))

theorem place_of_room {size : Nat} (h : ∀ address, entry.address = some address → ctx.RoomFor address size) :
    ctx.place entry size = .ok (entry.address.map (ctx.windowStart + ·)) := by
  unfold place
  cases haddress : entry.address with
  | none => rfl
  | some address =>
    dsimp only
    rw [reserve_of_room (h address haddress)]
    rfl

theorem wire_of_enough {d : Device} (h : d.lineCount ≤ ctx.freeLines.length) :
    ctx.wire entry d = .ok (ctx.freeLines.take d.lineCount) := by
  unfold Device.lineCount at h ⊢
  unfold wire
  cases hasks : d.interrupt? with
  | none => rfl
  | some asks =>
    rw [hasks] at h
    exact if_neg (Nat.not_lt.2 h)

theorem wire_of_few {d : Device} (h : ctx.freeLines.length < d.lineCount) :
    ctx.wire entry d = .error (.interruptsExhausted entry.id d.lineCount) := by
  unfold Device.lineCount at h ⊢
  unfold wire
  cases hasks : d.interrupt? with
  | none =>
    rw [hasks] at h
    exact absurd h (Nat.not_lt_zero _)
  | some asks =>
    rw [hasks] at h
    exact if_pos h

theorem mapped_lines {d : Device} (h : d.lineCount ≤ ctx.freeLines.length) :
    (ctx.mapped entry d).lines.length = d.lineCount := by
  show (ctx.freeLines.take d.lineCount).length = d.lineCount
  rw [List.length_take, Nat.min_eq_left h]

/-- A device that is accepted is given what it asks for. -/
theorem attach_of_accepts (machine : MachineId) (idle : Bool)
    (h : ctx.Accepts entry (hw.device entry.device.handle)) : ∃ hw', ctx.attach machine idle entry hw =
      (.ok (ctx.enter (ctx.mapped entry (hw.device entry.device.handle))), hw') := by
  unfold attach
  dsimp only
  rw [place_of_room h.room, wire_of_enough h.lines]
  unfold Hardware.attach
  rw [h.willing]
  exact ⟨_, rfl⟩

/-- Without room there is a conflict, whatever else is wrong. -/
theorem attach_conflict {address : Nat} (haddress : entry.address = some address)
    (h : ¬ ctx.RoomFor address (hw.device entry.device.handle).size) :
    ctx.attach machine idle entry hw = (.error (.addressConflict entry.id
      ((ctx.windowStart + address) % UInt64.size) (hw.device entry.device.handle).size), hw) := by
  unfold attach place
  dsimp only
  rw [haddress]
  dsimp only
  rw [reserve_of_no_room h]
  rfl

theorem attach_of_not_accepts (machine : MachineId) (idle : Bool)
    (h : ¬ ctx.Accepts entry (hw.device entry.device.handle)) :
    ∃ e hw', ctx.attach machine idle entry hw = (.error e, hw') := by
  by_cases hroom : ∀ address, entry.address = some address →
      ctx.RoomFor address (hw.device entry.device.handle).size
  · unfold attach
    dsimp only
    rw [place_of_room hroom]
    by_cases hlines : (hw.device entry.device.handle).lineCount ≤ ctx.freeLines.length
    · rw [wire_of_enough hlines]
      unfold Hardware.attach
      cases hrefusal : (hw.device entry.device.handle).refusal? with
      | none => exact absurd ⟨hroom, hlines, hrefusal⟩ h
      | some fault => exact ⟨_, _, rfl⟩
    · rw [wire_of_few (Nat.lt_of_not_le hlines)]
      exact ⟨_, _, rfl⟩
  · rw [not_forall] at hroom
    obtain ⟨address, hroom⟩ := hroom
    rw [Classical.not_imp] at hroom
    exact ⟨_, _, attach_conflict hroom.1 hroom.2⟩

/-! ## In place -/

/-- The lowest free line, if there is one, and the context without it. -/
def takeLine (ctx : AttachContext) : Option Nat × AttachContext :=
  match ctx.freeLines with
  | [] => (none, ctx)
  | line :: rest => (some line, { ctx with freeLines := rest })

/-- Takes free lines, one by one. -/
def takeLines : Nat → AttachContext → List Nat × AttachContext
  | 0, ctx => ([], ctx)
  | count + 1, ctx =>
    let (line, ctx) := ctx.takeLine
    let (lines, ctx) := takeLines count ctx
    (line.toList ++ lines, ctx)

/-- Gives a line back. -/
def giveLine (ctx : AttachContext) (line : Nat) : AttachContext :=
  { ctx with freeLines := line :: ctx.freeLines }

/-- Maps, wires and binds one device, and changes the context in place: the lines are taken before the device
is asked, and given back, the last one first, if it refuses. -/
def attachInPlace (ctx : AttachContext) (machine : MachineId) (idle : Bool) (entry : BusDevice)
    (hw : Hardware) : Except BootError Unit × AttachContext × Hardware :=
  let d := hw.device entry.device.handle
  match ctx.place entry d.size with
  | .error e => (.error e, ctx, hw)
  | .ok base =>
    if ctx.freeLines.length < d.lineCount then
      (.error (.interruptsExhausted entry.id d.lineCount), ctx, hw)
    else
      let (lines, ctx) := takeLines d.lineCount ctx
      match hw.attach entry.device.handle machine base lines idle with
      | (.error reason, hw) =>
        (.error (.deviceRejected entry.id reason), lines.reverse.foldl giveLine ctx, hw)
      | (.ok (), hw) =>
        (.ok (), { ctx with mappings := ctx.mappings ++ [⟨entry.device, base, d.size, lines⟩] }, hw)

theorem takeLines_eq (ctx : AttachContext) {count : Nat} (h : count ≤ ctx.freeLines.length) :
    takeLines count ctx = (ctx.freeLines.take count, { ctx with freeLines := ctx.freeLines.drop count }) := by
  induction count generalizing ctx with
  | zero => rfl
  | succ count ih =>
    cases hfree : ctx.freeLines with
    | nil =>
      rw [hfree] at h
      exact absurd h (Nat.not_succ_le_zero count)
    | cons line rest =>
      have htake : ctx.takeLine = (some line, { ctx with freeLines := rest }) := by
        unfold takeLine
        rw [hfree]
      rw [hfree] at h
      unfold takeLines
      rw [htake]
      dsimp only
      rw [ih { ctx with freeLines := rest } (Nat.le_of_succ_le_succ h)]
      rfl

/-- Lines that are given back one by one come to stand as they were. -/
theorem giveLines_eq (ctx : AttachContext) (lines : List Nat) :
    lines.reverse.foldl giveLine ctx = { ctx with freeLines := lines ++ ctx.freeLines } := by
  rw [List.foldl_reverse]
  induction lines with
  | nil => rfl
  | cons line rest ih =>
    rw [List.foldr_cons, ih]
    rfl

/-- A call in place returns and leaves what `attach` does, and a call that fails leaves the context as it was. -/
theorem attachInPlace_eq (ctx : AttachContext) (machine : MachineId) (idle : Bool) (entry : BusDevice)
    (hw : Hardware) : ctx.attachInPlace machine idle entry hw =
      match ctx.attach machine idle entry hw with
      | (.ok ctx', hw') => (.ok (), ctx', hw')
      | (.error e, hw') => (.error e, ctx, hw') := by
  unfold attachInPlace attach
  dsimp only
  cases ctx.place entry (hw.device entry.device.handle).size with
  | error e => rfl
  | ok base =>
    dsimp only
    by_cases hlines : (hw.device entry.device.handle).lineCount ≤ ctx.freeLines.length
    · rw [if_neg (Nat.not_lt.2 hlines), wire_of_enough hlines, takeLines_eq ctx hlines]
      dsimp only
      cases hw.attach entry.device.handle machine base (ctx.freeLines.take _) idle with
      | mk result hw' => cases result with
        | error reason =>
          dsimp only
          rw [giveLines_eq]
          dsimp only
          rw [List.take_append_drop]
        | ok _ =>
          dsimp only
          rw [List.length_take, Nat.min_eq_left hlines]
    · rw [if_pos (Nat.lt_of_not_le hlines), wire_of_few (Nat.lt_of_not_le hlines)]

/-! ## Any calls -/

/-- A call, with the devices as they are then. -/
structure Call where
  machine : MachineId
  idle : Bool
  entry : BusDevice
  hardware : Hardware

/-- The device that a call is about. -/
def Call.device (call : Call) : Device := call.hardware.device call.entry.device.handle

/-- What a call returns, and the context after it. -/
def call (ctx : AttachContext) (c : Call) : Except BootError Unit × AttachContext :=
  let (result, ctx, _) := ctx.attachInPlace c.machine c.idle c.entry c.hardware
  (result, ctx)

/-- The context after calls. -/
def calls (ctx : AttachContext) (cs : List Call) : AttachContext := cs.foldl (fun ctx c => (ctx.call c).2) ctx

/-- A call enters a device that is accepted, and leaves the context as it was if it is not. -/
theorem call_of_accepts {c : Call} (h : ctx.Accepts c.entry c.device) :
    ctx.call c = (.ok (), ctx.enter (ctx.mapped c.entry c.device)) := by
  obtain ⟨hw', hattach⟩ := attach_of_accepts c.machine c.idle h
  unfold call
  rw [attachInPlace_eq, hattach]
  rfl

theorem call_of_not_accepts {c : Call} (h : ¬ ctx.Accepts c.entry c.device) :
    ∃ e, ctx.call c = (.error e, ctx) := by
  obtain ⟨e, hw', hattach⟩ := attach_of_not_accepts c.machine c.idle h
  refine ⟨e, ?_⟩
  unfold call
  rw [attachInPlace_eq, hattach]

/-- The window is that of the configuration, the ranges are within it and apart, and the lines of the mappings
and the free ones are those of the configuration, in order. -/
structure Wired (config : Config) (ctx : AttachContext) : Prop where
  start : ctx.windowStart = config.mmioBase.toNat
  stop : ctx.windowEnd = min (config.mmioBase.toNat + config.mmioSize.toNat) Scan.lastAddress
  inside : ∀ m ∈ ctx.mappings, ∀ base, m.base = some base →
    config.mmioBase.toNat ≤ base ∧ base + m.size ≤ ctx.windowEnd
  apart : ctx.mappings.Pairwise Mapping.Apart
  lines : ctx.mappings.flatMap Mapping.lines ++ ctx.freeLines =
    (List.range config.interruptLines.toNat).map (· + 1)

/-- A mapping gives what a call asks for. -/
structure Serves (config : Config) (m : Mapping) (c : Call) : Prop where
  device : m.device = c.entry.device
  base : m.base = c.entry.address.map (config.mmioBase.toNat + ·)
  size : m.size = c.device.size
  lines : m.lines.length = c.device.lineCount

variable {config : Config} {d : Device}

theorem new_wired (config : Config) : (new config).Wired config :=
  ⟨rfl, rfl, fun _ hm => absurd hm List.not_mem_nil, .nil, rfl⟩

/-- A new mapping is apart from the others, and its lines come next. -/
theorem Wired.enter (h : ctx.Wired config) (haccepts : ctx.Accepts entry d) :
    (ctx.enter (ctx.mapped entry d)).Wired config where
  start := h.start
  stop := h.stop
  inside := by
    refine List.forall_mem_append.2 ⟨h.inside, List.forall_mem_singleton.2 fun base hbase => ?_⟩
    obtain ⟨address, haddress, rfl⟩ := Option.map_eq_some_iff.1 hbase
    exact ⟨h.start ▸ Nat.le_add_right _ _, (haccepts.room address haddress).1⟩
  apart := by
    refine List.pairwise_append.2 ⟨h.apart, List.pairwise_singleton _ _, fun m hm m' hm' => ?_⟩
    cases List.mem_singleton.1 hm'
    intro base base' hbase hbase'
    obtain ⟨address, haddress, rfl⟩ := Option.map_eq_some_iff.1 hbase'
    exact (haccepts.room address haddress).2 m hm base hbase
  lines := by
    show (ctx.mappings ++ [ctx.mapped entry d]).flatMap Mapping.lines ++
      ctx.freeLines.drop (ctx.mapped entry d).lines.length = _
    rw [mapped_lines haccepts.lines, List.flatMap_append, List.flatMap_singleton, List.append_assoc]
    show _ ++ (ctx.freeLines.take d.lineCount ++ ctx.freeLines.drop d.lineCount) = _
    rw [List.take_append_drop, h.lines]

/-- The lines stand in ascending order. -/
theorem Wired.ascending (h : ctx.Wired config) :
    (ctx.mappings.flatMap Mapping.lines ++ ctx.freeLines).Pairwise (· < ·) := by
  rw [h.lines]
  exact List.pairwise_lt_range.map _ fun _ _ => Nat.succ_lt_succ

/-- No line belongs to two mappings. -/
theorem Wired.disjoint (h : ctx.Wired config) :
    ctx.mappings.Pairwise fun m m' => m.lines.Disjoint m'.lines := by
  have hnodup : (ctx.mappings.flatMap Mapping.lines ++ ctx.freeLines).Nodup := h.ascending.imp Nat.ne_of_lt
  exact (List.nodup_flatMap.1 (List.nodup_append.1 hnodup).1).2

theorem mapped_serves {c : Call} (h : ctx.Wired config) (haccepts : ctx.Accepts c.entry c.device) :
    Serves config (ctx.mapped c.entry c.device) c :=
  ⟨rfl, h.start ▸ rfl, rfl, mapped_lines haccepts.lines⟩

theorem calls_snoc (ctx : AttachContext) (cs : List Call) (c : Call) :
    ctx.calls (cs ++ [c]) = ((ctx.calls cs).call c).2 := by
  unfold calls
  rw [List.foldl_append]
  rfl

theorem run_wired (config : Config) (cs : List Call) : ((new config).calls cs).Wired config ∧
    ∀ m ∈ ((new config).calls cs).mappings, ∃ c ∈ cs, Serves config m c := by
  induction cs using List.reverseRecOn with
  | nil => exact ⟨new_wired config, fun _ hm => absurd hm List.not_mem_nil⟩
  | append_singleton cs c ih =>
    obtain ⟨hwired, hserves⟩ := ih
    have hbefore : ∀ m ∈ ((new config).calls cs).mappings, ∃ c' ∈ cs ++ [c], Serves config m c' := by
      intro m hm
      obtain ⟨c', hc', hm⟩ := hserves m hm
      exact ⟨c', List.mem_append_left _ hc', hm⟩
    rw [calls_snoc]
    by_cases haccepts : ((new config).calls cs).Accepts c.entry c.device
    · rw [call_of_accepts haccepts]
      refine ⟨hwired.enter haccepts, ?_⟩
      refine List.forall_mem_append.2 ⟨hbefore, List.forall_mem_singleton.2 ?_⟩
      exact ⟨c, List.mem_append_right _ (List.mem_singleton_self c), mapped_serves hwired haccepts⟩
    · obtain ⟨e, he⟩ := call_of_not_accepts haccepts
      rw [he]
      exact ⟨hwired, hbefore⟩

/-- After any calls, of which some may have failed, the ranges and the lines are as they should be, every
mapping gives what some call asked for, and no line belongs to two.  The next call is accepted exactly if there
is room, there are lines enough, and the device does not refuse; then it enters a mapping with the lowest of the
free lines, and else it leaves the context as it was.  A look-up in the map finds the one mapping that contains
an address, with the offset of the address behind its base, and nothing if none does. -/
theorem calls_wired (config : Config) (cs : List Call) :
    let ctx := (new config).calls cs
    ctx.Wired config ∧ (∀ m ∈ ctx.mappings, ∃ c ∈ cs, Serves config m c) ∧
    (ctx.mappings.Pairwise fun m m' => m.lines.Disjoint m'.lines) ∧ ctx.freeLines.Pairwise (· < ·) ∧
    (∀ c : Call,
      (ctx.Accepts c.entry c.device → ∃ m, Serves config m c ∧ m.lines = ctx.freeLines.take c.device.lineCount ∧
        ctx.call c = (.ok (), { ctx with
          freeLines := ctx.freeLines.drop c.device.lineCount
          mappings := ctx.mappings ++ [m] })) ∧
      (¬ ctx.Accepts c.entry c.device → ∃ e, ctx.call c = (.error e, ctx))) ∧
    ∀ address,
      (∀ m offset, ctx.finish.find? address = some (m, offset) ↔
        ctx.mappings.filter (·.contains address) = [m] ∧
          ∃ base, m.base = some base ∧ address = base + offset ∧ offset < m.size) ∧
      (ctx.finish.find? address = none ↔ ∀ m ∈ ctx.mappings, m.contains address = false) := by
  intro ctx
  obtain ⟨hwired, hserves⟩ := run_wired config cs
  refine ⟨hwired, hserves, hwired.disjoint, (List.pairwise_append.1 hwired.ascending).2.1,
    fun c => ⟨fun haccepts => ?_, call_of_not_accepts⟩,
    fun address => ⟨fun m offset => DeviceMap.find?_eq_some_iff hwired.apart, DeviceMap.find?_eq_none_iff⟩⟩
  refine ⟨ctx.mapped c.entry c.device, mapped_serves hwired haccepts, rfl, ?_⟩
  rw [call_of_accepts haccepts, AttachContext.enter, mapped_lines haccepts.lines]

/-- A card gets two lines of three.  The next one refuses, so the line that it was given is free again; one that
needs two lines, and a memory in the range of the card, get nothing.  A memory behind the card is found there. -/
theorem calls_wired_through_failures :
    let config : Config := { mmioBase := 0x1000, mmioSize := 0x100, interruptLines := 3 }
    let card (id : UInt64) (lines : Nat) (refusal : Option Fault) : Device :=
      .probe ⟨⟨id⟩, "card", 16, 0, false, lines, false, refusal, none, none⟩
    let hw : Hardware := ⟨[card 1 2 none, card 2 1 (some ⟨"no"⟩), card 3 2 none, .ram (.new ⟨4⟩ 32 0)], []⟩
    let attach (index : Nat) (id : UInt64) (address : Nat) : Call :=
      ⟨⟨0⟩, true, ⟨⟨⟨index⟩, ⟨id⟩⟩, ⟨1⟩, some address, 0⟩, hw⟩
    let ctx := (new config).calls [attach 0 1 0, attach 1 2 16, attach 2 3 16, attach 3 4 8, attach 3 4 16]
    let memory : Mapping := ⟨⟨⟨3⟩, ⟨4⟩⟩, some 0x1010, 32, []⟩
    ctx.mappings = [⟨⟨⟨0⟩, ⟨1⟩⟩, some 0x1000, 16, [1, 2]⟩, memory] ∧ ctx.freeLines = [3] ∧
      ctx.finish.find? 0x1012 = some (memory, 2) ∧ ctx.finish.find? 0x1030 = none := by
  intro config card hw attach ctx memory
  have hmappings : ctx.mappings = [⟨⟨⟨0⟩, ⟨1⟩⟩, some 0x1000, 16, [1, 2]⟩, memory] := by decide
  have hfree : ctx.freeLines = [3] := by decide
  have hfind := (calls_wired config
    [attach 0 1 0, attach 1 2 16, attach 2 3 16, attach 3 4 8, attach 3 4 16]).2.2.2.2.2
  have hfound : ctx.finish.find? 0x1012 = some (memory, 2) := by
    refine ((hfind 0x1012).1 memory 2).2 ⟨?_, 0x1010, rfl, rfl, by decide⟩
    show ctx.mappings.filter (·.contains 0x1012) = [memory]
    rw [hmappings]
    decide
  refine ⟨hmappings, hfree, hfound, (hfind 0x1030).2.2 ?_⟩
  show ∀ m ∈ ctx.mappings, m.contains 0x1030 = false
  rw [hmappings]
  decide

end AttachContext

end DeviceBus
