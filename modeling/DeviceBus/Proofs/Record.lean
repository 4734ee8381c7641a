import DeviceBus.Emulator
import DeviceBus.Proofs.Json.RoundTrip
import DeviceBus.Record
import Mathlib.Data.List.Basic

/-!
# Records are read back

What a record file and the state of an emulator hold is read back as it was written:

    Record.decode r.encode = r                                     (decode_encode, files_round_trip)
    DemoMachine.restore m.save = .ok m                              (DemoMachine.restore_save)
    e.restore m.save = .ok restored,  restored.save = m.save       (ScriptedEmulator.restore_save)

A record has seven sections.  Each is read from the document that was written for it, so the record is
put together from seven readings.
-/

namespace DeviceBus

namespace Json

/-! ## Values -/

theorem nat?_ofNat {bits n : Nat} (h : n < 2 ^ bits) : nat? bits (.ofNat n) = some n := by
  have hbound : 0 ≤ (n : Int) ∧ (n : Int) ≤ ((1 <<< bits : Nat) : Int) - 1 := by
    rw [Nat.one_shiftLeft]
    omega
  have hread : int? 0 ((1 <<< bits : Nat) - 1) (.ofNat n) = some (n : Int) := by
    rw [Json.ofNat, int?, Numeral.int?_ofNat, Option.filter_some,
      if_pos (by simpa using hbound)]
  rw [nat?, hread, Option.map_some, Int.toNat_natCast]

theorem byte?_ofNat (b : UInt8) : byte? (.ofNat b.toNat) = some b := by
  rw [byte?, nat?_ofNat b.toNat_lt, Option.map_some, UInt8.ofNat_toNat]

theorem word32?_ofNat (n : UInt32) : word32? (.ofNat n.toNat) = some n := by
  rw [word32?, nat?_ofNat n.toNat_lt, Option.map_some, UInt32.ofNat_toNat]

theorem word64?_ofNat (n : UInt64) : word64? (.ofNat n.toNat) = some n := by
  rw [word64?, nat?_ofNat n.toNat_lt, Option.map_some, UInt64.ofNat_toNat]

theorem text?_ofText (s : String) : text? (.ofText s) = some s := Bytes.text?_ofText s

/-- Items that are read one by one are read as a list. -/
theorem mapM_map {α β : Type} {read : β → Option α} {write : α → β} {items : List α}
    (h : ∀ a ∈ items, read (write a) = some a) : (items.map write).mapM read = some items := by
  induction items with
  | nil => rfl
  | cons a items ih =>
    have hlater := ih fun b hb => h b (List.mem_cons_of_mem a hb)
    simp [h a (by simp), hlater]

theorem list?_map {α : Type} {read : Json → Option α} {write : α → Json} {items : List α}
    (h : ∀ a ∈ items, read (write a) = some a) : list? read (.array (items.map write)) = some items :=
  mapM_map h

theorem bytes?_ofBytes (bs : Bytes) : bytes? (.ofBytes bs) = some bs :=
  list?_map fun b _ => byte?_ofNat b

theorem option?_ofOption {α : Type} {read : Json → Option α} {write : α → Json}
    (h : ∀ a, read (write a) = some a) (hnull : ∀ a, write a ≠ .null) (a : Option α) :
    option? read (.ofOption write a) = some a := by
  cases a with
  | none => rfl
  | some a =>
    have hsome := h a
    have hne := hnull a
    show option? read (write a) = _
    generalize write a = j at hsome hne
    cases j with
    | null => exact absurd rfl hne
    | _ => simp [option?, hsome]

/-! ## Plain and regular documents -/

theorem isPlain_ofBytes (bs : Bytes) : (Json.ofBytes bs).IsPlain := by
  refine .array fun v hv => ?_
  obtain ⟨b, -, rfl⟩ := List.mem_map.1 hv
  exact .number (Nat.lt_of_lt_of_le b.toNat_lt (by decide))

/-- A number is rounded up by less than one unit of its last place. -/
theorem nearestDouble_le (n : Nat) : Numeral.nearestDouble n ≤ n + 2 ^ (n.log2 - 52) := by
  have hdiv := Nat.div_mul_le_self n (1 <<< (n.log2 - 52))
  rw [Nat.one_shiftLeft] at hdiv
  unfold Numeral.nearestDouble
  dsimp only
  rw [Nat.one_shiftLeft]
  split
  · exact Nat.le_trans hdiv (Nat.le_add_right _ _)
  · rw [Nat.add_mul, Nat.one_mul]
    exact Nat.add_le_add_right hdiv _

theorem isFinite_ofNat {n : Nat} (h : n < 2 ^ 64) : (Numeral.ofNat n).isFinite = true := by
  have hleading : Numeral.significand n = (n, 0) := by
    rw [Numeral.significand, if_pos (by rwa [Nat.one_shiftLeft])]
  have hunit : 2 ^ (n.log2 - 52) ≤ 2 ^ 11 := by
    refine Nat.pow_le_pow_right (by decide) ?_
    by_cases hzero : n = 0
    · rw [hzero]
      decide
    · have hlog := (Nat.log2_lt hzero).2 h
      omega
  have hone : Numeral.nearestDouble (Nat.pow 10 0) = 1 := by decide
  have hbound : 2 ^ 65 < Numeral.doubleBound := by decide
  have hnearest := nearestDouble_le n
  have hfinite : Numeral.nearestDouble n * Numeral.nearestDouble (Nat.pow 10 0) < Numeral.doubleBound := by
    rw [hone, Nat.mul_one]
    omega
  unfold Numeral.isFinite Numeral.ofNat
  simp only [hleading, Nat.cast_zero, Int.add_zero, Int.toNat_zero, hfinite, decide_true, Bool.and_true]
  simp

theorem isRegular_ofNat (depth : Nat) {n : Nat} (h : n < 2 ^ 64) :
    isRegular depth (.ofNat n) = true := by
  cases depth <;> exact isFinite_ofNat h

theorem isRegular_ofText (depth : Nat) (s : String) : isRegular depth (.ofText s) = true := by
  have htext : (Bytes.text? (Bytes.ofText s)).isSome = true := by rw [Bytes.text?_ofText]; rfl
  cases depth <;> exact htext

theorem isRegular_ofBytes (depth : Nat) (bs : Bytes) :
    isRegular (depth + 1) (.ofBytes bs) = true := by
  show (bs.map fun b => Json.ofNat b.toNat).all (isRegular depth) = true
  rw [List.all_eq_true]
  intro v hv
  obtain ⟨b, -, rfl⟩ := List.mem_map.1 hv
  exact isRegular_ofNat depth (Nat.lt_of_lt_of_le b.toNat_lt (by decide))

/-! ## Names of devices -/

theorem utf8EncodeChar_of_isDigit {c : Char} (h : c.isDigit = true) :
    String.utf8EncodeChar c = [UInt8.ofNat c.toNat] := by
  have hrange := Char.isDigit_iff_toNat.1 h
  have hsize : c.utf8Size = 1 := by
    rw [Char.utf8Size_eq_one_iff, UInt32.le_iff_toNat_le]
    exact Nat.le_trans hrange.2 (by decide)
  rw [String.utf8EncodeChar_eq_singleton hsize]
  rfl

/-- The digits of a number are a text. -/
theorem decimal_eq_ofText (n : Nat) : decimal n = Bytes.ofText (toString n) := by
  have hchars : ∀ c ∈ Nat.toDigits 10 n, String.utf8EncodeChar c = [UInt8.ofNat c.toNat] :=
    fun c hc => utf8EncodeChar_of_isDigit (Nat.isDigit_of_mem_toDigits (by decide) (by decide) hc)
  have hencode : (Nat.toDigits 10 n).flatMap String.utf8EncodeChar = decimal n := by
    rw [List.flatMap_congr hchars, decimal, List.map_eq_flatMap]
  rw [Nat.toString_eq_ofList_toDigits, Bytes.ofText, String.toByteArray_ofList, List.utf8Encode,
    List.data_toByteArray, hencode]

/-- No text of two digits or more starts with a zero. -/
theorem head_decimal {n : Nat} (h : 10 ≤ n) :
    ∃ d, 0 < d ∧ d < 10 ∧ ∃ b tail, decimal n = digitByte d :: b :: tail := by
  induction n using Nat.strongRecOn with
  | ind n ih =>
    rw [decimal_of_le h]
    by_cases hone : n / 10 < 10
    · exact ⟨n / 10, by omega, hone, digitByte (n % 10), [], by rw [decimal_of_lt hone]; rfl⟩
    · obtain ⟨d, hpos, hd, b, tail, htail⟩ := ih (n / 10) (by omega) (by omega)
      exact ⟨d, hpos, hd, b, tail ++ [digitByte (n % 10)], by rw [htail]; rfl⟩

theorem mem_decimal {n : Nat} {b : UInt8} (h : b ∈ decimal n) : ∃ d < 10, b = digitByte d := by
  induction n using Nat.strongRecOn with
  | ind n ih =>
    by_cases hone : n < 10
    · rw [decimal_of_lt hone, List.mem_singleton] at h
      exact ⟨n, hone, h⟩
    · rw [decimal_of_le (by omega), List.mem_append, List.mem_singleton] at h
      rcases h with h | h
      · exact ih (n / 10) (by omega) h
      · exact ⟨n % 10, by omega, h⟩

end Json

namespace Record

open Json (decimal digitByte)

theorem toNat_digitByte {d : Nat} (h : d < 10) : (digitByte d).toNat = 0x30 + d := by
  simp [digitByte]
  omega

/-- The digits of a number are written as a name must be. -/
theorem isDecimal_decimal (n : Nat) : isDecimal (decimal n) = true := by
  by_cases hone : n < 10
  · have hall : ∀ n, n < 10 → isDecimal [digitByte n] = true := by decide
    rw [Json.decimal_of_lt hone]
    exact hall n hone
  · obtain ⟨d, hpos, hd, b, tail, htail⟩ := Json.head_decimal (n := n) (by omega)
    have hfirst : ∀ d, d < 10 → 0 < d → (0x31 ≤ digitByte d && digitByte d ≤ 0x39) = true := by decide
    have hother : ∀ d, d < 10 → (0x30 ≤ digitByte d && digitByte d ≤ 0x39) = true := by decide
    have hrest : (b :: tail).all (fun b => 0x30 ≤ b && b ≤ 0x39) = true := by
      rw [List.all_eq_true]
      intro c hc
      have hmem : c ∈ decimal n := by rw [htail]; exact List.mem_cons_of_mem _ hc
      obtain ⟨e, he, rfl⟩ := Json.mem_decimal hmem
      exact hother e he
    rw [htail]
    simp only [isDecimal, hfirst d hd hpos, hrest, Bool.and_self]

theorem foldl_decimal (n : Nat) :
    (decimal n).foldl (fun n b => 10 * n + (b.toNat - 0x30)) 0 = n := by
  induction n using Nat.strongRecOn with
  | ind n ih =>
    by_cases hone : n < 10
    · rw [Json.decimal_of_lt hone]
      simp [toNat_digitByte hone]
    · rw [Json.decimal_of_le (by omega), List.foldl_append, ih (n / 10) (by omega)]
      simp only [List.foldl_cons, List.foldl_nil, toNat_digitByte (Nat.mod_lt n (by decide : 0 < 10))]
      omega

theorem deviceId?_decimal (id : DeviceId) : deviceId? (decimal id.value.toNat) = some id := by
  have hlt : id.value.toNat < UInt64.size := id.value.toNat_lt
  simp only [deviceId?, isDecimal_decimal, if_true, foldl_decimal, if_pos hlt, UInt64.ofNat_toNat]

/-! ## Sections -/

theorem elementId?_ofNat (id : ElementId) : elementId? (.ofNat id.value.toNat) = some id := by
  rw [elementId?, Json.word64?_ofNat]
  rfl

/-- The fields of an object stay all if no key comes twice. -/
theorem lastFields_of_nodup {fields : List (Bytes × Json)} (h : (fields.map (·.1)).Nodup) :
    Json.lastFields fields = fields := by
  induction fields with
  | nil => rfl
  | cons f fields ih =>
    rw [List.map_cons, List.nodup_cons] at h
    have hnot : fields.any (·.1 = f.1) = false := by
      rw [List.any_eq_false]
      intro g hg hkey
      exact h.1 (List.mem_map.2 ⟨g, hg, by simpa using hkey⟩)
    rw [Json.lastFields, hnot, ih h.2]
    rfl

/-- The field that the state of a device is written in. -/
def deviceField (e : DeviceId × Bytes) : Bytes × Json := (decimal e.1.value.toNat, .ofBytes e.2)

theorem deviceState?_deviceField (e : DeviceId × Bytes) : deviceState? (deviceField e) = some e := by
  simp [deviceState?, deviceField, deviceId?_decimal, Json.bytes?_ofBytes]

/-- No two devices of a table are written under one key. -/
theorem nodup_deviceKeys (devices : Table DeviceId Bytes) :
    ((devices.entries.map deviceField).map (·.1)).Nodup := by
  rw [List.map_map]
  refine (List.pairwise_map.2 (devices.ordered.imp ?_))
  intro a b hlt heq
  have hvalue := congrArg (List.foldl (fun n b => 10 * n + (b.toNat - 0x30)) 0) heq
  simp only [Function.comp_apply, deviceField, foldl_decimal] at hvalue
  exact Nat.ne_of_lt hlt hvalue

theorem devices?_devicesToJson (devices : Table DeviceId Bytes) :
    devices? (devicesToJson devices) = some devices := by
  show ((Json.lastFields (devices.entries.map deviceField)).mapM deviceState?).map Table.ofList = _
  rw [lastFields_of_nodup (nodup_deviceKeys devices),
    Json.mapM_map fun e _ => deviceState?_deviceField e, Option.map_some, Table.ofList_entries]

/-- A section is read if its key comes once and its value can be read. -/
theorem readSection_of_mem {α : Type} {fields : List (String × Json)}
    (hnodup : (fields.map (·.1)).Nodup) {key : String} {j : Json} (h : (key, j) ∈ fields)
    {read : Json → Option α} {a : α} (hread : read j = some a) (missing : α) :
    readSection (fields.map fun f => (Bytes.ofText f.1, f.2)) key missing read = a := by
  have hlookup : (fields.map fun f => (Bytes.ofText f.1, f.2)).reverse.lookup (Bytes.ofText key) =
      some j := by
    obtain ⟨before, behind, hsplit⟩ := List.append_of_mem h
    rw [List.lookup_eq_some_iff]
    refine ⟨(behind.map fun f => (Bytes.ofText f.1, f.2)).reverse,
      (before.map fun f => (Bytes.ofText f.1, f.2)).reverse, by simp [hsplit], ?_⟩
    intro p hp
    rw [List.mem_reverse, List.mem_map] at hp
    obtain ⟨f, hf, rfl⟩ := hp
    rw [hsplit, List.map_append, List.map_cons, List.nodup_append, List.nodup_cons] at hnodup
    have hne : key ≠ f.1 := fun he => hnodup.2.1.1 (List.mem_map.2 ⟨f, hf, he.symm⟩)
    simpa using fun he => hne (Bytes.ofText_inj he)
  rw [readSection, hlookup]
  show (read j).getD missing = a
  rw [hread]
  rfl

/-! ## Records -/

/-- The sections of a record. -/
def sections (r : Record) : List (String × Json) := [
  ("elements", .array (r.elements.map fun id => .ofNat id.value.toNat)),
  ("devices", devicesToJson r.devices),
  ("run_state", .ofNat r.runState.toNat),
  ("bus_state", .ofNat r.busState.toNat),
  ("boot_error", .ofOption .ofText r.bootError),
  ("terminal", .ofBytes r.terminal),
  ("emulation", .ofBytes r.emulation)]

theorem toJson_eq (r : Record) : r.toJson = .ofFields r.sections := rfl

theorem nodup_sections (r : Record) : (r.sections.map (·.1)).Nodup := by
  show ["elements", "devices", "run_state", "bus_state", "boot_error", "terminal",
    "emulation"].Nodup
  decide

/-- What holds of the values that the parts of a record are saved as holds in every section. -/
theorem forall_sections (r : Record) {P : Json → Prop}
    (helements : P (.array (r.elements.map fun id => .ofNat id.value.toNat)))
    (hdevices : P (devicesToJson r.devices)) (hbyte : ∀ b : UInt8, P (.ofNat b.toNat))
    (hnull : P .null) (htext : ∀ text, P (.ofText text)) (hbytes : ∀ bytes, P (.ofBytes bytes)) :
    ∀ f ∈ r.sections, P f.2 := by
  have herror : P (.ofOption .ofText r.bootError) := by
    cases r.bootError with
    | none => exact hnull
    | some error => exact htext error
  intro f hf
  simp only [sections, List.mem_cons, List.not_mem_nil, or_false] at hf
  rcases hf with rfl | rfl | rfl | rfl | rfl | rfl | rfl
  · exact helements
  · exact hdevices
  · exact hbyte r.runState
  · exact hbyte r.busState
  · exact herror
  · exact hbytes r.terminal
  · exact hbytes r.emulation

theorem isPlain_devicesToJson (devices : Table DeviceId Bytes) : (devicesToJson devices).IsPlain := by
  refine .object fun f hf => ?_
  obtain ⟨e, -, rfl⟩ := List.mem_map.1 hf
  exact Json.isPlain_ofBytes e.2

theorem isPlain_toJson (r : Record) : r.toJson.IsPlain := by
  have helements : (Json.array (r.elements.map fun id => .ofNat id.value.toNat)).IsPlain := by
    refine .array fun v hv => ?_
    obtain ⟨id, -, rfl⟩ := List.mem_map.1 hv
    exact .number id.value.toNat_lt
  have hsections := r.forall_sections helements (isPlain_devicesToJson r.devices)
    (fun b => .number (Nat.lt_of_lt_of_le b.toNat_lt (by decide))) .null (fun _ => .string _)
    Json.isPlain_ofBytes
  rw [toJson_eq]
  refine .object fun f hf => ?_
  obtain ⟨g, hg, rfl⟩ := List.mem_map.1 hf
  exact hsections g hg

theorem isRegular_devicesToJson (depth : Nat) (devices : Table DeviceId Bytes) :
    Json.isRegular (depth + 2) (devicesToJson devices) = true := by
  show (devices.entries.map deviceField).all
    (fun f => (Bytes.text? f.1).isSome && Json.isRegular (depth + 1) f.2) = true
  rw [List.all_eq_true]
  intro f hf
  obtain ⟨e, -, rfl⟩ := List.mem_map.1 hf
  have hkey : (Bytes.text? (decimal e.1.value.toNat)).isSome = true := by
    rw [Json.decimal_eq_ofText, Bytes.text?_ofText]
    rfl
  rw [Bool.and_eq_true]
  exact ⟨hkey, Json.isRegular_ofBytes depth e.2⟩

/-- A record nests far less deep than a file may. -/
theorem isRegular_toJson (r : Record) (depth : Nat) : Json.isRegular (depth + 3) r.toJson = true := by
  have helements : Json.isRegular (depth + 2)
      (.array (r.elements.map fun id => .ofNat id.value.toNat)) = true := by
    show (r.elements.map fun id => Json.ofNat id.value.toNat).all (Json.isRegular (depth + 1)) = true
    rw [List.all_eq_true]
    intro v hv
    obtain ⟨id, -, rfl⟩ := List.mem_map.1 hv
    exact Json.isRegular_ofNat _ id.value.toNat_lt
  have hsections := r.forall_sections (P := fun j => Json.isRegular (depth + 2) j = true) helements
    (isRegular_devicesToJson depth r.devices)
    (fun b => Json.isRegular_ofNat _ (Nat.lt_of_lt_of_le b.toNat_lt (by decide))) rfl
    (Json.isRegular_ofText _) (Json.isRegular_ofBytes _)
  show ((r.sections.map fun f => (Bytes.ofText f.1, f.2)).all
    fun f => (Bytes.text? f.1).isSome && Json.isRegular (depth + 2) f.2) = true
  rw [List.all_eq_true]
  intro f hf
  obtain ⟨g, hg, rfl⟩ := List.mem_map.1 hf
  have hkey : (Bytes.text? (Bytes.ofText g.1)).isSome = true := by
    rw [Bytes.text?_ofText]
    rfl
  rw [Bool.and_eq_true]
  exact ⟨hkey, hsections g hg⟩

theorem ofFields_sections (r : Record) :
    ofFields (r.sections.map fun f => (Bytes.ofText f.1, f.2)) = r := by
  have hsection {α : Type} {key : String} {j : Json} (h : (key, j) ∈ r.sections)
      {read : Json → Option α} {a : α} (hread : read j = some a) (missing : α) :=
    readSection_of_mem r.nodup_sections h hread missing
  unfold ofFields
  rw [hsection (j := .array (r.elements.map fun id => .ofNat id.value.toNat)) (by simp [sections])
      (Json.list?_map fun id _ => elementId?_ofNat id) [],
    hsection (j := devicesToJson r.devices) (by simp [sections])
      (devices?_devicesToJson r.devices) .empty,
    hsection (j := .ofNat r.runState.toNat) (by simp [sections]) (Json.byte?_ofNat r.runState) 0,
    hsection (j := .ofNat r.busState.toNat) (by simp [sections]) (Json.byte?_ofNat r.busState) 0,
    hsection (j := .ofOption .ofText r.bootError) (by simp [sections])
      (Json.option?_ofOption Json.text?_ofText (fun _ h => by cases h) r.bootError) none,
    hsection (j := .ofBytes r.terminal) (by simp [sections]) (Json.bytes?_ofBytes r.terminal) [],
    hsection (j := .ofBytes r.emulation) (by simp [sections]) (Json.bytes?_ofBytes r.emulation) []]

/-- A record file holds the record that it was written for. -/
theorem decode_encode (r : Record) : decode r.encode = r := by
  have hparse : Json.parse? r.encode = some r.toJson := Json.parse?_pretty r.isPlain_toJson 0
  have hregular : Json.isRegular maxDepth r.toJson = true := r.isRegular_toJson 124
  rw [toJson_eq] at hparse hregular
  unfold decode
  rw [hparse]
  simp only [Json.ofFields] at hregular ⊢
  rw [if_pos hregular, ofFields_sections]

/-- Every record is read back from its file.  So a file that was written for what could be read of another
one holds just that, and no two records share a file. -/
theorem files_round_trip : (∀ r : Record, decode r.encode = r) ∧
    (∀ file, decode (decode file).encode = decode file) ∧ Function.Injective encode := by
  refine ⟨decode_encode, fun file => decode_encode (decode file), ?_⟩
  have hinverse : Function.LeftInverse decode encode := decode_encode
  exact hinverse.injective

end Record

/-! ## Emulators -/

namespace DemoMachine

theorem isPlain_toJson (m : DemoMachine) : m.toJson.IsPlain := by
  refine .object fun f hf => ?_
  obtain ⟨g, hg, rfl⟩ := List.mem_map.1 hf
  simp only [List.mem_cons, List.not_mem_nil, or_false] at hg
  rcases hg with rfl | rfl | rfl | rfl
  · exact .number (Nat.lt_of_lt_of_le m.boots.toNat_lt (by decide))
  · exact .number m.cycles.toNat_lt
  · exact .number m.echoed.toNat_lt
  · exact Json.isPlain_ofBytes m.outbox

theorem ofJson?_toJson (m : DemoMachine) : ofJson? m.toJson = some m := by
  simp [ofJson?, toJson, Json.ofFields, Json.members?, Json.namedMembers?, Bytes.text?_ofText,
    Json.Members.get?, Json.Members.required?, Json.word32?_ofNat, Json.word64?_ofNat,
    Json.bytes?_ofBytes]

/-- The demo machine takes over what it saved. -/
theorem restore_save (m : DemoMachine) : restore m.save = .ok m := by
  have hparse : Json.parse? m.save = some m.toJson := Json.parse?_compact m.isPlain_toJson
  rw [restore, hparse, Option.bind_some, ofJson?_toJson]

end DemoMachine

namespace ScriptedEmulator

/-- A scripted emulator takes over what another one saved that passes its calls on to the same emulator of the
host, or like it to none, and saves it unchanged. -/
theorem restore_save {e m : ScriptedEmulator} (h : e.host.map Prod.fst = m.host.map Prod.fst) :
    ∃ restored, e.restore m.save = .ok restored ∧ restored.save = m.save := by
  cases hm : m.host with
  | none =>
    have he : e.host = none := by simpa [hm] using h
    have hsave : m.save = Bytes.writeLE 8 m.cycles.toNat := by rw [save, hm]
    refine ⟨{ e with cycles := m.cycles }, ?_, ?_⟩
    · have hcycles : m.cycles.toNat % Nat.pow 256 8 = m.cycles.toNat :=
        Nat.mod_eq_of_lt m.cycles.toNat_lt
      rw [hsave, restore, he]
      dsimp only
      rw [if_pos (Bytes.length_writeLE 8 _), Bytes.readLE_writeLE, hcycles, UInt64.ofNat_toNat]
    · rw [hsave, save, he]
  | some p =>
    obtain ⟨host, state⟩ := p
    obtain ⟨own, he⟩ : ∃ own, e.host = some (host, own) := by simpa [hm] using h
    have hsave : m.save = host.save state := by rw [save, hm]
    obtain ⟨restored, hrestore, hsaved⟩ := host.restore_save state own
    refine ⟨{ e with host := some (host, restored) }, ?_, ?_⟩
    · rw [hsave, restore, he]
      dsimp only
      rw [hrestore]
      rfl
    · rw [hsave]
      exact hsaved

theorem save_ne_nil (e : ScriptedEmulator) : e.save ≠ [] := by
  unfold save
  split
  · next host state _ => exact host.save_ne_nil state
  · intro h
    have hlength := Bytes.length_writeLE 8 e.cycles.toNat
    rw [h] at hlength
    cases hlength

end ScriptedEmulator

end DeviceBus
