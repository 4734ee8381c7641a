import DeviceBus.Proofs.Record
import Mathlib.Data.List.Forall2
import Mathlib.Data.List.Induction

/-!
# Sections of a record file

What a section of a record file has to hold is said without its reader: a number that is written as such and
is not too large (`Json.IsNat`), a list all of whose items are right (`Json.IsList`), a text or nothing
(`Json.IsTextOrNull`), and states of devices under their numbers (`Record.IsDevices`).  The readers take what
is right for what it says, and refuse everything else (`Section.read_eq_some_iff`).

So each field of a record is told by the last value under its own key (`sections_independent`), though the
sections are taken one by one out of what the others left (`takeSections_eq`).
-/

namespace DeviceBus

namespace Json

/-! ## What a document says -/

/-- A natural number of at most so many bits, without a sign, a fraction and an exponent. -/
inductive IsNat (bits : Nat) : Json → Nat → Prop where
  | whole {n : Nat} (h : n < 2 ^ bits) (exponent : Int) : IsNat bits (.number ⟨false, n, exponent, true⟩) n

/-- A byte. -/
def IsByte (j : Json) (b : UInt8) : Prop := IsNat 8 j b.toNat

/-- A list, all of whose items are right. -/
inductive IsList {α : Type} (Is : Json → α → Prop) : Json → List α → Prop where
  | array {items : List Json} {as : List α} (h : List.Forall₂ Is items as) : IsList Is (.array items) as

/-- A text, or nothing. -/
inductive IsTextOrNull : Json → Option String → Prop where
  | null : IsTextOrNull .null none
  | text (s : String) : IsTextOrNull (.ofText s) (some s)

/-- The value is the last under its key. -/
def IsLast (fields : List (Bytes × Json)) (key : Bytes) (j : Json) : Prop :=
  ∃ before after, fields = before ++ (key, j) :: after ∧ ∀ f ∈ after, f.1 ≠ key

section

variable {α : Type} {bits : Nat} {j : Json}

theorem nat?_eq_some_iff {n : Nat} : nat? bits j = some n ↔ IsNat bits j n := by
  have hbound (i : Int) : (decide (0 ≤ i) && decide (i ≤ ((1 <<< bits : Nat) : Int) - 1)) = true ↔
      0 ≤ i ∧ i < (2 ^ bits : Nat) := by
    rw [Nat.one_shiftLeft, Bool.and_eq_true, decide_eq_true_iff, decide_eq_true_iff]
    omega
  constructor
  · intro h
    obtain ⟨i, hi, rfl⟩ := Option.map_eq_some_iff.mp h
    cases j with
    | number v =>
      obtain ⟨hread, hrange⟩ := Option.filter_eq_some_iff.mp hi
      obtain ⟨hpos, hlt⟩ := (hbound i).mp hrange
      obtain ⟨negative, mantissa, exponent, isWhole⟩ := v
      cases isWhole with
      | false => cases hread
      | true =>
        cases negative with
        | false =>
          obtain rfl : (mantissa : Int) = i := Option.some.inj hread
          exact .whole (by omega) exponent
        | true =>
          -- a sign says a number below zero, or none at all
          unfold Numeral.int? at hread
          by_cases hzero : mantissa = 0
          · simp [hzero] at hread
          · simp [hzero] at hread
            omega
    | _ => cases hi
  · rintro ⟨h, exponent⟩
    have hwhole : (Numeral.mk false n exponent true).int? = some (n : Int) := rfl
    have hread : int? 0 ((1 <<< bits : Nat) - 1) (.number ⟨false, n, exponent, true⟩) = some (n : Int) := by
      rw [int?, hwhole, Option.filter_some, if_pos ((hbound n).mpr (by omega))]
    rw [nat?, hread, Option.map_some, Int.toNat_natCast]

/-- A number that is kept in a type of just as many bits. -/
theorem map_nat?_eq_some_iff {ofNat : Nat → α} {toNat : α → Nat} (hleft : ∀ a, ofNat (toNat a) = a)
    (hright : ∀ n < 2 ^ bits, toNat (ofNat n) = n) {a : α} :
    (nat? bits j).map ofNat = some a ↔ IsNat bits j (toNat a) := by
  rw [Option.map_eq_some_iff]
  constructor
  · rintro ⟨n, hn, rfl⟩
    have hnat := nat?_eq_some_iff.mp hn
    have hlt : n < 2 ^ bits := by
      obtain ⟨hlt, -⟩ := hnat
      exact hlt
    rw [hright n hlt]
    exact hnat
  · intro h
    exact ⟨toNat a, nat?_eq_some_iff.mpr h, hleft a⟩

theorem byte?_eq_some_iff {b : UInt8} : byte? j = some b ↔ IsByte j b :=
  map_nat?_eq_some_iff (fun _ => UInt8.ofNat_toNat) fun _ => UInt8.toNat_ofNat_of_lt'

theorem word64?_eq_some_iff {n : UInt64} : word64? j = some n ↔ IsNat 64 j n.toNat :=
  map_nat?_eq_some_iff (fun _ => UInt64.ofNat_toNat) fun _ => UInt64.toNat_ofNat_of_lt'

theorem mapM_eq_some_iff {β : Type} {read : β → Option α} {items : List β} {as : List α} :
    items.mapM read = some as ↔ List.Forall₂ (fun v a => read v = some a) items as := by
  induction items generalizing as with
  | nil => simp [List.forall₂_nil_left_iff, eq_comm]
  | cons v items ih =>
    rw [List.mapM_cons]
    constructor
    · intro h
      obtain ⟨a, ha, h⟩ := Option.bind_eq_some_iff.mp h
      obtain ⟨rest, hrest, h⟩ := Option.bind_eq_some_iff.mp h
      obtain rfl := Option.some.inj h
      exact .cons ha (ih.mp hrest)
    · rintro (_ | ⟨ha, hrest⟩)
      simp [ha, ih.mpr hrest]

section

variable {β : Type} {read : β → Option α} {items : List β}

theorem mem_of_mapM {as : List α} (h : items.mapM read = some as) (a : α) :
    a ∈ as ↔ ∃ v ∈ items, read v = some a := by
  rw [mapM_eq_some_iff] at h
  induction h with
  | nil => simp
  | @cons v b items as hread _ ih =>
    rw [List.mem_cons, ih]
    constructor
    · rintro (rfl | ⟨w, hw, hread'⟩)
      · exact ⟨v, List.mem_cons_self, hread⟩
      · exact ⟨w, List.mem_cons_of_mem _ hw, hread'⟩
    · rintro ⟨w, hw, hread'⟩
      rcases List.mem_cons.mp hw with rfl | hw
      · exact .inl (Option.some.inj (hread'.symm.trans hread))
      · exact .inr ⟨w, hw, hread'⟩

theorem exists_mapM : (∃ as, items.mapM read = some as) ↔ ∀ v ∈ items, ∃ a, read v = some a := by
  induction items with
  | nil => simp
  | cons v items ih =>
    rw [List.forall_mem_cons, ← ih]
    constructor
    · rintro ⟨as, has⟩
      rw [mapM_eq_some_iff] at has
      cases has with
      | cons ha hrest => exact ⟨⟨_, ha⟩, _, mapM_eq_some_iff.mpr hrest⟩
    · rintro ⟨⟨a, ha⟩, as, has⟩
      exact ⟨a :: as, by simp [ha, has]⟩

end

theorem list?_eq_some_iff {read : Json → Option α} {Is : Json → α → Prop}
    (h : ∀ v a, read v = some a ↔ Is v a) {as : List α} : list? read j = some as ↔ IsList Is j as := by
  constructor
  · intro hread
    cases j with
    | array items => exact .array ((mapM_eq_some_iff.mp hread).imp fun v a => (h v a).mp)
    | _ => cases hread
  · rintro ⟨hitems⟩
    exact mapM_eq_some_iff.mpr (hitems.imp fun v a => (h v a).mpr)

theorem bytes?_eq_some_iff {bs : Bytes} : bytes? j = some bs ↔ IsList IsByte j bs :=
  list?_eq_some_iff fun _ _ => byte?_eq_some_iff

theorem textOrNull?_eq_some_iff {s : Option String} : option? text? j = some s ↔ IsTextOrNull j s := by
  constructor
  · intro h
    cases j with
    | null =>
      obtain rfl := Option.some.inj h
      exact .null
    | string content =>
      obtain ⟨text, htext, rfl⟩ := Option.map_eq_some_iff.mp h
      obtain rfl := Bytes.text?_eq_some_iff.mp htext
      exact .text text
    | _ => cases h
  · rintro (_ | ⟨text⟩)
    · rfl
    · show (text? (.ofText text)).map some = some (some text)
      rw [text?_ofText]
      rfl

end

/-! ## Repeated keys -/

section

variable {fields : List (Bytes × Json)} {key : Bytes} {j : Json}

theorem lookup_eq_some_iff : fields.reverse.lookup key = some j ↔ IsLast fields key j := by
  rw [List.lookup_eq_some_iff]
  constructor
  · rintro ⟨after, before, hsplit, hnone⟩
    refine ⟨before.reverse, after.reverse, ?_, fun f hf => ?_⟩
    · rw [← List.reverse_reverse fields, hsplit]
      simp
    · exact (bne_iff_ne.mp (hnone f (List.mem_reverse.mp hf))).symm
  · rintro ⟨before, after, rfl, hnone⟩
    refine ⟨after.reverse, before.reverse, by simp, fun f hf => ?_⟩
    exact bne_iff_ne.mpr (hnone f (List.mem_reverse.mp hf)).symm

theorem lookup_eq_none_iff : fields.reverse.lookup key = none ↔ ∀ f ∈ fields, f.1 ≠ key := by
  rw [List.lookup_eq_none_iff]
  simp only [List.mem_reverse, bne_iff_ne]
  exact forall₂_congr fun _ _ => ne_comm

theorem IsLast.unique {j' : Json} (h : IsLast fields key j) (h' : IsLast fields key j') : j = j' := by
  rw [← lookup_eq_some_iff] at h h'
  exact Option.some.inj (h.symm.trans h')

/-- A field is the last of its key, or one behind it is. -/
theorem isLast_cons {f : Bytes × Json} : IsLast (f :: fields) key j ↔
    (f = (key, j) ∧ ∀ g ∈ fields, g.1 ≠ key) ∨ IsLast fields key j := by
  constructor
  · rintro ⟨_ | ⟨g, before⟩, after, hsplit, hnone⟩
    · obtain ⟨rfl, rfl⟩ := List.cons.inj hsplit
      exact .inl ⟨rfl, hnone⟩
    · obtain ⟨-, rfl⟩ := List.cons.inj hsplit
      exact .inr ⟨before, after, rfl, hnone⟩
  · rintro (⟨rfl, hnone⟩ | ⟨before, after, rfl, hnone⟩)
    · exact ⟨[], fields, rfl, hnone⟩
    · exact ⟨f :: before, after, rfl, hnone⟩

theorem mem_lastFields_iff : (key, j) ∈ lastFields fields ↔ IsLast fields key j := by
  induction fields with
  | nil => simp [lastFields, IsLast]
  | cons f fields ih =>
    rw [isLast_cons, ← ih, lastFields]
    split
    · next hany =>
      obtain ⟨g, hg, hkey⟩ := List.any_eq_true.mp hany
      refine ⟨.inr, ?_⟩
      rintro (⟨rfl, hnone⟩ | hmem)
      · exact absurd (of_decide_eq_true hkey) (hnone g hg)
      · exact hmem
    · next hnone =>
      have hnone : ∀ g ∈ fields, g.1 ≠ f.1 :=
        fun g hg hkey => hnone (List.any_eq_true.mpr ⟨g, hg, decide_eq_true hkey⟩)
      rw [List.mem_cons]
      refine or_congr_left ⟨?_, fun h => h.1.symm⟩
      rintro rfl
      exact ⟨rfl, hnone⟩

end

end Json

namespace Table

/-- A table of pairs that give no key two values. -/
theorem get?_ofList_eq_some_iff {κ ν : Type} [Key κ] {l : List (κ × ν)}
    (h : ∀ k v v', (k, v) ∈ l → (k, v') ∈ l → v = v') {k : κ} {v : ν} :
    (ofList l).get? k = some v ↔ (k, v) ∈ l := by
  induction l using List.reverseRecOn with
  | nil => simp [ofList]
  | append_singleton l e ih =>
    have hinsert : ofList (l ++ [e]) = (ofList l).insert e.1 e.2 := by simp [ofList]
    rw [hinsert, get?_insert]
    split
    · next hindex =>
      obtain rfl : e.1 = k := Key.index_inj hindex
      have hmem : (e.1, e.2) ∈ l ++ [e] := List.mem_append_right _ List.mem_cons_self
      rw [Option.some.injEq]
      refine ⟨?_, fun hv => h _ _ _ hmem hv⟩
      rintro rfl
      exact hmem
    · next hindex =>
      have hne : (k, v) ≠ e := by
        rintro rfl
        exact hindex rfl
      rw [ih fun k v v' hv hv' => h k v v' (List.mem_append_left _ hv) (List.mem_append_left _ hv'),
        List.mem_append, List.mem_singleton, or_iff_left hne]

end Table

namespace Record

open Json (IsNat IsByte IsList IsTextOrNull IsLast decimal digitByte)

/-! ## Keys of devices -/

/-- The number that digits write. -/
def digitsValue (key : Bytes) : Nat := key.foldl (fun n b => 10 * n + (b.toNat - 0x30)) 0

theorem digitByte_of_isDigit {b : UInt8} (h : (0x30 ≤ b && b ≤ 0x39) = true) :
    b.toNat - 0x30 < 10 ∧ digitByte (b.toNat - 0x30) = b := by
  rw [Bool.and_eq_true, decide_eq_true_iff, decide_eq_true_iff, UInt8.le_iff_toNat_le,
    UInt8.le_iff_toNat_le] at h
  obtain ⟨hlow, hhigh⟩ : 0x30 ≤ b.toNat ∧ b.toNat ≤ 0x39 := h
  refine ⟨by omega, ?_⟩
  rw [digitByte, Nat.add_sub_cancel' hlow, UInt8.ofNat_toNat]

/-- Digits without a zero in front write a number that is written so. -/
theorem decimal_digitsValue {b : UInt8} {rest : Bytes} (hb : (0x31 ≤ b && b ≤ 0x39) = true)
    (hrest : ∀ c ∈ rest, (0x30 ≤ c && c ≤ 0x39) = true) :
    0 < digitsValue (b :: rest) ∧ decimal (digitsValue (b :: rest)) = b :: rest := by
  induction rest using List.reverseRecOn with
  | nil =>
    rw [Bool.and_eq_true, decide_eq_true_iff, decide_eq_true_iff, UInt8.le_iff_toNat_le,
      UInt8.le_iff_toNat_le] at hb
    obtain ⟨hlow, hhigh⟩ : 0x31 ≤ b.toNat ∧ b.toNat ≤ 0x39 := hb
    have hvalue : digitsValue [b] = b.toNat - 0x30 := Nat.zero_add _
    rw [hvalue, Json.decimal_of_lt (by omega), digitByte, Nat.add_sub_cancel' (by omega), UInt8.ofNat_toNat]
    exact ⟨by omega, rfl⟩
  | append_singleton rest c ih =>
    obtain ⟨hpos, hdecimal⟩ := ih fun d hd => hrest d (List.mem_append_left _ hd)
    obtain ⟨hdigit, hc⟩ := digitByte_of_isDigit (hrest c (List.mem_append_right _ List.mem_cons_self))
    have hvalue : digitsValue (b :: (rest ++ [c])) = 10 * digitsValue (b :: rest) + (c.toNat - 0x30) := by
      rw [digitsValue, ← List.cons_append, List.foldl_append]
      rfl
    have hinit : (10 * digitsValue (b :: rest) + (c.toNat - 0x30)) / 10 = digitsValue (b :: rest) := by omega
    have hlast : (10 * digitsValue (b :: rest) + (c.toNat - 0x30)) % 10 = c.toNat - 0x30 := by omega
    rw [hvalue, Json.decimal_of_le (by omega), hinit, hlast, hdecimal, hc]
    exact ⟨by omega, rfl⟩

theorem decimal_of_isDecimal {key : Bytes} (h : isDecimal key = true) : decimal (digitsValue key) = key := by
  unfold isDecimal at h
  split at h
  · cases h
  · next b =>
    obtain ⟨hdigit, hb⟩ := digitByte_of_isDigit h
    have hvalue : digitsValue [b] = b.toNat - 0x30 := Nat.zero_add _
    rw [hvalue, Json.decimal_of_lt hdigit, hb]
  · next b rest _ =>
    rw [Bool.and_eq_true, List.all_eq_true] at h
    exact (decimal_digitsValue h.1 h.2).2

theorem deviceId?_eq_some_iff {key : Bytes} {id : DeviceId} :
    deviceId? key = some id ↔ key = decimal id.value.toNat := by
  constructor
  · intro h
    unfold deviceId? at h
    split at h
    · next hdecimal =>
      dsimp only at h
      split at h
      · next hlt =>
        obtain rfl := Option.some.inj h
        have hvalue : (UInt64.ofNat (digitsValue key)).toNat = digitsValue key := UInt64.toNat_ofNat_of_lt' hlt
        show key = decimal (UInt64.ofNat (digitsValue key)).toNat
        rw [hvalue, decimal_of_isDecimal hdecimal]
      · cases h
    · cases h
  · rintro rfl
    exact deviceId?_decimal id

theorem elementId?_eq_some_iff {j : Json} {id : ElementId} :
    elementId? j = some id ↔ IsNat 64 j id.value.toNat := by
  rw [elementId?, Option.map_eq_some_iff]
  constructor
  · rintro ⟨n, hn, rfl⟩
    exact Json.word64?_eq_some_iff.mp hn
  · intro h
    exact ⟨id.value, Json.word64?_eq_some_iff.mpr h, rfl⟩

/-- Whether the states of some devices are given: every key is the number of a device, and the last value
under it a list of bytes, its state. -/
inductive IsDevices : Json → Table DeviceId Bytes → Prop where
  | object {fields : List (Bytes × Json)} {devices : Table DeviceId Bytes}
      (hkey : ∀ key j, IsLast fields key j →
        ∃ id : DeviceId, ∃ state, key = decimal id.value.toNat ∧ IsList IsByte j state)
      (hstate : ∀ id state, devices.get? id = some state ↔
        ∃ j, IsLast fields (decimal id.value.toNat) j ∧ IsList IsByte j state) :
      IsDevices (.object fields) devices

theorem deviceState?_eq_some_iff {key : Bytes} {j : Json} {id : DeviceId} {state : Bytes} :
    deviceState? (key, j) = some (id, state) ↔ key = decimal id.value.toNat ∧ IsList IsByte j state := by
  rw [← deviceId?_eq_some_iff, ← Json.bytes?_eq_some_iff]
  unfold deviceState?
  cases deviceId? key <;> cases Json.bytes? j <;> simp

section

variable {fields : List (Bytes × Json)} {states : List (DeviceId × Bytes)}
  (hread : (Json.lastFields fields).mapM deviceState? = some states) (id : DeviceId) (state : Bytes)

include hread

theorem mem_states_iff : (id, state) ∈ states ↔
    ∃ j, IsLast fields (decimal id.value.toNat) j ∧ IsList IsByte j state := by
  rw [Json.mem_of_mapM hread]
  constructor
  · rintro ⟨⟨key, j⟩, hj, hstate⟩
    obtain ⟨rfl, hbytes⟩ := deviceState?_eq_some_iff.mp hstate
    exact ⟨j, Json.mem_lastFields_iff.mp hj, hbytes⟩
  · rintro ⟨j, hj, hbytes⟩
    exact ⟨_, Json.mem_lastFields_iff.mpr hj, deviceState?_eq_some_iff.mpr ⟨rfl, hbytes⟩⟩

/-- The states that were read are those under the keys of their devices: no device has two keys. -/
theorem get?_states : (Table.ofList states).get? id = some state ↔
    ∃ j, IsLast fields (decimal id.value.toNat) j ∧ IsList IsByte j state := by
  rw [Table.get?_ofList_eq_some_iff, mem_states_iff hread]
  intro id state state' hstate hstate'
  obtain ⟨j, hj, hbytes⟩ := (mem_states_iff hread id state).mp hstate
  obtain ⟨j', hj', hbytes'⟩ := (mem_states_iff hread id state').mp hstate'
  obtain rfl := hj.unique hj'
  rw [← Json.bytes?_eq_some_iff] at hbytes hbytes'
  exact Option.some.inj (hbytes.symm.trans hbytes')

end

theorem devices?_eq_some_iff {j : Json} {devices : Table DeviceId Bytes} :
    devices? j = some devices ↔ IsDevices j devices := by
  constructor
  · intro h
    cases j with
    | object fields =>
      obtain ⟨states, hread, rfl⟩ := Option.map_eq_some_iff.mp h
      refine .object (fun key j hj => ?_) (get?_states hread)
      obtain ⟨⟨id, state⟩, hstate⟩ :=
        Json.exists_mapM.mp ⟨states, hread⟩ (key, j) (Json.mem_lastFields_iff.mpr hj)
      exact ⟨id, state, deviceState?_eq_some_iff.mp hstate⟩
    | _ => cases h
  · rintro @⟨fields, _, hkey, hstate⟩
    have hall : ∀ f ∈ Json.lastFields fields, ∃ e, deviceState? f = some e := by
      rintro ⟨key, j⟩ hj
      obtain ⟨id, state, hdevice⟩ := hkey key j (Json.mem_lastFields_iff.mp hj)
      exact ⟨(id, state), deviceState?_eq_some_iff.mpr hdevice⟩
    obtain ⟨states, hread⟩ := Json.exists_mapM.mpr hall
    have hsame : Table.ofList states = devices := by
      refine Table.ext_get? fun id => Option.ext fun state => ?_
      rw [get?_states hread, hstate]
    show ((Json.lastFields fields).mapM deviceState?).map Table.ofList = some devices
    rw [hread, Option.map_some, hsame]

/-! ## Sections -/

/-- The sections of a record file. -/
inductive Section where
  | elements
  | devices
  | runState
  | busState
  | bootError
  | terminal
  | emulation
  deriving DecidableEq, Repr

namespace Section

/-- The key of a section. -/
def key : Section → String
  | elements => "elements"
  | devices => "devices"
  | runState => "run_state"
  | busState => "bus_state"
  | bootError => "boot_error"
  | terminal => "terminal"
  | emulation => "emulation"

/-- What a section holds. -/
abbrev Content : Section → Type
  | elements => List ElementId
  | devices => Table DeviceId Bytes
  | runState | busState => UInt8
  | bootError => Option String
  | terminal | emulation => Bytes

/-- The field of a record that a section is for. -/
def get (r : Record) : (s : Section) → s.Content
  | elements => r.elements
  | devices => r.devices
  | runState => r.runState
  | busState => r.busState
  | bootError => r.bootError
  | terminal => r.terminal
  | emulation => r.emulation

/-- What is said by a value of the section's type. -/
def Is : (s : Section) → Json → s.Content → Prop
  | elements => IsList fun j id => IsNat 64 j id.value.toNat
  | devices => IsDevices
  | runState | busState => IsByte
  | bootError => IsTextOrNull
  | terminal | emulation => IsList IsByte

/-- The reader of a section. -/
def read : (s : Section) → Json → Option s.Content
  | elements => Json.list? elementId?
  | devices => devices?
  | runState | busState => Json.byte?
  | bootError => Json.option? Json.text?
  | terminal | emulation => Json.bytes?

/-- A section that is missing is that of the empty record. -/
def missing (s : Section) : s.Content := s.get empty

/-- A section is read for what its value says, if that is of its type. -/
theorem read_eq_some_iff (s : Section) {j : Json} {a : s.Content} : s.read j = some a ↔ s.Is j a := by
  cases s with
  | elements => exact Json.list?_eq_some_iff fun _ _ => elementId?_eq_some_iff
  | devices => exact devices?_eq_some_iff
  | runState => exact Json.byte?_eq_some_iff
  | busState => exact Json.byte?_eq_some_iff
  | bootError => exact Json.textOrNull?_eq_some_iff
  | terminal => exact Json.bytes?_eq_some_iff
  | emulation => exact Json.bytes?_eq_some_iff

theorem get_ofFields (fields : List (Bytes × Json)) (s : Section) :
    s.get (ofFields fields) = readSection fields s.key s.missing s.read := by
  cases s <;> rfl

end Section

/-! ## Taking the sections one by one -/

/-- The fields with other keys. -/
def without (key : String) (fields : List (Bytes × Json)) : List (Bytes × Json) :=
  fields.filter fun f => f.1 ≠ Bytes.ofText key

/-- Takes a section out of the fields that are left. -/
def takeSection (s : Section) (fields : List (Bytes × Json)) : s.Content × List (Bytes × Json) :=
  (readSection fields s.key s.missing s.read, without s.key fields)

/-- Takes all sections, each out of what the others left. -/
def takeSections (fields : List (Bytes × Json)) : Record :=
  let (elements, fields) := takeSection .elements fields
  let (devices, fields) := takeSection .devices fields
  let (runState, fields) := takeSection .runState fields
  let (busState, fields) := takeSection .busState fields
  let (bootError, fields) := takeSection .bootError fields
  let (terminal, fields) := takeSection .terminal fields
  let (emulation, _) := takeSection .emulation fields
  ⟨elements, devices, runState, busState, bootError, terminal, emulation⟩

/-- A section that was taken takes no other with it. -/
theorem readSection_without {α : Type} (fields : List (Bytes × Json)) {key key' : String} (h : key ≠ key')
    (missing : α) (read : Json → Option α) :
    readSection (without key' fields) key missing read = readSection fields key missing read := by
  have hkey : Bytes.ofText key ≠ Bytes.ofText key' := fun he => h (Bytes.ofText_inj he)
  have hlookup (l : List (Bytes × Json)) :
      (without key' l).lookup (Bytes.ofText key) = l.lookup (Bytes.ofText key) := by
    induction l with
    | nil => rfl
    | cons f l ih =>
      unfold without at *
      by_cases hf : f.1 = Bytes.ofText key'
      · have hne : (Bytes.ofText key == f.1) = false := by
          rw [hf]
          exact beq_false_of_ne hkey
        rw [List.filter_cons_of_neg (by simpa using hf), ih, List.lookup_cons, hne]
      · rw [List.filter_cons_of_pos (by simpa using hf), List.lookup_cons, List.lookup_cons, ih]
  have hreverse : (without key' fields).reverse = without key' fields.reverse := List.filter_reverse.symm
  rw [readSection, hreverse, hlookup, readSection]

theorem takeSections_eq (fields : List (Bytes × Json)) : takeSections fields = ofFields fields := by
  simp only [takeSections, takeSection, Section.key]
  simp (disch := decide) only [readSection_without]
  rfl

/-! ## Independence -/

section

variable {file : Bytes} {fields : List (Bytes × Json)} (s : Section)

theorem decode_eq_ofFields (hparse : Json.parse? file = some (.object fields))
    (hregular : (Json.object fields).isRegular maxDepth = true) : decode file = ofFields fields := by
  unfold decode
  rw [hparse]
  exact if_pos hregular

theorem get_ofFields_of_isLast {j : Json} (hlast : IsLast fields (Bytes.ofText s.key) j) :
    s.get (ofFields fields) = (s.read j).getD s.missing := by
  rw [s.get_ofFields, readSection, Json.lookup_eq_some_iff.mpr hlast]

theorem get_ofFields_of_forall_ne (hnone : ∀ f ∈ fields, f.1 ≠ Bytes.ofText s.key) :
    s.get (ofFields fields) = s.missing := by
  rw [s.get_ofFields, readSection, Json.lookup_eq_none_iff.mpr hnone]

theorem get_ofFields_congr {fields' : List (Bytes × Json)}
    (h : ∀ j, IsLast fields (Bytes.ofText s.key) j ↔ IsLast fields' (Bytes.ofText s.key) j) :
    s.get (ofFields fields) = s.get (ofFields fields') := by
  have hlookup : fields.reverse.lookup (Bytes.ofText s.key) = fields'.reverse.lookup (Bytes.ofText s.key) := by
    refine Option.ext fun j => ?_
    rw [Json.lookup_eq_some_iff, Json.lookup_eq_some_iff, h]
  rw [s.get_ofFields, s.get_ofFields, readSection, readSection, hlookup]

/-- A file that holds an object is read section by section, in one pass that takes each out of the fields.
What a section reads is what the last value under its key says if that is of its type, and what the section is
in the empty record if it is not, or if there is none.  Two files that agree on the last value under a key
agree on its section, whatever else they hold. -/
theorem sections_independent (hparse : Json.parse? file = some (.object fields))
    (hregular : (Json.object fields).isRegular maxDepth = true) :
    decode file = takeSections fields ∧
    (∀ j a, IsLast fields (Bytes.ofText s.key) j → s.Is j a → s.get (decode file) = a) ∧
    (∀ j, IsLast fields (Bytes.ofText s.key) j → (∀ a, ¬ s.Is j a) → s.get (decode file) = s.missing) ∧
    ((∀ f ∈ fields, f.1 ≠ Bytes.ofText s.key) → s.get (decode file) = s.missing) ∧
    ∀ file' fields', Json.parse? file' = some (.object fields') →
      (Json.object fields').isRegular maxDepth = true →
      (∀ j, IsLast fields (Bytes.ofText s.key) j ↔ IsLast fields' (Bytes.ofText s.key) j) →
      s.get (decode file) = s.get (decode file') := by
  rw [decode_eq_ofFields hparse hregular]
  refine ⟨(takeSections_eq fields).symm, fun j a hlast ha => ?_, fun j hlast hnot => ?_,
    get_ofFields_of_forall_ne s, fun file' fields' hparse' hregular' h => ?_⟩
  · rw [get_ofFields_of_isLast s hlast, s.read_eq_some_iff.mpr ha]
    rfl
  · have hread : s.read j = none :=
      Option.eq_none_iff_forall_ne_some.mpr fun a ha => hnot a (s.read_eq_some_iff.mp ha)
    rw [get_ofFields_of_isLast s hlast, hread]
    rfl
  · rw [decode_eq_ofFields hparse' hregular']
    exact get_ofFields_congr s h

end

/-- The fields of a file with elements that are none, a run state that is given twice, and a number that is
too large for a byte. -/
def spoiltFields : List (Bytes × Json) := [
  (Bytes.ofText "elements", .ofText "oops"),
  (Bytes.ofText "run_state", .ofNat 300),
  (Bytes.ofText "terminal", .ofBytes [104, 105]),
  (Bytes.ofText "emulation", .array [.ofNat 7, .ofNat 256]),
  (Bytes.ofText "run_state", .ofNat 2)]

theorem isPlain_spoiltFields : (Json.object spoiltFields).IsPlain := by
  refine .object ?_
  simp only [spoiltFields, List.forall_mem_cons]
  refine ⟨.string _, .number (by decide), Json.isPlain_ofBytes _, .array ?_, .number (by decide), ?_⟩
  · simp only [List.forall_mem_cons]
    exact ⟨.number (by decide), .number (by decide), fun _ h => nomatch h⟩
  · exact fun _ h => nomatch h

theorem isRegular_spoiltFields : (Json.object spoiltFields).isRegular maxDepth = true := by
  decide +kernel

theorem spoiltFields_sections :
    let file := Json.compact (.object spoiltFields)
    Json.parse? file = some (.object spoiltFields) ∧
    (Json.object spoiltFields).isRegular maxDepth = true ∧
    (decode file).elements = [] ∧ (decode file).runState = 2 ∧ (decode file).terminal = [104, 105] ∧
    (decode file).emulation = [] ∧ (decode file).bootError = none := by
  have hparse := Json.parse?_compact isPlain_spoiltFields
  have hread (s : Section) := sections_independent s hparse isRegular_spoiltFields
  obtain ⟨-, -, helements, -⟩ := hread .elements
  obtain ⟨-, hrunState, -⟩ := hread .runState
  obtain ⟨-, hterminal, -⟩ := hread .terminal
  obtain ⟨-, -, hemulation, -⟩ := hread .emulation
  obtain ⟨-, -, -, hbootError, -⟩ := hread .bootError
  refine ⟨hparse, isRegular_spoiltFields, ?_, ?_, ?_, ?_, ?_⟩
  · refine helements (.ofText "oops") ⟨[], _, rfl, by decide⟩ ?_
    rintro a ⟨⟩
  · exact hrunState (.ofNat 2) 2 ⟨spoiltFields.take 4, [], rfl, by simp⟩
      (Json.byte?_eq_some_iff.mp (Json.byte?_ofNat 2))
  · exact hterminal (.ofBytes [104, 105]) [104, 105] ⟨spoiltFields.take 2, _, rfl, by decide⟩
      (Json.bytes?_eq_some_iff.mp (Json.bytes?_ofBytes [104, 105]))
  · refine hemulation (.array [.ofNat 7, .ofNat 256]) ⟨spoiltFields.take 3, _, rfl, by decide⟩ ?_
    intro a ha
    cases (Section.emulation.read_eq_some_iff).mpr ha
  · exact hbootError (by decide)

end Record

end DeviceBus
