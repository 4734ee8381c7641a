import DeviceBus.Proofs.Message.Payload
import Mathlib.Data.Nat.Digits.Defs

/-!
# Spellings of messages

Which bytes stand for a message is said here without a reader (`IsUpdate`, `IsSnapshot`).  A number may be spelt
with more digits than it needs, so a message has many spellings.  The readers take all of them and nothing else,
and the written form is a shortest one:

    read input = some (a, rest) ↔ ∃ front, input = front ++ rest ∧ Is front a    (readUpdate_reads, readSnapshot_reads)
    Is bs a → (write a).length ≤ bs.length                       (IsUpdate.length_le, IsSnapshot.length_le)

Both go by the parts of a message; only for numbers they need an induction, on the digits.
-/

namespace DeviceBus.Payload

/-! ## Readers and spellings -/

/-- A reader takes the spellings of its values and nothing else: it reads a value where its input begins with
a spelling of it, and leaves what is behind. -/
def Reads {α : Type} (read : Reader α) (Is : Bytes → α → Prop) : Prop :=
  ∀ input a rest, read input = some (a, rest) ↔ ∃ front, input = front ++ rest ∧ Is front a

section

variable {α : Type} {read : Reader α} {Is : Bytes → α → Prop} {a : α} {rest : Bytes}

theorem Reads.front (h : Reads read Is) {front : Bytes} (hfront : Is front a) (rest : Bytes) :
    read (front ++ rest) = some (a, rest) :=
  (h _ _ _).mpr ⟨front, rfl, hfront⟩

theorem Reads.spelt (h : Reads read Is) {input : Bytes} (hread : read input = some (a, rest)) :
    ∃ front, input = front ++ rest ∧ Is front a :=
  (h _ _ _).mp hread

/-- Reading on behind a value. -/
theorem Reads.spelt_bind (h : Reads read Is) {β : Type} {next : α × Bytes → Option (β × Bytes)} {input : Bytes}
    {b : β} (hread : (read input).bind next = some (b, rest)) :
    ∃ front a behind, input = front ++ behind ∧ Is front a ∧ next (a, behind) = some (b, rest) := by
  obtain ⟨⟨a, behind⟩, ha, hnext⟩ := Option.bind_eq_some_iff.mp hread
  obtain ⟨front, hinput, hfront⟩ := h.spelt ha
  exact ⟨front, a, behind, hinput, hfront, hnext⟩

/-- Reading a value as part of another. -/
theorem Reads.spelt_map (h : Reads read Is) {β : Type} {f : α → β} {input : Bytes} {b : β}
    (hread : (read input).map (fun p => (f p.1, p.2)) = some (b, rest)) :
    ∃ front a, input = front ++ rest ∧ Is front a ∧ f a = b := by
  obtain ⟨⟨a, behind⟩, ha, heq⟩ := Option.map_eq_some_iff.mp hread
  cases heq
  obtain ⟨front, hinput, hfront⟩ := h.spelt ha
  exact ⟨front, a, hinput, hfront, rfl⟩

end

/-! ## Numbers -/

/-- Every byte but the last has a mark. -/
inductive Marked : Bytes → Prop where
  | last {b : UInt8} (h : b < 128) : Marked [b]
  | cons {b : UInt8} {bs : Bytes} (h : 128 ≤ b) (hbs : Marked bs) : Marked (b :: bs)

/-- The number with these digits in base 128, the lowest first, and marks on some of them. -/
def digitsValue (bs : Bytes) : Nat := Nat.ofDigits 128 (bs.map fun b => b.toNat % 128)

/-- A number of at most so many bits, in no more digits than that many bits need.  There may be zeros behind
its highest digit. -/
structure IsNumeral (bits : Nat) (bs : Bytes) (n : Nat) : Prop where
  marked : Marked bs
  length_le : bs.length ≤ (bits + 6) / 7
  value_eq : digitsValue bs = n
  lt : n < 2 ^ bits

@[simp] theorem digitsValue_cons (b : UInt8) (bs : Bytes) :
    digitsValue (b :: bs) = b.toNat % 128 + 128 * digitsValue bs := by
  simp [digitsValue, Nat.ofDigits_cons]

theorem Marked.ne_nil {bs : Bytes} (h : Marked bs) : bs ≠ [] := by
  cases h <;> exact List.cons_ne_nil _ _

theorem digitsValue_singleton {b : UInt8} (hb : b < 128) : digitsValue [b] = b.toNat := by
  simpa [digitsValue] using UInt8.lt_iff_toNat_lt.mp hb

theorem Marked.readDigits {front : Bytes} (h : Marked front) {last width : Nat}
    (hlength : front.length ≤ width + 1) (hlt : digitsValue front < (last + 1) * 128 ^ width) (rest : Bytes) :
    readDigits last (width + 1) (front ++ rest) = some (digitsValue front, rest) := by
  induction h generalizing width with
  | @last b hb =>
    rw [digitsValue_singleton hb] at hlt ⊢
    have hfits : ¬ (width = 0 ∧ last < b.toNat) := by
      rintro ⟨rfl, hpast⟩
      omega
    rw [List.singleton_append, Payload.readDigits, if_pos hb, if_neg hfits]
  | @cons b bs hb hbs ih =>
    obtain ⟨width, rfl⟩ : ∃ w, width = w + 1 := by
      have := List.length_pos_iff.mpr hbs.ne_nil
      simp only [List.length_cons] at hlength
      exact ⟨width - 1, by omega⟩
    have hpow : (last + 1) * 128 ^ (width + 1) = (last + 1) * 128 ^ width * 128 := by ring
    rw [digitsValue_cons] at hlt ⊢
    have htail : Payload.readDigits last (width + 1) (bs ++ rest) = some (digitsValue bs, rest) :=
      ih (by simpa using hlength) (by omega)
    rw [List.cons_append, Payload.readDigits, if_neg (UInt8.not_lt.mpr hb), htail, Option.map_some]

/-- What the reader of digits takes is a row of digits within its bound: the bound on the digit in the last
place says no less. -/
theorem spelt_of_readDigits {last width : Nat} {input rest : Bytes} {n : Nat}
    (h : readDigits last (width + 1) input = some (n, rest)) :
    ∃ front, input = front ++ rest ∧ Marked front ∧ front.length ≤ width + 1 ∧ digitsValue front = n ∧
      n < (last + 1) * 128 ^ width := by
  induction width generalizing input n with
  | zero =>
    cases input with
    | nil => cases h
    | cons b bs =>
      rw [readDigits] at h
      split at h
      · next hb =>
        split at h
        · cases h
        · next hfits =>
          cases h
          exact ⟨[b], rfl, .last hb, Nat.le_refl _, digitsValue_singleton hb, by omega⟩
      · cases h
  | succ width ih =>
    have hpow : (last + 1) * 128 ^ (width + 1) = (last + 1) * 128 ^ width * 128 := by ring
    cases input with
    | nil => cases h
    | cons b bs =>
      rw [readDigits] at h
      split at h
      · next hb =>
        rw [if_neg (fun hlast => Nat.succ_ne_zero _ hlast.1)] at h
        cases h
        have hlow : b.toNat < 128 := UInt8.lt_iff_toNat_lt.mp hb
        have hpos : 0 < (last + 1) * 128 ^ width := Nat.mul_pos (Nat.succ_pos _) (Nat.pow_pos (by decide))
        exact ⟨[b], rfl, .last hb, by simp, digitsValue_singleton hb, by omega⟩
      · next hb =>
        obtain ⟨⟨m, left⟩, hread, heq⟩ := Option.map_eq_some_iff.mp h
        obtain ⟨rfl, rfl⟩ := Prod.mk.inj heq
        obtain ⟨front, rfl, hmarked, hlength, rfl, hlt⟩ := ih hread
        refine ⟨b :: front, rfl, .cons (UInt8.not_lt.mp hb) hmarked, by simpa using hlength, by simp, ?_⟩
        have := Nat.mod_lt b.toNat (show 0 < 128 by decide)
        omega

/-- A reader of digits takes the numbers of so many bits if its two bounds are those of that many bits. -/
theorem readDigits_reads {bits last width : Nat} (hwidth : (bits + 6) / 7 = width + 1)
    (hbound : (last + 1) * 128 ^ width = 2 ^ bits) : Reads (readDigits last (width + 1)) (IsNumeral bits) := by
  intro input n rest
  constructor
  · intro h
    obtain ⟨front, rfl, hmarked, hlength, hvalue, hlt⟩ := spelt_of_readDigits h
    exact ⟨front, rfl, hmarked, hwidth ▸ hlength, hvalue, hbound ▸ hlt⟩
  · rintro ⟨front, rfl, hmarked, hlength, rfl, hlt⟩
    exact hmarked.readDigits (hwidth ▸ hlength) (hbound ▸ hlt) rest

theorem readNat32_reads : Reads readNat32 (IsNumeral 32) := readDigits_reads rfl rfl

theorem readNat64_reads : Reads readNat64 (IsNumeral 64) := readDigits_reads rfl rfl

/-- No row of digits is shorter than the written one. -/
theorem Marked.length_writeDigits_le {bs : Bytes} (h : Marked bs) (more : Nat) :
    (writeDigits more (digitsValue bs)).length ≤ bs.length := by
  induction h generalizing more with
  | @last b hb =>
    have hlow : b.toNat < 128 := UInt8.lt_iff_toNat_lt.mp hb
    cases more <;> simp [writeDigits, digitsValue_singleton hb, hlow]
  | @cons b bs hb hbs ih =>
    cases more with
    | zero => simp [writeDigits]
    | succ more =>
      have hdiv : digitsValue (b :: bs) / 128 = digitsValue bs := by
        rw [digitsValue_cons]
        have := Nat.mod_lt b.toNat (show 0 < 128 by decide)
        omega
      rw [writeDigits, hdiv]
      split
      · simp
      · simpa using ih more

theorem IsNumeral.length_write_le {bits n : Nat} {bs : Bytes} (h : IsNumeral bits bs n) :
    (writeNat n).length ≤ bs.length := by
  rw [← h.value_eq]
  exact h.marked.length_writeDigits_le 9

/-! ## Values -/

/-- A byte string behind its length. -/
inductive IsBytes : Bytes → Bytes → Prop where
  | mk {length data : Bytes} (h : IsNumeral 64 length data.length) : IsBytes (length ++ data) data

/-- The UTF-8 form of a text behind its length. -/
def IsText (bs : Bytes) (s : String) : Prop := IsBytes bs (Bytes.ofText s)

/-- A text that may be missing. -/
inductive IsOptionalText : Bytes → Option String → Prop where
  | none : IsOptionalText [0] none
  | some {bs : Bytes} {s : String} (h : IsText bs s) : IsOptionalText (1 :: bs) (some s)

/-- A truth value. -/
inductive IsBool : Bytes → Bool → Prop where
  | no : IsBool [0] false
  | yes : IsBool [1] true

/-- The number of a run state. -/
def IsRunState (bs : Bytes) (s : RunState) : Prop := IsNumeral 32 bs s.ordinal

/-- The number of a bus state. -/
def IsBusState (bs : Bytes) (s : BusState) : Prop := IsNumeral 32 bs s.ordinal

/-- The number of a device. -/
def IsDeviceId (bs : Bytes) (id : DeviceId) : Prop := IsNumeral 64 bs id.value.toNat

theorem readBytes_reads : Reads readBytes IsBytes := by
  intro input data rest
  constructor
  · intro h
    obtain ⟨length, n, behind, rfl, hlength, hbody⟩ := readNat64_reads.spelt_bind h
    by_cases hshort : behind.length < n
    · simp [hshort] at hbody
    · simp only [hshort, if_false, Option.some.injEq, Prod.mk.injEq] at hbody
      obtain ⟨rfl, rfl⟩ := hbody
      have hdata : (behind.take n).length = n := List.length_take_of_le (Nat.le_of_not_lt hshort)
      exact ⟨length ++ behind.take n, by simp, .mk (hdata.symm ▸ hlength)⟩
  · rintro ⟨_, rfl, ⟨hlength⟩⟩
    simp [readBytes, readNat64_reads.front hlength]

theorem readText_reads : Reads readText IsText := by
  intro input s rest
  constructor
  · intro h
    obtain ⟨front, bs, behind, rfl, hbs, hbody⟩ := readBytes_reads.spelt_bind h
    obtain ⟨t, ht, heq⟩ := Option.bind_eq_some_iff.mp hbody
    cases heq
    rw [Bytes.text?_eq_some_iff.mp ht] at hbs
    exact ⟨front, rfl, hbs⟩
  · rintro ⟨front, rfl, hfront⟩
    simp [readText, readBytes_reads.front hfront, Bytes.text?_ofText]

theorem readOptionalText_reads : Reads readOptionalText IsOptionalText := by
  intro input s rest
  constructor
  · intro h
    unfold readOptionalText at h
    split at h
    · cases h
      exact ⟨[0], rfl, .none⟩
    · obtain ⟨front, t, rfl, ht, rfl⟩ := readText_reads.spelt_map h
      exact ⟨1 :: front, rfl, .some ht⟩
    · cases h
  · rintro ⟨_, rfl, _ | hs⟩
    · rfl
    · simp [readOptionalText, readText_reads.front hs]

theorem readBool_reads : Reads readBool IsBool := by
  intro input b rest
  constructor
  · intro h
    unfold readBool at h
    split at h
    · cases h
      exact ⟨[0], rfl, .no⟩
    · cases h
      exact ⟨[1], rfl, .yes⟩
    · cases h
  · rintro ⟨_, rfl, _ | _⟩ <;> rfl

/-- What is read as a number is spelt as the number that stands for it. -/
theorem Reads.ofNat {α : Type} {read : Reader Nat} {Is : Bytes → Nat → Prop} (h : Reads read Is)
    (ofNat? : Nat → Option α) (toNat : α → Nat) (hvalue : ∀ n a, ofNat? n = some a ↔ n = toNat a) :
    Reads (fun input => do let (n, rest) ← read input; let a ← ofNat? n; return (a, rest))
      (fun bs a => Is bs (toNat a)) := by
  intro input a rest
  constructor
  · intro hread
    obtain ⟨front, n, behind, rfl, hfront, hbody⟩ := h.spelt_bind hread
    obtain ⟨a', ha, heq⟩ := Option.bind_eq_some_iff.mp hbody
    cases heq
    rw [(hvalue n a).mp ha] at hfront
    exact ⟨front, rfl, hfront⟩
  · rintro ⟨front, rfl, hfront⟩
    simp [h.front hfront, (hvalue _ a).mpr rfl]

theorem readRunState_reads : Reads readRunState IsRunState :=
  readNat32_reads.ofNat RunState.ofOrdinal? RunState.ordinal fun _ _ => RunState.ofOrdinal?_eq_some_iff

theorem readBusState_reads : Reads readBusState IsBusState :=
  readNat32_reads.ofNat BusState.ofOrdinal? BusState.ordinal fun _ _ => BusState.ofOrdinal?_eq_some_iff

theorem readDeviceId_reads : Reads readDeviceId IsDeviceId := by
  intro input id rest
  constructor
  · intro h
    obtain ⟨front, n, behind, rfl, hfront, heq⟩ := readNat64_reads.spelt_bind h
    cases heq
    have hid : (UInt64.ofNat n).toNat = n := UInt64.toNat_ofNat_of_lt' hfront.lt
    refine ⟨front, rfl, ?_⟩
    rw [IsDeviceId, hid]
    exact hfront
  · rintro ⟨front, rfl, hfront⟩
    simp [readDeviceId, readNat64_reads.front hfront]

/-! ## Messages -/

/-- An update: the number of its kind, then what it carries. -/
inductive IsUpdate : Bytes → Update → Prop where
  | busState {kind body : Bytes} {state : BusState} (hkind : IsNumeral 32 kind 0)
      (h : IsBusState body state) : IsUpdate (kind ++ body) (.busState state)
  | runState {kind body : Bytes} {state : RunState} (hkind : IsNumeral 32 kind 1)
      (h : IsRunState body state) : IsUpdate (kind ++ body) (.runState state)
  | bootError {kind body : Bytes} {error : Option String} (hkind : IsNumeral 32 kind 2)
      (h : IsOptionalText body error) : IsUpdate (kind ++ body) (.bootError error)
  | terminalOutput {kind body chunk : Bytes} (hkind : IsNumeral 32 kind 3)
      (h : IsBytes body chunk) : IsUpdate (kind ++ body) (.terminalOutput chunk)
  | terminalReset {kind : Bytes} (hkind : IsNumeral 32 kind 4) : IsUpdate kind .terminalReset
  | mediaChanged {kind body flag : Bytes} {device : DeviceId} {present : Bool} (hkind : IsNumeral 32 kind 5)
      (hdevice : IsDeviceId body device) (hpresent : IsBool flag present) :
      IsUpdate (kind ++ body ++ flag) (.mediaChanged device present)

/-- A snapshot: its parts in order. -/
inductive IsSnapshot : Bytes → Snapshot → Prop where
  | mk {run bus boot window : Bytes} {s : Snapshot} (hrun : IsRunState run s.runState)
      (hbus : IsBusState bus s.busState) (hboot : IsOptionalText boot s.bootError)
      (hwindow : IsBytes window s.terminal) : IsSnapshot (run ++ bus ++ boot ++ window) s

theorem readUpdate_reads : Reads readUpdate IsUpdate := by
  intro input u rest
  constructor
  · intro h
    obtain ⟨front, kind, behind, rfl, hkind, hbody⟩ := readNat32_reads.spelt_bind h
    dsimp only at hbody
    split at hbody
    · obtain ⟨body, state, rfl, hstate, rfl⟩ := readBusState_reads.spelt_map hbody
      exact ⟨front ++ body, (List.append_assoc ..).symm, .busState hkind hstate⟩
    · obtain ⟨body, state, rfl, hstate, rfl⟩ := readRunState_reads.spelt_map hbody
      exact ⟨front ++ body, (List.append_assoc ..).symm, .runState hkind hstate⟩
    · obtain ⟨body, error, rfl, herror, rfl⟩ := readOptionalText_reads.spelt_map hbody
      exact ⟨front ++ body, (List.append_assoc ..).symm, .bootError hkind herror⟩
    · obtain ⟨body, chunk, rfl, hchunk, rfl⟩ := readBytes_reads.spelt_map hbody
      exact ⟨front ++ body, (List.append_assoc ..).symm, .terminalOutput hkind hchunk⟩
    · cases hbody
      exact ⟨front, rfl, .terminalReset hkind⟩
    · obtain ⟨body, device, behind, rfl, hdevice, hflag⟩ := readDeviceId_reads.spelt_bind hbody
      obtain ⟨flag, present, behind, rfl, hpresent, heq⟩ := readBool_reads.spelt_bind hflag
      cases heq
      exact ⟨front ++ body ++ flag, by simp only [List.append_assoc], .mediaChanged hkind hdevice hpresent⟩
    · cases hbody
  · rintro ⟨front, rfl, hfront⟩
    cases hfront with
    | busState hkind h => simp [readUpdate, readNat32_reads.front hkind, readBusState_reads.front h]
    | runState hkind h => simp [readUpdate, readNat32_reads.front hkind, readRunState_reads.front h]
    | bootError hkind h => simp [readUpdate, readNat32_reads.front hkind, readOptionalText_reads.front h]
    | terminalOutput hkind h => simp [readUpdate, readNat32_reads.front hkind, readBytes_reads.front h]
    | terminalReset hkind => simp [readUpdate, readNat32_reads.front hkind]
    | mediaChanged hkind hdevice hpresent =>
      simp [readUpdate, readNat32_reads.front hkind, readDeviceId_reads.front hdevice,
        readBool_reads.front hpresent]

/-! A kind and a length with zeros behind their digits, and a byte behind the message. -/

example : readUpdate [0x83, 0x00, 0x81, 0x80, 0x00, 0x41, 0xFF] = some (.terminalOutput [0x41], [0xFF]) := by
  decide

theorem readSnapshot_reads : Reads readSnapshot IsSnapshot := by
  intro input s rest
  constructor
  · intro h
    obtain ⟨run, runState, _, rfl, hrun, hbody⟩ := readRunState_reads.spelt_bind h
    obtain ⟨bus, busState, _, rfl, hbus, hbody⟩ := readBusState_reads.spelt_bind hbody
    obtain ⟨boot, bootError, _, rfl, hboot, hbody⟩ := readOptionalText_reads.spelt_bind hbody
    obtain ⟨window, terminal, _, rfl, hwindow, heq⟩ := readBytes_reads.spelt_bind hbody
    cases heq
    exact ⟨run ++ bus ++ boot ++ window, by simp only [List.append_assoc], .mk hrun hbus hboot hwindow⟩
  · rintro ⟨front, rfl, ⟨hrun, hbus, hboot, hwindow⟩⟩
    simp [readSnapshot, readRunState_reads.front hrun, readBusState_reads.front hbus,
      readOptionalText_reads.front hboot, readBytes_reads.front hwindow]

/-! ## The written form is a shortest one -/

theorem length_append_le {as bs cs ds : Bytes} (h : as.length ≤ cs.length) (h' : bs.length ≤ ds.length) :
    (as ++ bs).length ≤ (cs ++ ds).length := by
  simp only [List.length_append]
  exact Nat.add_le_add h h'

theorem IsBytes.length_le {bs data : Bytes} (h : IsBytes bs data) : (writeBytes data).length ≤ bs.length := by
  obtain ⟨hlength⟩ := h
  have := hlength.length_write_le
  simp only [writeBytes, List.length_append]
  omega

theorem IsOptionalText.length_le {bs : Bytes} {s : Option String} (h : IsOptionalText bs s) :
    (writeOptionalText s).length ≤ bs.length := by
  cases h with
  | none => exact Nat.le_refl _
  | some h => exact Nat.succ_le_succ (IsBytes.length_le h)

theorem IsUpdate.length_le {bs : Bytes} {u : Update} (h : IsUpdate bs u) :
    (writeUpdate u).length ≤ bs.length := by
  cases h with
  | busState hkind h => exact length_append_le hkind.length_write_le (IsNumeral.length_write_le h)
  | runState hkind h => exact length_append_le hkind.length_write_le (IsNumeral.length_write_le h)
  | bootError hkind h => exact length_append_le hkind.length_write_le h.length_le
  | terminalOutput hkind h => exact length_append_le hkind.length_write_le h.length_le
  | terminalReset hkind => exact hkind.length_write_le
  | mediaChanged hkind hdevice hpresent =>
    refine length_append_le (length_append_le hkind.length_write_le (IsNumeral.length_write_le hdevice)) ?_
    cases hpresent <;> exact Nat.le_refl _

theorem IsSnapshot.length_le {bs : Bytes} {s : Snapshot} (h : IsSnapshot bs s) :
    (writeSnapshot s).length ≤ bs.length := by
  obtain ⟨hrun, hbus, hboot, hwindow⟩ := h
  exact length_append_le (length_append_le (length_append_le (IsNumeral.length_write_le hrun)
    (IsNumeral.length_write_le hbus)) hboot.length_le) hwindow.length_le

end DeviceBus.Payload
