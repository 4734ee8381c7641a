import DeviceBus.Message.Payload
import Mathlib.Tactic.Ring

/-!
# Payloads are read back

Every reader gives back what its writer wrote, and leaves the bytes behind it alone:

    read (write a ++ rest) = some (a, rest)

For numbers and for byte strings this needs a bound.  Both kinds of message have it as soon as their
payload is shorter than 2^64 bytes, whatever texts and bytes they hold (`readUpdate_writeUpdate`,
`readSnapshot_writeSnapshot`).
-/

namespace DeviceBus.Payload

/-! ## Numbers -/

/-- A number below what `width + 1` digits can hold is read back: the writer may use more digits, but
never needs them. -/
theorem readDigits_writeDigits {last : Nat} (hlast : last < 128) (width more n : Nat)
    (hmore : width ≤ more) (hn : n < (last + 1) * 128 ^ width) (rest : Bytes) :
    readDigits last (width + 1) (writeDigits more n ++ rest) = some (n, rest) := by
  induction width generalizing more n with
  | zero =>
    have hsmall : n < 128 := by omega
    have hwrite : writeDigits more n = [UInt8.ofNat n] := by
      cases more with
      | zero => simp [writeDigits, Nat.mod_eq_of_lt hsmall]
      | succ more => simp [writeDigits, hsmall]
    have hbyte : (UInt8.ofNat n).toNat = n := by simp; omega
    have hlow : UInt8.ofNat n < 128 := by rw [UInt8.lt_iff_toNat_lt, hbyte]; exact hsmall
    have hfits : ¬ last < n := by omega
    simp [hwrite, readDigits, hlow, hbyte, hfits]
  | succ width ih =>
    obtain ⟨more, rfl⟩ : ∃ k, more = k + 1 := ⟨more - 1, by omega⟩
    by_cases hsmall : n < 128
    · have hbyte : (UInt8.ofNat n).toNat = n := by simp; omega
      have hlow : UInt8.ofNat n < 128 := by rw [UInt8.lt_iff_toNat_lt, hbyte]; exact hsmall
      simp [writeDigits, hsmall, readDigits, hlow, hbyte]
    · have hbyte : (UInt8.ofNat (n % 128 + 128)).toNat = n % 128 + 128 := by simp; omega
      have hhigh : ¬ UInt8.ofNat (n % 128 + 128) < 128 := by
        rw [UInt8.lt_iff_toNat_lt, hbyte]
        show ¬ n % 128 + 128 < 128
        omega
      have hdigits : n / 128 < (last + 1) * 128 ^ width := by
        have hpow : (last + 1) * 128 ^ (width + 1) = (last + 1) * 128 ^ width * 128 := by ring
        rw [hpow] at hn
        exact (Nat.div_lt_iff_lt_mul (by decide)).2 hn
      have hvalue : n % 128 + 128 * (n / 128) = n := Nat.mod_add_div n 128
      rw [writeDigits, if_neg hsmall, List.cons_append, readDigits, if_neg hhigh,
        ih more (n / 128) (by omega) hdigits]
      simp only [Option.map_some, hbyte, Nat.add_mod_right, Nat.mod_mod, hvalue]

theorem readNat32_writeNat {n : Nat} (h : n < 2 ^ 32) (rest : Bytes) :
    readNat32 (writeNat n ++ rest) = some (n, rest) :=
  readDigits_writeDigits (by decide) 4 9 n (by decide) (by omega) rest

theorem readNat64_writeNat {n : Nat} (h : n < 2 ^ 64) (rest : Bytes) :
    readNat64 (writeNat n ++ rest) = some (n, rest) :=
  readDigits_writeDigits (by decide) 9 9 n (by decide) (by omega) rest

/-! ## Values -/

@[simp] theorem readBool_writeBool (b : Bool) (rest : Bytes) :
    readBool (writeBool b ++ rest) = some (b, rest) := by
  cases b <;> rfl

@[simp] theorem readRunState_writeRunState (s : RunState) (rest : Bytes) :
    readRunState (writeRunState s ++ rest) = some (s, rest) := by
  have hbound : s.ordinal < 2 ^ 32 := by cases s <;> decide
  simp [readRunState, writeRunState, readNat32_writeNat hbound]

@[simp] theorem readBusState_writeBusState (s : BusState) (rest : Bytes) :
    readBusState (writeBusState s ++ rest) = some (s, rest) := by
  have hbound : s.ordinal < 2 ^ 32 := by cases s <;> decide
  simp [readBusState, writeBusState, readNat32_writeNat hbound]

@[simp] theorem readDeviceId_writeDeviceId (id : DeviceId) (rest : Bytes) :
    readDeviceId (writeDeviceId id ++ rest) = some (id, rest) := by
  simp [readDeviceId, writeDeviceId, readNat64_writeNat id.value.toNat_lt]

theorem readBytes_writeBytes {bs : Bytes} (h : bs.length < 2 ^ 64) (rest : Bytes) :
    readBytes (writeBytes bs ++ rest) = some (bs, rest) := by
  simp [readBytes, writeBytes, readNat64_writeNat h]

theorem readText_writeText {s : String} (h : (Bytes.ofText s).length < 2 ^ 64) (rest : Bytes) :
    readText (writeText s ++ rest) = some (s, rest) := by
  simp [readText, writeText, readBytes_writeBytes h, Bytes.text?_ofText]

/-- A byte string is no longer than its written form. -/
theorem length_le_writeBytes (bs : Bytes) : bs.length ≤ (writeBytes bs).length := by
  simp [writeBytes]

theorem readOptionalText_writeOptionalText {s : Option String}
    (h : (writeOptionalText s).length < 2 ^ 64) (rest : Bytes) :
    readOptionalText (writeOptionalText s ++ rest) = some (s, rest) := by
  cases s with
  | none => rfl
  | some s =>
    have hle := length_le_writeBytes (Bytes.ofText s)
    have htext : (Bytes.ofText s).length < 2 ^ 64 := by
      simp only [writeOptionalText, writeText, List.length_cons] at h
      omega
    simp [writeOptionalText, readOptionalText, readText_writeText htext]

/-! ## Messages -/

theorem readUpdate_writeUpdate {u : Update} (h : (writeUpdate u).length < 2 ^ 64) (rest : Bytes) :
    readUpdate (writeUpdate u ++ rest) = some (u, rest) := by
  have hkind : ∀ kind : Nat, kind < 6 → ∀ body : Bytes,
      readNat32 (writeNat kind ++ body) = some (kind, body) :=
    fun kind hlt body => readNat32_writeNat (by omega) body
  cases u with
  | busState state => simp [writeUpdate, readUpdate, hkind]
  | runState state => simp [writeUpdate, readUpdate, hkind]
  | bootError error =>
    simp only [writeUpdate, List.length_append] at h
    have herror : (writeOptionalText error).length < 2 ^ 64 := by omega
    simp [writeUpdate, readUpdate, hkind, readOptionalText_writeOptionalText herror]
  | terminalOutput chunk =>
    have hle := length_le_writeBytes chunk
    simp only [writeUpdate, List.length_append] at h
    have hchunk : chunk.length < 2 ^ 64 := by omega
    simp [writeUpdate, readUpdate, hkind, readBytes_writeBytes hchunk]
  | terminalReset => simp [writeUpdate, readUpdate, hkind]
  | mediaChanged device present => simp [writeUpdate, readUpdate, hkind]

theorem readSnapshot_writeSnapshot {s : Snapshot} (h : (writeSnapshot s).length < 2 ^ 64)
    (rest : Bytes) : readSnapshot (writeSnapshot s ++ rest) = some (s, rest) := by
  have hle := length_le_writeBytes s.terminal
  simp only [writeSnapshot, List.length_append] at h
  have herror : (writeOptionalText s.bootError).length < 2 ^ 64 := by omega
  have hterminal : s.terminal.length < 2 ^ 64 := by omega
  simp [writeSnapshot, readSnapshot, readOptionalText_writeOptionalText herror,
    readBytes_writeBytes hterminal]

end DeviceBus.Payload
