/-!
# Bytes

Byte strings are lists of octets.  This module holds their passage to and from text, and the
fixed-width numbers written in them.

    text? (ofText s) = some s                                   (text?_ofText)
    readLE (writeLE w n) = n % Nat.pow 256 w                      (readLE_writeLE)
-/

namespace DeviceBus

/-- A string of octets. -/
abbrev Bytes := List UInt8

namespace Bytes

/-! ## Text -/

/-- The UTF-8 encoding of a text. -/
def ofText (s : String) : Bytes := s.toByteArray.data.toList

/-- The text that the bytes encode, if they are well-formed UTF-8. -/
def text? (bs : Bytes) : Option String := String.fromUTF8? ⟨bs.toArray⟩

theorem text?_ofText (s : String) : text? (ofText s) = some s := by
  have h : (⟨(ofText s).toArray⟩ : ByteArray) = s.toByteArray := by simp [ofText]
  simp [text?, h, String.fromUTF8?, s.isValidUTF8, String.fromUTF8]

theorem text?_eq_some_iff {bs : Bytes} {s : String} : text? bs = some s ↔ bs = ofText s := by
  constructor
  · intro h
    unfold text? String.fromUTF8? at h
    split at h
    · obtain rfl := Option.some.inj h
      simp [ofText, String.fromUTF8]
    · cases h
  · rintro rfl
    exact text?_ofText s

theorem ofText_inj {s t : String} (h : ofText s = ofText t) : s = t := by
  have := congrArg text? h
  simpa [text?_ofText] using this

/-! ## Numbers of fixed width -/

/-- The low `width` octets of a number, the lowest first. -/
def writeLE : Nat → Nat → Bytes
  | 0, _ => []
  | width + 1, n => UInt8.ofNat (n % 256) :: writeLE width (n / 256)

/-- The number whose octets are given, the lowest first. -/
def readLE : Bytes → Nat
  | [] => 0
  | b :: bs => b.toNat + 256 * readLE bs

/-- The low `width` octets of a number, the highest first. -/
def writeBE (width n : Nat) : Bytes := (writeLE width n).reverse

/-- The number whose octets are given, the highest first. -/
def readBE (bs : Bytes) : Nat := readLE bs.reverse

@[simp] theorem length_writeLE (width n : Nat) : (writeLE width n).length = width := by
  induction width generalizing n with
  | zero => rfl
  | succ width ih => simp [writeLE, ih]

@[simp] theorem length_writeBE (width n : Nat) : (writeBE width n).length = width := by
  simp [writeBE]

theorem readLE_writeLE (width n : Nat) : readLE (writeLE width n) = n % Nat.pow 256 width := by
  induction width generalizing n with
  | zero => simp [readLE, writeLE, Nat.mod_one]
  | succ width ih =>
    have hb : (UInt8.ofNat (n % 256)).toNat = n % 256 := by
      simp
    simp only [readLE, writeLE, hb, ih]
    show _ = n % (Nat.pow 256 width * 256)
    rw [Nat.mul_comm (Nat.pow 256 width) 256, Nat.mod_mul]

theorem readBE_writeBE (width n : Nat) : readBE (writeBE width n) = n % Nat.pow 256 width := by
  simp [readBE, writeBE, readLE_writeLE]

theorem writeLE_readLE (bs : Bytes) : writeLE bs.length (readLE bs) = bs := by
  induction bs with
  | nil => rfl
  | cons b bs ih =>
    have hb := b.toNat_lt
    have hlow : (b.toNat + 256 * readLE bs) % 256 = b.toNat := by omega
    have hhigh : (b.toNat + 256 * readLE bs) / 256 = readLE bs := by omega
    rw [List.length_cons, readLE, writeLE, hlow, hhigh, ih, UInt8.ofNat_toNat]

theorem writeBE_readBE (bs : Bytes) : writeBE bs.length (readBE bs) = bs := by
  rw [writeBE, readBE, ← List.length_reverse, writeLE_readLE, List.reverse_reverse]

theorem readLE_lt (bs : Bytes) : readLE bs < Nat.pow 256 bs.length := by
  induction bs with
  | nil => exact Nat.one_pos
  | cons b bs ih =>
    have hb := b.toNat_lt
    have hpow : Nat.pow 256 (b :: bs).length = Nat.pow 256 bs.length * 256 := rfl
    rw [readLE, hpow]
    omega

theorem readBE_lt (bs : Bytes) : readBE bs < Nat.pow 256 bs.length := by
  rw [readBE, ← List.length_reverse]
  exact readLE_lt _

/-! ## Windows -/

/-- The last `n` bytes, or all of them if there are fewer. -/
def lastN (n : Nat) (bs : Bytes) : Bytes := bs.drop (bs.length - n)

@[simp] theorem length_lastN (n : Nat) (bs : Bytes) : (lastN n bs).length = min n bs.length := by
  simp [lastN]; omega

theorem lastN_of_length_le {n : Nat} {bs : Bytes} (h : bs.length ≤ n) : lastN n bs = bs := by
  unfold lastN
  rw [Nat.sub_eq_zero_of_le h, List.drop_zero]

/-- Bytes that the window let go do not matter to what follows. -/
theorem lastN_lastN_append (n : Nat) (bs cs : Bytes) :
    lastN n (lastN n bs ++ cs) = lastN n (bs ++ cs) := by
  unfold lastN
  have hle : bs.length - n ≤ bs.length := Nat.sub_le _ _
  rw [← List.drop_append_of_le_length hle, List.drop_drop]
  congr 1
  simp only [List.length_drop, List.length_append]
  omega

end Bytes

end DeviceBus
