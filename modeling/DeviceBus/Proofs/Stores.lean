import DeviceBus.Device.Ram
import Mathlib.Algebra.GroupWithZero.Nat
import Mathlib.Data.List.Induction

/-!
# Stores to a memory

What a memory holds is told by what was stored in it (`Store`), the latest store first.  A write stores its bytes
from its offset on, a state that is taken over and a finalization store every cell.  After any calls a cell holds
the byte that was stored there last, and zero if none was:

    save[a] = lastByte stores a, or 0                for `a` below the size
    read[k] = save[offset + k], or 0xFF past the end

Offsets have 64 bits.  The sums of an access may take more, and are checked or kept below for that; no such sum
gets as far as the memory (`Ram.stores_kept`).
-/

namespace DeviceBus

/-! ## Stores -/

/-- Bytes that are stored from an offset on. -/
structure Store where
  offset : Nat
  data : Bytes
  deriving DecidableEq, Repr

/-- The byte that a store puts at an address, if it reaches it. -/
def Store.byte? (s : Store) (a : Nat) : Option UInt8 := if s.offset ≤ a then s.data[a - s.offset]? else none

theorem Store.byte?_eq_none {s : Store} {a : Nat} (h : a < s.offset ∨ s.offset + s.data.length ≤ a) :
    s.byte? a = none := by
  rw [byte?]
  split
  · exact List.getElem?_eq_none (by omega)
  · rfl

/-- The byte that was stored at an address last, if any was.  The latest store is first. -/
def lastByte (stores : List Store) (a : Nat) : Option UInt8 := stores.findSome? (·.byte? a)

namespace Bytes

/-- Every byte is the one stored there last, or what it was before. -/
def after (stores : List Store) (bs : Bytes) : Bytes := bs.mapIdx fun a b => (lastByte stores a).getD b

/-- One store, of which the part past the end is lost. -/
def put (bs : Bytes) (s : Store) : Bytes :=
  bs.take s.offset ++ s.data.take (bs.length - s.offset) ++ bs.drop (s.offset + s.data.length)

@[simp] theorem length_after (stores : List Store) (bs : Bytes) : (after stores bs).length = bs.length := by
  simp [after]

@[simp] theorem getElem?_after (stores : List Store) (bs : Bytes) (a : Nat) :
    (after stores bs)[a]? = bs[a]?.map fun b => (lastByte stores a).getD b := by
  simp [after]

@[simp] theorem after_nil (bs : Bytes) : after [] bs = bs := by
  apply List.ext_getElem?
  intro a
  rw [getElem?_after]
  exact congrFun Option.map_id bs[a]?

@[simp] theorem length_put (bs : Bytes) (s : Store) : (put bs s).length = bs.length := by
  simp only [put, List.length_append, List.length_take, List.length_drop]
  omega

theorem getElem?_put (bs : Bytes) (s : Store) (a : Nat) :
    (put bs s)[a]? = bs[a]?.map fun b => (s.byte? a).getD b := by
  by_cases hpast : bs.length ≤ a
  · rw [List.getElem?_eq_none hpast, List.getElem?_eq_none ((length_put bs s).symm ▸ hpast)]
    rfl
  · have ha : a < bs.length := Nat.lt_of_not_le hpast
    rw [List.getElem?_eq_getElem ha, put, Store.byte?, Option.map_some, List.append_assoc]
    by_cases hbefore : a < s.offset
    · rw [List.getElem?_append_left (by simp; omega), List.getElem?_take_of_lt hbefore,
        List.getElem?_eq_getElem ha, if_neg (Nat.not_le.mpr hbefore)]
      rfl
    · have hfront : (bs.take s.offset).length = s.offset := List.length_take_of_le (by omega)
      rw [List.getElem?_append_right (by omega), hfront, if_pos (Nat.le_of_not_lt hbefore)]
      by_cases hreached : a - s.offset < s.data.length
      · have hkept : a - s.offset < (s.data.take (bs.length - s.offset)).length := by
          rw [List.length_take]
          omega
        rw [List.getElem?_append_left hkept, List.getElem?_take_of_lt (by omega),
          List.getElem?_eq_getElem hreached]
        rfl
      · -- behind the store, all of which fits
        have hkept : (s.data.take (bs.length - s.offset)).length = s.data.length := by
          rw [List.length_take]
          omega
        have hindex : s.offset + s.data.length + (a - s.offset - s.data.length) = a := by omega
        rw [List.getElem?_append_right (by omega), hkept, List.getElem?_drop, hindex,
          List.getElem?_eq_getElem ha, List.getElem?_eq_none (Nat.le_of_not_lt hreached)]
        rfl

/-- A store that begins past the end is lost. -/
theorem put_of_length_le {bs : Bytes} {s : Store} (h : bs.length ≤ s.offset) : put bs s = bs := by
  rw [put, List.take_of_length_le h, Nat.sub_eq_zero_of_le h, List.take_zero, List.append_nil,
    List.drop_eq_nil_of_le (by omega), List.append_nil]

/-- A store may take the place of all there is. -/
theorem put_whole {bs data : Bytes} (h : data.length = bs.length) : put bs ⟨0, data⟩ = data := by
  simp [put, ← h]

theorem after_cons (s : Store) (stores : List Store) (bs : Bytes) :
    after (s :: stores) bs = put (after stores bs) s := by
  apply List.ext_getElem?
  intro a
  rw [getElem?_put, getElem?_after, getElem?_after, Option.map_map]
  refine congrArg (fun f => bs[a]?.map f) (funext fun b => ?_)
  rw [lastByte, List.findSome?_cons]
  cases s.byte? a <;> simp [lastByte]

end Bytes

/-! ## Addresses of 64 bits -/

/-- An address so far behind an offset, unless that takes more than 64 bits. -/
def checkedAdd (offset : UInt64) (i : Nat) : Option Nat :=
  if offset.toNat + i < 2 ^ 64 then some (offset.toNat + i) else none

/-! ## Memories -/

namespace Ram

/-- A call that may change a memory. -/
inductive Call where
  | write (offset : UInt64) (data : Bytes)
  | restore (state : Bytes)
  | finalize
  deriving DecidableEq, Repr

/-- The memory after a call; one that refuses a state is left as it is. -/
def perform (r : Ram) : Call → Ram
  | .write offset data => r.write offset.toNat data
  | .restore state => (r.restore state).toOption.getD r
  | .finalize => r.zero

/-- The memory after a list of calls. -/
def run (r : Ram) (calls : List Call) : Ram := calls.foldl perform r

/-- What a call stores in a memory of such a size. -/
def Call.store? (size : Nat) : Call → Option Store
  | .write offset data => some ⟨offset.toNat, data⟩
  | .restore state => if state.length = size then some ⟨0, state⟩ else none
  | .finalize => some ⟨0, List.replicate size 0⟩

/-- What some calls store, the latest first. -/
def stores (size : Nat) (calls : List Call) : List Store := calls.reverse.filterMap (Call.store? size)

/-- Reads byte after byte, each at an address of its own. -/
def readEach (contents : Bytes) (offset : UInt64) (count : Nat) : Bytes :=
  (List.range count).map fun i => ((checkedAdd offset i).bind fun a => contents[a]?).getD 0xFF

/-- Writes a slice, from the offset to an end that is neither past the memory nor past the addresses. -/
def writeSlice (contents : Bytes) (offset : UInt64) (data : Bytes) : Bytes :=
  if contents.length ≤ offset.toNat then contents
  else
    let stop := min contents.length (min (offset.toNat + data.length) (2 ^ 64 - 1))
    contents.take offset.toNat ++ data.take (stop - offset.toNat) ++ contents.drop stop

/-- The cells that were never written hold zero. -/
theorem save_eq (r : Ram) : r.save = r.written ++ List.replicate (r.size - r.written.length) 0 := by
  rw [save, cells, List.drop_zero, List.take_of_length_le r.written_le, Nat.sub_zero, Nat.min_self]

@[simp] theorem length_save (r : Ram) : r.save.length = r.size := by
  have := r.written_le
  rw [save_eq, List.length_append, List.length_replicate]
  omega

theorem cells_eq (r : Ram) (offset count : Nat) : r.cells offset count = (r.save.drop offset).take count := by
  have hle := r.written_le
  have hzeros : min count (r.size - offset) - ((r.written.drop offset).take count).length =
      min (count - (r.written.length - offset)) (r.size - r.written.length - (offset - r.written.length)) := by
    rw [List.length_take, List.length_drop]
    omega
  rw [cells, save_eq, List.drop_append, List.take_append, List.drop_replicate, List.take_replicate,
    List.length_drop, hzeros]

theorem length_read (r : Ram) (offset count : Nat) : (r.read offset count).length = count := by
  rw [read, cells_eq, List.length_append, List.length_take, List.length_drop, length_save,
    List.length_replicate]
  omega

theorem getElem?_read (r : Ram) {offset count k : Nat} (hk : k < count) :
    (r.read offset count)[k]? = some (r.save[offset + k]?.getD 0xFF) := by
  have hlength : ((r.save.drop offset).take count).length = min count (r.size - offset) := by
    rw [List.length_take, List.length_drop, length_save]
  rw [read, cells_eq]
  by_cases hin : offset + k < r.size
  · rw [List.getElem?_append_left (by omega), List.getElem?_take_of_lt hk, List.getElem?_drop,
      List.getElem?_eq_getElem (by rwa [length_save])]
    rfl
  · rw [List.getElem?_append_right (by omega), List.getElem?_replicate, if_pos (by omega),
      List.getElem?_eq_none (by rw [length_save]; omega)]
    rfl

theorem save_write (r : Ram) (offset : Nat) (data : Bytes) :
    (r.write offset data).save = r.save.put ⟨offset, data⟩ := by
  have hle := r.written_le
  unfold write
  split
  · next hpast => rw [Bytes.put_of_length_le (by rwa [length_save])]
  · next hin =>
    -- zeros that were understood before the offset are spelt out, and those behind the data are fewer by as many
    have hgap : min (offset - r.written.length) (r.size - r.written.length) = offset - r.written.length := by
      omega
    have hbehind : r.written.drop (offset + min (r.size - offset) data.length) =
        r.written.drop (offset + data.length) := by
      by_cases hfits : data.length ≤ r.size - offset
      · rw [Nat.min_eq_right hfits]
      · rw [List.drop_eq_nil_of_le (by omega), List.drop_eq_nil_of_le (by omega)]
    have hzeros : r.size - (min offset r.written.length + (offset - r.written.length +
        (min (r.size - offset) data.length + (r.written.length - (offset + data.length))))) =
          r.size - r.written.length - (offset + data.length - r.written.length) := by
      omega
    rw [save_eq, Bytes.put, length_save, save_eq r, List.take_append, List.drop_append, List.take_replicate,
      List.drop_replicate]
    simp only [List.append_assoc, List.length_append, List.length_take, List.length_drop,
      List.length_replicate, hgap, hbehind, hzeros]

theorem save_zero (r : Ram) : r.zero.save = List.replicate r.size 0 := save_eq _

theorem save_new (id : DeviceId) (size : Nat) (draw : Int) : (new id size draw).save = List.replicate size 0 :=
  save_eq _

/-- A memory all of which was written. -/
theorem save_of_full {r : Ram} (h : r.written.length = r.size) : r.save = r.written := by
  rw [save_eq, h, Nat.sub_self]
  exact List.append_nil _

/-- A memory has what it restored. -/
theorem restore_save {r r' : Ram} {state : Bytes} (h : r.restore state = .ok r') :
    r'.save = state := by
  unfold restore at h
  split at h
  · next hsize =>
    cases h
    exact save_of_full hsize
  · cases h

theorem write_extent (r : Ram) (offset : Nat) (data : Bytes) :
    (r.write offset data).size = r.size ∧ (r.write offset data).draw = r.draw := by
  unfold write
  split <;> exact ⟨rfl, rfl⟩

/-- A state is taken over exactly if it is as long as the memory. -/
theorem restore_of_length {r : Ram} {state : Bytes} (h : state.length = r.size) :
    ∃ r', r.restore state = .ok r' ∧ r'.size = r.size ∧ r'.save = state :=
  ⟨_, dif_pos h, rfl, save_of_full h⟩

theorem restore_of_length_ne {r : Ram} {state : Bytes} (h : state.length ≠ r.size) :
    r.restore state = .error (r.sizeMismatch state) :=
  dif_neg h

theorem perform_restore_of_ok {r r' : Ram} {state : Bytes} (h : r.restore state = .ok r') :
    r.perform (.restore state) = r' := by
  rw [perform, h]
  rfl

theorem perform_restore_of_error {r : Ram} {state : Bytes} {e : Fault} (h : r.restore state = .error e) :
    r.perform (.restore state) = r := by
  rw [perform, h]
  rfl

/-- A memory, told by what was stored in it. -/
structure Holds (size : Nat) (stores : List Store) (r : Ram) : Prop where
  size_eq : r.size = size
  save_eq : r.save = Bytes.after stores (List.replicate size 0)

theorem new_holds (id : DeviceId) (size : Nat) (draw : Int) : (new id size draw).Holds size [] :=
  ⟨rfl, (save_new id size draw).trans (Bytes.after_nil _).symm⟩

section

variable {size : Nat} {stores : List Store} {r r' : Ram}

/-- One more store. -/
theorem Holds.store (h : r.Holds size stores) {s : Store} (hsize : r'.size = r.size)
    (hsave : r'.save = r.save.put s) : r'.Holds size (s :: stores) where
  size_eq := hsize.trans h.size_eq
  save_eq := by rw [hsave, h.save_eq, Bytes.after_cons]

/-- Every cell is stored anew. -/
theorem Holds.replace (h : r.Holds size stores) {data : Bytes} (hlength : data.length = size)
    (hsize : r'.size = r.size) (hsave : r'.save = data) : r'.Holds size (⟨0, data⟩ :: stores) := by
  have hwhole : data.length = r.save.length := by rw [hlength, length_save, h.size_eq]
  exact h.store hsize (hsave.trans (Bytes.put_whole hwhole).symm)

theorem Holds.perform (h : r.Holds size stores) (c : Call) :
    (r.perform c).Holds size ((c.store? size).toList ++ stores) := by
  cases c with
  | write offset data => exact h.store (r.write_extent _ data).1 (r.save_write offset.toNat data)
  | restore state =>
    rw [Call.store?]
    by_cases hlength : state.length = size
    · obtain ⟨r', hrestore, hsize, hsave⟩ := restore_of_length (hlength.trans h.size_eq.symm)
      rw [perform_restore_of_ok hrestore, if_pos hlength]
      exact h.replace hlength hsize hsave
    · rw [perform_restore_of_error (restore_of_length_ne (h.size_eq ▸ hlength)), if_neg hlength]
      exact h
  | finalize => exact h.replace List.length_replicate rfl (h.size_eq ▸ r.save_zero)

end

theorem run_snoc (r : Ram) (calls : List Call) (c : Call) : r.run (calls ++ [c]) = (r.run calls).perform c := by
  simp [run]

theorem stores_snoc (size : Nat) (calls : List Call) (c : Call) :
    stores size (calls ++ [c]) = (c.store? size).toList ++ stores size calls := by
  rw [stores, stores, List.reverse_append, List.filterMap_append]
  cases h : c.store? size <;> simp [h]

/-- A memory holds what was stored in it. -/
theorem run_holds (id : DeviceId) (size : Nat) (draw : Int) (calls : List Call) :
    ((new id size draw).run calls).Holds size (stores size calls) := by
  induction calls using List.reverseRecOn with
  | nil => exact new_holds id size draw
  | append_singleton calls c ih =>
    rw [run_snoc, stores_snoc]
    exact ih.perform c

/-- A sum that takes more than 64 bits is past the end as well. -/
theorem read_eq_readEach {r : Ram} (hsize : r.size < 2 ^ 64) (offset : UInt64) (count : Nat) :
    r.read offset.toNat count = readEach r.save offset count := by
  refine List.ext_getElem? fun k => ?_
  by_cases hk : k < count
  · rw [getElem?_read r hk, readEach, List.getElem?_map, List.getElem?_range hk, Option.map_some, checkedAdd]
    split
    · rfl
    · next hover =>
      rw [List.getElem?_eq_none (by rw [length_save]; omega)]
      rfl
  · rw [List.getElem?_eq_none (by rw [length_read]; omega),
      List.getElem?_eq_none (by simp [readEach]; omega)]

theorem save_write_eq_writeSlice {r : Ram} (hsize : r.size < 2 ^ 64) (offset : UInt64) (data : Bytes) :
    (r.write offset.toNat data).save = writeSlice r.save offset data := by
  rw [save_write, writeSlice]
  split
  · next hpast => exact Bytes.put_of_length_le hpast
  · next hin =>
    have hstop : min r.size (min (offset.toNat + data.length) (2 ^ 64 - 1)) =
        min r.size (offset.toNat + data.length) := by omega
    have hdata : data.take (min r.size (offset.toNat + data.length) - offset.toNat) =
        data.take (r.size - offset.toNat) := by
      rw [List.take_eq_take_iff]
      omega
    have hbehind : r.save.drop (min r.size (offset.toNat + data.length)) =
        r.save.drop (offset.toNat + data.length) := by
      by_cases hfits : offset.toNat + data.length ≤ r.size
      · rw [Nat.min_eq_right hfits]
      · rw [List.drop_eq_nil_of_le (by rw [length_save]; omega),
          List.drop_eq_nil_of_le (by rw [length_save]; omega)]
    simp only [Bytes.put, length_save, hstop, hdata, hbehind]

/-- How a memory of such a size, with so much stored in it, is read and takes calls. -/
structure Serves (size : UInt64) (stores : List Store) (r : Ram) : Prop where
  length_read : ∀ (offset : UInt64) (count : Nat), (r.read offset.toNat count).length = count
  /-- A cell is read as what was stored there last. -/
  read_cell : ∀ (offset : UInt64) (count k : Nat), k < count → offset.toNat + k < size.toNat →
    (r.read offset.toNat count)[k]? = some ((lastByte stores (offset.toNat + k)).getD 0)
  /-- Past the cells, and past 64 bits, all bits are read as set. -/
  read_past : ∀ (offset : UInt64) (count k : Nat), k < count →
    size.toNat ≤ offset.toNat + k ∨ 2 ^ 64 ≤ offset.toNat + k →
      (r.read offset.toNat count)[k]? = some 0xFF
  /-- The cells and no more are saved. -/
  save_eq : r.save = (List.range size.toNat).map fun a => (lastByte stores a).getD 0
  /-- A write leaves all but its part of the cells. -/
  write_elsewhere : ∀ (offset : UInt64) (data : Bytes) (a : Nat),
    a < offset.toNat ∨ min size.toNat (offset.toNat + data.length) ≤ a →
      (r.write offset.toNat data).save[a]? = r.save[a]?
  /-- A state of another size is refused, and nothing changes. -/
  restore_iff : ∀ state, (∃ r', r.restore state = .ok r') ↔ state.length = size.toNat
  restore_refused : ∀ state, state.length ≠ size.toNat →
    r.restore state = .error (r.sizeMismatch state) ∧ r.perform (.restore state) = r
  /-- Sums of 64 bits, whether they are checked or kept below, do not show. -/
  read_eq : ∀ (offset : UInt64) (count : Nat), r.read offset.toNat count = readEach r.save offset count
  write_eq : ∀ (offset : UInt64) (data : Bytes),
    (r.write offset.toNat data).save = writeSlice r.save offset data

section

variable {size : UInt64} {stores : List Store} {r : Ram}

theorem Holds.getElem?_save (h : r.Holds size.toNat stores) {a : Nat} (ha : a < size.toNat) :
    r.save[a]? = some ((lastByte stores a).getD 0) := by
  rw [h.save_eq, Bytes.getElem?_after, List.getElem?_replicate, if_pos ha]
  rfl

theorem Holds.getElem?_save_past (h : r.Holds size.toNat stores) {a : Nat} (ha : size.toNat ≤ a) :
    r.save[a]? = none :=
  List.getElem?_eq_none (by rwa [length_save, h.size_eq])

theorem Holds.write_elsewhere (h : r.Holds size.toNat stores) {offset : UInt64} {data : Bytes} {a : Nat}
    (ha : a < offset.toNat ∨ min size.toNat (offset.toNat + data.length) ≤ a) :
    (r.write offset.toNat data).save[a]? = r.save[a]? := by
  rw [save_write, Bytes.getElem?_put]
  by_cases hpast : size.toNat ≤ a
  · rw [h.getElem?_save_past hpast]
    rfl
  · have hnone : (Store.mk offset.toNat data).byte? a = none := Store.byte?_eq_none (by dsimp only; omega)
    rw [hnone]
    exact congrFun Option.map_id r.save[a]?

theorem Holds.serves (h : r.Holds size.toNat stores) : r.Serves size stores where
  length_read offset count := r.length_read _ _
  read_cell offset count k hk hin := by
    rw [getElem?_read r hk, h.getElem?_save hin]
    rfl
  read_past offset count k hk hout := by
    have hend : size.toNat ≤ offset.toNat + k := by
      have := size.toNat_lt
      omega
    rw [getElem?_read r hk, h.getElem?_save_past hend]
    rfl
  save_eq := by
    refine List.ext_getElem? fun a => ?_
    by_cases ha : a < size.toNat
    · rw [h.getElem?_save ha, List.getElem?_map, List.getElem?_range ha]
      rfl
    · rw [h.getElem?_save_past (Nat.le_of_not_lt ha), List.getElem?_eq_none (by simpa using ha)]
  write_elsewhere offset data a := h.write_elsewhere
  restore_iff state := by
    constructor
    · rintro ⟨r', hrestore⟩
      by_contra hlength
      rw [restore_of_length_ne (h.size_eq ▸ hlength)] at hrestore
      cases hrestore
    · intro hlength
      obtain ⟨r', hrestore, -⟩ := restore_of_length (hlength.trans h.size_eq.symm)
      exact ⟨r', hrestore⟩
  restore_refused state hlength := by
    have hrefused := restore_of_length_ne (h.size_eq ▸ hlength)
    exact ⟨hrefused, perform_restore_of_error hrefused⟩
  read_eq := read_eq_readEach (h.size_eq ▸ size.toNat_lt)
  write_eq := save_write_eq_writeSlice (h.size_eq ▸ size.toNat_lt)

end

/-- After any calls a memory is read as what was stored in it last. -/
theorem stores_kept (id : DeviceId) (size : UInt64) (draw : Int) (calls : List Call) :
    ((new id size.toNat draw).run calls).Serves size (stores size.toNat calls) :=
  (run_holds id size.toNat draw calls).serves

/-! The second write goes past the end, and a state of another size is refused. -/

example : ((new ⟨1⟩ 4 0).run [.write 0 [1, 2], .write 1 [3, 4, 5, 6], .restore [7]]).read 0 6 =
    [1, 3, 4, 5, 0xFF, 0xFF] := by
  decide

end Ram

end DeviceBus
