import DeviceBus.Bytes
import DeviceBus.Ident

/-!
# Memories

A memory of a fixed size.  Reading past its end gives `0xFF`, writing past it does nothing.
-/

namespace DeviceBus

/-- A byte-addressable memory. -/
structure Ram where
  id : DeviceId
  /-- Energy drawn per tick. -/
  draw : Int
  size : Nat
  /-- The cells up to the last one ever written; the cells behind them hold zero. -/
  written : Bytes
  written_le : written.length ≤ size
  deriving Repr

namespace Ram

/-- A memory of zeros. -/
def new (id : DeviceId) (size : Nat) (draw : Int) : Ram := ⟨id, draw, size, [], Nat.zero_le _⟩

/-- What the cells hold from `offset` on, for at most `count` cells of the memory. -/
def cells (r : Ram) (offset count : Nat) : Bytes :=
  let known := (r.written.drop offset).take count
  known ++ List.replicate (min count (r.size - offset) - known.length) 0

/-- Reads `count` bytes. -/
def read (r : Ram) (offset count : Nat) : Bytes :=
  r.cells offset count ++ List.replicate (count - (r.size - offset)) 0xFF

/-- Writes the bytes that fall inside the memory. -/
def write (r : Ram) (offset : Nat) (data : Bytes) : Ram :=
  if h : r.size ≤ offset then r
  else
    let kept := data.take (r.size - offset)
    { r with
      written := r.written.take offset ++ List.replicate (offset - r.written.length) 0 ++ kept ++
        r.written.drop (offset + kept.length)
      written_le := by
        have := r.written_le
        simp only [kept, List.length_append, List.length_replicate, List.length_take,
          List.length_drop]
        omega }

/-- Everything the memory holds. -/
def save (r : Ram) : Bytes := r.cells 0 r.size

/-- Why saved contents do not fit. -/
def sizeMismatch (r : Ram) (data : Bytes) : Fault :=
  ⟨"saved memory is " ++ toString data.length ++ " bytes, device has " ++ toString r.size⟩

/-- Takes over saved contents of exactly its own size. -/
def restore (r : Ram) (data : Bytes) : Except Fault Ram :=
  if h : data.length = r.size then .ok { r with written := data, written_le := Nat.le_of_eq h }
  else .error (r.sizeMismatch data)

/-- Zeroes every cell. -/
def zero (r : Ram) : Ram := { r with written := [], written_le := Nat.zero_le _ }

end Ram

end DeviceBus
