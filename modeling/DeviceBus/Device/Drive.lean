import DeviceBus.Bytes
import DeviceBus.Ident

/-!
# Drives

A drive holds one medium at a time.  While it is attached it knows the machine whose worker has to
be idle before the medium may change.
-/

namespace DeviceBus

/-- A storage medium. -/
structure Medium where
  data : Bytes
  readOnly : Bool
  deriving DecidableEq, Repr

/-- Why an access to storage fails. -/
inductive StorageError where
  /-- There is no medium. -/
  | noMedium
  /-- The medium refuses writes. -/
  | readOnly
  /-- The access reaches past the end. -/
  | pastEnd
  /-- The storage never changes. -/
  | fixed
  deriving DecidableEq, Repr

/-- The failure in words. -/
def StorageError.message : StorageError → String
  | noMedium => "no medium"
  | readOnly => "medium is read-only"
  | pastEnd => "access past end of medium"
  | fixed => "fixed"

/-- A drive for removable media. -/
structure Drive where
  id : DeviceId
  /-- The longest medium accepted; longer ones are cut. -/
  capacity : Nat
  medium : Option Medium
  /-- The machine the drive is attached to. -/
  barrier : Option MachineId
  deriving DecidableEq, Repr

namespace Drive

/-- Size of a drive's registers on the bus. -/
def registerWindow : Nat := 0x100

/-- An empty drive. -/
def new (id : DeviceId) (capacity : Nat) : Drive := ⟨id, capacity, none, none⟩

/-! ## Media -/

/-- Puts a medium in, cut to the capacity, in place of the one that is there. -/
def insert (d : Drive) (m : Medium) : Drive :=
  { d with medium := some { m with data := m.data.take d.capacity } }

/-- Takes the medium out. -/
def eject (d : Drive) : Option Medium × Drive := (d.medium, { d with medium := none })

/-! ## Access -/

/-- Length of the medium, zero without one. -/
def length (d : Drive) : Nat := (d.medium.map fun m => m.data.length).getD 0

/-- Whether writes are refused; they are without a medium. -/
def isReadOnly (d : Drive) : Bool := (d.medium.map Medium.readOnly).getD true

/-- Reads `count` bytes, all of them on the medium. -/
def readAt (d : Drive) (offset count : Nat) : Except StorageError Bytes :=
  match d.medium with
  | none => .error .noMedium
  | some m =>
    if offset + count ≤ m.data.length then .ok ((m.data.drop offset).take count)
    else .error .pastEnd

/-- Writes all of the bytes, or none. -/
def writeAt (d : Drive) (offset : Nat) (data : Bytes) : Except StorageError Drive :=
  match d.medium with
  | none => .error .noMedium
  | some m =>
    if m.readOnly then .error .readOnly
    else if offset + data.length ≤ m.data.length then
      .ok { d with medium := some { m with
        data := m.data.take offset ++ data ++ m.data.drop (offset + data.length) } }
    else .error .pastEnd

/-! ## Saved state -/

/-- The medium behind a byte that tells whether it is read-only; nothing without a medium. -/
def save (d : Drive) : Option Bytes :=
  d.medium.map fun m => (if m.readOnly then 1 else 0) :: m.data

/-- The medium that saved state describes. -/
def savedMedium : Bytes → Except Fault Medium
  | [] => .error ⟨"empty drive state"⟩
  | 0 :: data => .ok ⟨data, false⟩
  | 1 :: data => .ok ⟨data, true⟩
  | flag :: _ => .error ⟨"bad medium flag " ++ toString flag.toNat⟩

/-- Puts in the medium that saved state describes. -/
def restore (d : Drive) (state : Bytes) : Except Fault Drive := (savedMedium state).map d.insert

end Drive

end DeviceBus
