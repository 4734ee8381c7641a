import DeviceBus.Json.Basic

/-!
# Typed readings of JSON

Each reading takes a document for a value of one type, or refuses it.
-/

namespace DeviceBus.Json

/-- The text of a string, if it is well-formed. -/
def text? : Json → Option String
  | .string content => Bytes.text? content
  | _ => none

/-- A boolean. -/
def bool? : Json → Option Bool
  | .bool b => some b
  | _ => none

/-- An integer between two bounds. -/
def int? (low high : Int) : Json → Option Int
  | .number n => n.int?.filter fun i => low ≤ i && i ≤ high
  | _ => none

/-- A natural number of at most `bits` bits. -/
def nat? (bits : Nat) (j : Json) : Option Nat := (int? 0 ((1 <<< bits : Nat) - 1) j).map Int.toNat

/-- A number of eight bits. -/
def byte? (j : Json) : Option UInt8 := (nat? 8 j).map UInt8.ofNat

/-- A number of 32 bits. -/
def word32? (j : Json) : Option UInt32 := (nat? 32 j).map UInt32.ofNat

/-- A number of 64 bits. -/
def word64? (j : Json) : Option UInt64 := (nat? 64 j).map UInt64.ofNat

/-- A signed number of 32 bits. -/
def signed32? (j : Json) : Option Int := int? Int32.minValue.toInt Int32.maxValue.toInt j

/-- A value, or nothing where `null` is written. -/
def option? {α : Type} (f : Json → Option α) : Json → Option (Option α)
  | .null => some none
  | j => (f j).map some

/-- A list, if every item can be read. -/
def list? {α : Type} (f : Json → Option α) : Json → Option (List α)
  | .array items => items.mapM f
  | _ => none

/-- A list of bytes. -/
def bytes? : Json → Option Bytes := list? byte?

/-- The fields of an object without those whose key comes again later. -/
def lastFields : List (Bytes × Json) → List (Bytes × Json)
  | [] => []
  | f :: rest => if rest.any (·.1 = f.1) then lastFields rest else f :: lastFields rest

/-! ## Records with named fields -/

/-- What a reading finds under the names of a record. -/
abbrev Members := List (String × Json)

/-- The value under a name. -/
def Members.get? (ms : Members) (name : String) : Option Json := (ms.find? (·.1 = name)).map (·.2)

/-- Sorts the fields of an object under the names of a record.  A name may occur once only; other
keys are skipped if `lenient` and refused if not. -/
def namedMembers? (names : List String) (lenient : Bool) : List (Bytes × Json) → Option Members
  | [] => some []
  | (key, v) :: rest => do
    let name ← Bytes.text? key
    let ms ← namedMembers? names lenient rest
    if name ∈ names then if (ms.get? name).isSome then none else some ((name, v) :: ms)
    else if lenient then some ms
    else none

/-- The members of a record, written as an object, or as an array that gives the first of them in
order. -/
def members? (names : List String) (lenient : Bool) : Json → Option Members
  | .object fields => namedMembers? names lenient fields
  | .array items => if items.length ≤ names.length then some (names.zip items) else none
  | _ => none

/-- A member that must be there. -/
def Members.required? {α : Type} (ms : Members) (name : String) (f : Json → Option α) : Option α :=
  (ms.get? name).bind f

/-- A member that has a value of its own where it is missing. -/
def Members.optional? {α : Type} (ms : Members) (name : String) (missing : α)
    (f : Json → Option α) : Option α :=
  match ms.get? name with
  | none => some missing
  | some j => f j

end DeviceBus.Json
