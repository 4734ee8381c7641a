import DeviceBus.Json.Basic

/-!
# Writing JSON

Documents are written compactly or with one item a line.  Strings escape quotes, backslashes and
control characters, and nothing else.
-/

namespace DeviceBus.Json

/-! ## Scalars -/

/-- The digits of a number in base ten. -/
def decimal (n : Nat) : Bytes := (Nat.toDigits 10 n).map fun c => UInt8.ofNat c.toNat

/-- Whether a number is read as an integer of 64 bits, with or without a sign. -/
def isInteger64 (n : Numeral) : Bool :=
  match n.int? with
  | some i => Int64.minValue.toInt ≤ i && i < UInt64.size
  | none => false

/-- A number.  One that is not read as an integer keeps an exponent, so that it never is. -/
def printNumeral (n : Numeral) : Bytes :=
  (if n.negative then [0x2D] else []) ++ decimal n.mantissa ++
    if isInteger64 n then []
    else 0x65 :: (if n.exponent < 0 then [0x2D] else []) ++ decimal n.exponent.natAbs

/-- One byte of a string. -/
def escapeByte (b : UInt8) : Bytes :=
  if b = 0x22 then [0x5C, 0x22]
  else if b = 0x5C then [0x5C, 0x5C]
  else if b = 0x08 then [0x5C, 0x62]
  else if b = 0x09 then [0x5C, 0x74]
  else if b = 0x0A then [0x5C, 0x6E]
  else if b = 0x0C then [0x5C, 0x66]
  else if b = 0x0D then [0x5C, 0x72]
  else if b < 0x20 then
    [0x5C, 0x75, 0x30, 0x30, 0x30 + b / 16, if b % 16 < 10 then 0x30 + b % 16 else 0x57 + b % 16]
  else [b]

/-- A string, between quotes. -/
def printString (content : Bytes) : Bytes := 0x22 :: content.flatMap escapeByte ++ [0x22]

/-- `true` or `false`. -/
def printBool : Bool → Bytes
  | true => [0x74, 0x72, 0x75, 0x65]
  | false => [0x66, 0x61, 0x6C, 0x73, 0x65]

/-- `null`. -/
def printNull : Bytes := [0x6E, 0x75, 0x6C, 0x6C]

/-! ## Documents -/

theorem sizeOf_field_lt {fields : List (Bytes × Json)} {f : Bytes × Json} (h : f ∈ fields) :
    sizeOf f.2 < sizeOf (Json.object fields) := by
  have := List.sizeOf_lt_of_mem h
  obtain ⟨key, v⟩ := f
  simp only [Prod.mk.sizeOf_spec, Json.object.sizeOf_spec] at this ⊢
  omega

theorem sizeOf_item_lt {items : List Json} {v : Json} (h : v ∈ items) :
    sizeOf v < sizeOf (Json.array items) := by
  have := List.sizeOf_lt_of_mem h
  simp only [Json.array.sizeOf_spec]
  omega

/-- A document without blanks. -/
def compact : Json → Bytes
  | .null => printNull
  | .bool b => printBool b
  | .number n => printNumeral n
  | .string content => printString content
  | .array items => 0x5B :: [0x2C].intercalate (items.attach.map fun v => compact v.1) ++ [0x5D]
  | .object fields =>
    0x7B :: [0x2C].intercalate
      (fields.attach.map fun f => printString f.1.1 ++ 0x3A :: compact f.1.2) ++ [0x7D]
termination_by j => sizeOf j
decreasing_by
  · exact sizeOf_item_lt v.2
  · exact sizeOf_field_lt f.2

/-- The end of a line and the indentation of the next. -/
def newLine (level : Nat) : Bytes := 0x0A :: List.replicate (2 * level) 0x20

/-- Items, one a line, between two brackets. -/
def block (level : Nat) (opening closing : UInt8) (items : List Bytes) : Bytes :=
  if items.isEmpty then [opening, closing]
  else
    opening :: newLine (level + 1) ++ (0x2C :: newLine (level + 1)).intercalate items ++
      newLine level ++ [closing]

/-- A document with one item a line; lines are indented by two blanks a level. -/
def pretty (level : Nat) : Json → Bytes
  | .null => printNull
  | .bool b => printBool b
  | .number n => printNumeral n
  | .string content => printString content
  | .array items => block level 0x5B 0x5D (items.attach.map fun v => pretty (level + 1) v.1)
  | .object fields =>
    block level 0x7B 0x7D
      (fields.attach.map fun f => printString f.1.1 ++ [0x3A, 0x20] ++ pretty (level + 1) f.1.2)
termination_by j => sizeOf j
decreasing_by
  · exact sizeOf_item_lt v.2
  · exact sizeOf_field_lt f.2

theorem compact_array (items : List Json) :
    compact (.array items) = 0x5B :: [0x2C].intercalate (items.map compact) ++ [0x5D] := by
  rw [compact, List.attach_map_val (f := compact)]

theorem compact_object (fields : List (Bytes × Json)) :
    compact (.object fields) = 0x7B :: [0x2C].intercalate
      (fields.map fun f => printString f.1 ++ 0x3A :: compact f.2) ++ [0x7D] := by
  rw [compact, List.attach_map_val (f := fun f : Bytes × Json => printString f.1 ++ 0x3A :: compact f.2)]

theorem pretty_array (level : Nat) (items : List Json) :
    pretty level (.array items) = block level 0x5B 0x5D (items.map (pretty (level + 1))) := by
  rw [pretty, List.attach_map_val (f := pretty (level + 1))]

theorem pretty_object (level : Nat) (fields : List (Bytes × Json)) :
    pretty level (.object fields) = block level 0x7B 0x7D
      (fields.map fun f => printString f.1 ++ [0x3A, 0x20] ++ pretty (level + 1) f.2) := by
  rw [pretty, List.attach_map_val
    (f := fun f : Bytes × Json => printString f.1 ++ [0x3A, 0x20] ++ pretty (level + 1) f.2)]

end DeviceBus.Json
