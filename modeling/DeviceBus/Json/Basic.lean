import DeviceBus.Bytes

/-!
# JSON values

A JSON document as a tree.  Numbers keep the digits they were written with, and strings are kept as
bytes: a document may hold text that is not well-formed, and it matters only to who reads it.
-/

namespace DeviceBus

/-- A number as it was written, `± mantissa · 10 ^ exponent`. -/
structure Numeral where
  negative : Bool
  mantissa : Nat
  exponent : Int
  /-- Whether it was written without a fraction and without an exponent. -/
  isWhole : Bool
  deriving DecidableEq, Repr

/-- A JSON document. -/
inductive Json where
  | null
  | bool (value : Bool)
  | number (value : Numeral)
  | string (content : Bytes)
  | array (items : List Json)
  | object (fields : List (Bytes × Json))

namespace Numeral

/-- The numeral of a natural number. -/
def ofNat (n : Nat) : Numeral := ⟨false, n, 0, true⟩

/-- The numeral of an integer. -/
def ofInt (i : Int) : Numeral := ⟨decide (i < 0), i.natAbs, 0, true⟩

/-- The integer that a numeral writes out.  `-0` writes none: its sign would be lost. -/
def int? (n : Numeral) : Option Int :=
  if !n.isWhole then none
  else if !n.negative then some n.mantissa
  else if n.mantissa = 0 then none
  else some (-(n.mantissa : Int))

@[simp] theorem int?_ofNat (n : Nat) : (ofNat n).int? = some (n : Int) := by simp [ofNat, int?]

/-! ## Doubles

A number that is no 64-bit integer is read as a double: its leading digits, as many as fit into 64 bits,
are rounded and multiplied by a power of ten that is rounded as well. -/

/-- The leading digits of a mantissa that make a 64-bit number, and how many digits are behind them. -/
def significand (mantissa : Nat) : Nat × Nat :=
  if mantissa < 1 <<< 64 then (mantissa, 0)
  else
    let (leading, behind) := significand (mantissa / 10)
    (leading, behind + 1)
termination_by mantissa
decreasing_by omega

/-- The double next to a natural number, and of two that are equally near the even one, as if there were no
largest double. -/
def nearestDouble (n : Nat) : Nat :=
  let unit := 1 <<< (n.log2 - 52)
  let below := n / unit
  let rest := n % unit
  (if 2 * rest < unit ∨ 2 * rest = unit ∧ below % 2 = 0 then below else below + 1) * unit

/-- The products from here on round to infinity as doubles. -/
def doubleBound : Nat := 1 <<< 1024 - 1 <<< 970

/-- Whether the number is read as a finite double. -/
def isFinite (n : Numeral) : Bool :=
  let (leading, behind) := significand n.mantissa
  let exponent := n.exponent + behind
  leading = 0 || exponent < 0 ||
    exponent ≤ 308 && nearestDouble leading * nearestDouble (Nat.pow 10 exponent.toNat) < doubleBound

end Numeral

namespace Json

/-- The string of a text. -/
def ofText (s : String) : Json := .string (Bytes.ofText s)

/-- The number of a natural number. -/
def ofNat (n : Nat) : Json := .number (.ofNat n)

/-- The number of an integer. -/
def ofInt (i : Int) : Json := .number (.ofInt i)

/-- The array of the bytes of a byte string. -/
def ofBytes (bs : Bytes) : Json := .array (bs.map fun b => ofNat b.toNat)

/-- `null` for nothing. -/
def ofOption {α : Type} (f : α → Json) : Option α → Json
  | none => .null
  | some a => f a

/-- An object whose keys are texts. -/
def ofFields (fields : List (String × Json)) : Json :=
  .object (fields.map fun f => (Bytes.ofText f.1, f.2))

/-- Whether arrays and objects nest at most `depth` deep, all text is well-formed, and all numbers
are finite. -/
def isRegular : Nat → Json → Bool
  | _, .null => true
  | _, .bool _ => true
  | _, .number n => n.isFinite
  | _, .string content => (Bytes.text? content).isSome
  | 0, .array _ => false
  | 0, .object _ => false
  | depth + 1, .array items => items.all (isRegular depth)
  | depth + 1, .object fields =>
    fields.all fun f => (Bytes.text? f.1).isSome && isRegular depth f.2

end Json

end DeviceBus
