import DeviceBus.Json.Basic

/-!
# JSON tokens

Tokens are read one byte at a time.  A `Lexeme` is the token that is not yet complete; `advance`
gives the tokens that one more byte completes and the lexeme after it.
-/

namespace DeviceBus.Json

/-- A token of a document. -/
inductive Token where
  | openObject
  | closeObject
  | openArray
  | closeArray
  | colon
  | comma
  /-- `null`, `true`, `false`, a number or a string. -/
  | scalar (value : Json)

/-! ## Strings -/

/-- A string that is not yet closed. -/
structure OpenString where
  /-- Its bytes so far, the last first. -/
  reversed : Bytes
  /-- The first half of a surrogate pair that waits for the second. -/
  high : Option Nat

namespace OpenString

/-- The three bytes, last first, of a code unit from `0x800` on.  For half a surrogate pair they are
not well-formed. -/
def unitBytes (unit : Nat) : Bytes :=
  [UInt8.ofNat (0x80 + unit % 64), UInt8.ofNat (0x80 + unit / 64 % 64), UInt8.ofNat (0xE0 + unit / 4096)]

/-- The bytes, last first, of a code point below `0x10000`. -/
def pointBytes (point : Nat) : Bytes :=
  if point < 0x80 then [UInt8.ofNat point]
  else if point < 0x800 then [UInt8.ofNat (0x80 + point % 64), UInt8.ofNat (0xC0 + point / 64)]
  else unitBytes point

/-- The bytes, last first, of the character that a surrogate pair stands for. -/
def pairBytes (high low : Nat) : Bytes :=
  let point := 0x10000 + (high - 0xD800) * 0x400 + (low - 0xDC00)
  [UInt8.ofNat (0x80 + point % 64), UInt8.ofNat (0x80 + point / 64 % 64),
    UInt8.ofNat (0x80 + point / 4096 % 64), UInt8.ofNat (0xF0 + point / 262144)]

/-- All bytes so far, last first, with a half that waits in vain. -/
def settled (s : OpenString) : Bytes :=
  match s.high with
  | none => s.reversed
  | some unit => unitBytes unit ++ s.reversed

/-- The string with one more byte. -/
def push (s : OpenString) (b : UInt8) : OpenString := ⟨b :: s.settled, none⟩

/-- The string with one more code unit, from an escape. -/
def pushUnit (s : OpenString) (unit : Nat) : OpenString :=
  if 0xD800 ≤ unit ∧ unit < 0xDC00 then ⟨s.settled, some unit⟩
  else
    match s.high with
    | none => ⟨pointBytes unit ++ s.reversed, none⟩
    | some high =>
      if 0xDC00 ≤ unit ∧ unit < 0xE000 then ⟨pairBytes high unit ++ s.reversed, none⟩
      else ⟨pointBytes unit ++ s.settled, none⟩

/-- The content of the string, once it is closed. -/
def content (s : OpenString) : Bytes := s.settled.reverse

end OpenString

/-- The byte that a one-letter escape stands for. -/
def escaped? (b : UInt8) : Option UInt8 :=
  if b = 0x22 then some 0x22
  else if b = 0x5C then some 0x5C
  else if b = 0x2F then some 0x2F
  else if b = 0x62 then some 0x08
  else if b = 0x66 then some 0x0C
  else if b = 0x6E then some 0x0A
  else if b = 0x72 then some 0x0D
  else if b = 0x74 then some 0x09
  else none

/-- The value of a digit in base sixteen, of either case. -/
def hexValue? (b : UInt8) : Option Nat :=
  if 0x30 ≤ b ∧ b ≤ 0x39 then some (b.toNat - 0x30)
  else if 0x41 ≤ b ∧ b ≤ 0x46 then some (b.toNat - 0x41 + 10)
  else if 0x61 ≤ b ∧ b ≤ 0x66 then some (b.toNat - 0x61 + 10)
  else none

/-! ## Numbers -/

/-- How far a number has been written. -/
inductive NumeralStage where
  /-- After the minus sign. -/
  | sign
  /-- After a zero in front. -/
  | zero
  /-- Among the digits of the whole part. -/
  | whole
  /-- After the point. -/
  | point
  /-- Among the digits of the fraction. -/
  | fraction
  /-- After the mark of the exponent. -/
  | mark
  /-- After the sign of the exponent. -/
  | markSign
  /-- Among the digits of the exponent. -/
  | exponent
  deriving DecidableEq

/-- A number that may go on. -/
structure OpenNumeral where
  stage : NumeralStage
  negative : Bool
  mantissa : Nat
  /-- Digits after the point. -/
  places : Nat
  exponentNegative : Bool
  exponent : Nat

namespace OpenNumeral

/-- A digit as a number. -/
def digit? (b : UInt8) : Option Nat :=
  if 0x30 ≤ b ∧ b ≤ 0x39 then some (b.toNat - 0x30) else none

/-- The number with one more byte, if the byte goes on with it. -/
def push? (n : OpenNumeral) (b : UInt8) : Option OpenNumeral :=
  let isMark := b = 0x65 ∨ b = 0x45
  match n.stage, digit? b with
  | .sign, some d => some { n with stage := if d = 0 then .zero else .whole, mantissa := d }
  | .whole, some d => some { n with mantissa := 10 * n.mantissa + d }
  | .point, some d | .fraction, some d =>
    some { n with stage := .fraction, mantissa := 10 * n.mantissa + d, places := n.places + 1 }
  | .mark, some d | .markSign, some d | .exponent, some d =>
    some { n with stage := .exponent, exponent := 10 * n.exponent + d }
  | .zero, none | .whole, none =>
    if b = 0x2E then some { n with stage := .point }
    else if isMark then some { n with stage := .mark }
    else none
  | .fraction, none => if isMark then some { n with stage := .mark } else none
  | .mark, none =>
    if b = 0x2B then some { n with stage := .markSign }
    else if b = 0x2D then some { n with stage := .markSign, exponentNegative := true }
    else none
  | _, _ => none

/-- The number, if it may end here. -/
def close? (n : OpenNumeral) : Option Numeral :=
  match n.stage with
  | .zero | .whole => some ⟨n.negative, n.mantissa, 0, true⟩
  | .fraction | .exponent =>
    let e : Int := if n.exponentNegative then -(n.exponent : Int) else n.exponent
    some ⟨n.negative, n.mantissa, e - n.places, false⟩
  | _ => none

end OpenNumeral

/-! ## Lexemes -/

/-- The token that is being written. -/
inductive Lexeme where
  /-- Between tokens. -/
  | gap
  /-- A word of which these bytes are missing. -/
  | word (missing : Bytes) (value : Json)
  | number (n : OpenNumeral)
  | string (s : OpenString)
  /-- In a string, after a backslash. -/
  | escape (s : OpenString)
  /-- In a string, among the four digits of a code unit. -/
  | codeUnit (s : OpenString) (missing : Nat) (value : Nat)

namespace Lexeme

/-- What a byte between tokens starts. -/
def start (b : UInt8) : Option (List Token × Lexeme) :=
  if b = 0x20 ∨ b = 0x0A ∨ b = 0x0D ∨ b = 0x09 then some ([], gap)
  else if b = 0x7B then some ([.openObject], gap)
  else if b = 0x7D then some ([.closeObject], gap)
  else if b = 0x5B then some ([.openArray], gap)
  else if b = 0x5D then some ([.closeArray], gap)
  else if b = 0x3A then some ([.colon], gap)
  else if b = 0x2C then some ([.comma], gap)
  else if b = 0x22 then some ([], string ⟨[], none⟩)
  else if b = 0x6E then some ([], word [0x75, 0x6C, 0x6C] .null)
  else if b = 0x74 then some ([], word [0x72, 0x75, 0x65] (.bool true))
  else if b = 0x66 then some ([], word [0x61, 0x6C, 0x73, 0x65] (.bool false))
  else if b = 0x2D then some ([], number ⟨.sign, true, 0, 0, false, 0⟩)
  else ((OpenNumeral.mk .sign false 0 0 false 0).push? b).map fun n => ([], number n)

/-- The tokens that one more byte completes, and the lexeme after it. -/
def advance (l : Lexeme) (b : UInt8) : Option (List Token × Lexeme) :=
  match l with
  | gap => start b
  | word (m :: missing) value =>
    if b ≠ m then none
    else if missing.isEmpty then some ([.scalar value], gap)
    else some ([], word missing value)
  | word [] _ => none
  | number n =>
    match n.push? b with
    | some n => some ([], number n)
    | none => do
      let value ← n.close?
      let (tokens, l) ← start b
      return (.scalar (.number value) :: tokens, l)
  | string s =>
    if b = 0x22 then some ([.scalar (.string s.content)], gap)
    else if b = 0x5C then some ([], escape s)
    else if b < 0x20 then none
    else some ([], string (s.push b))
  | escape s =>
    if b = 0x75 then some ([], codeUnit s 4 0)
    else (escaped? b).map fun c => ([], string (s.push c))
  | codeUnit s missing value => do
    let d ← hexValue? b
    let value := 16 * value + d
    return if missing ≤ 1 then ([], string (s.pushUnit value)) else ([], codeUnit s (missing - 1) value)

/-- The token that the end of the input completes, if the input may end here. -/
def close? : Lexeme → Option (List Token)
  | gap => some []
  | number n => n.close?.map fun value => [.scalar (.number value)]
  | _ => none

end Lexeme

end DeviceBus.Json
