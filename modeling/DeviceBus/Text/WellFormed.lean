import DeviceBus.Bytes

/-!
# Ill-formed UTF-8

Output that should be text may hold any bytes.  `replaceIllFormed` makes it well-formed: a maximal
start of a character that does not become one, and a byte that starts none, gives way to one
replacement character.
-/

namespace DeviceBus.Text

/-- A character in the making: the bytes so far, how many are missing, and the bounds of the next. -/
structure Unfinished where
  soFar : Bytes
  missing : Nat
  low : UInt8
  high : UInt8

/-- The encoding of the replacement character. -/
def replacement : Bytes := [0xEF, 0xBF, 0xBD]

/-- What a first byte starts: a character that is complete, one that is unfinished, or none. -/
def startCharacter (b : UInt8) : Bytes × Option Unfinished :=
  if b < 0x80 then ([b], none)
  else if b < 0xC2 then (replacement, none)
  else if b < 0xE0 then ([], some ⟨[b], 1, 0x80, 0xBF⟩)
  else if b = 0xE0 then ([], some ⟨[b], 2, 0xA0, 0xBF⟩)
  else if b = 0xED then ([], some ⟨[b], 2, 0x80, 0x9F⟩)
  else if b < 0xF0 then ([], some ⟨[b], 2, 0x80, 0xBF⟩)
  else if b = 0xF0 then ([], some ⟨[b], 3, 0x90, 0xBF⟩)
  else if b < 0xF4 then ([], some ⟨[b], 3, 0x80, 0xBF⟩)
  else if b = 0xF4 then ([], some ⟨[b], 3, 0x80, 0x8F⟩)
  else (replacement, none)

/-- The output that one byte settles, and the character still unfinished after it. -/
def advance (state : Option Unfinished) (b : UInt8) : Bytes × Option Unfinished :=
  match state with
  | none => startCharacter b
  | some u =>
    if u.low ≤ b ∧ b ≤ u.high then
      if u.missing ≤ 1 then (u.soFar ++ [b], none)
      else ([], some ⟨u.soFar ++ [b], u.missing - 1, 0x80, 0xBF⟩)
    else
      let (out, next) := startCharacter b
      (replacement ++ out, next)

/-- Output so far, last byte first, and the character still unfinished after it. -/
abbrev Progress := Bytes × Option Unfinished

/-- The progress after one more byte. -/
def Progress.push (p : Progress) (b : UInt8) : Progress :=
  let (out, next) := advance p.2 b
  (out.reverse ++ p.1, next)

/-- The bytes with everything that is not UTF-8 replaced. -/
def replaceIllFormed (bs : Bytes) : Bytes :=
  let (out, unfinished) := bs.foldl Progress.push ([], none)
  out.reverse ++ if unfinished.isSome then replacement else []

/-! ## Lines -/

/-- A line whose bytes are given last first, without the CR at its end. -/
def closeLine : Bytes → Bytes
  | 13 :: rest => rest.reverse
  | line => line.reverse

/-- The lines ended so far, the last first, and the bytes since, the last first. -/
abbrev LinesSoFar := List Bytes × Bytes

/-- The lines after one more byte. -/
def LinesSoFar.push (p : LinesSoFar) (b : UInt8) : LinesSoFar :=
  if b = 10 then (closeLine p.2 :: p.1, []) else (p.1, b :: p.2)

/-- The lines of a text, without their ends.  A line ends in LF or CR LF; what follows the last end
is a line too if it is not empty. -/
def lines (bs : Bytes) : List Bytes :=
  let (ended, rest) := bs.foldl LinesSoFar.push ([], [])
  (if rest.isEmpty then ended else rest.reverse :: ended).reverse

end DeviceBus.Text
