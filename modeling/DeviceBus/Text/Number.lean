/-!
# Numbers in text

Base sixteen with a mark, padding to a width, and sizes in the unit that fits them.
-/

namespace DeviceBus.Text

/-! ## Padding -/

/-- Spaces after a text, up to a width in characters. -/
def padRight (width : Nat) (s : String) : String :=
  s ++ String.ofList (List.replicate (width - s.length) ' ')

/-- Spaces before a text, up to a width in characters. -/
def padLeft (width : Nat) (s : String) : String :=
  String.ofList (List.replicate (width - s.length) ' ') ++ s

/-! ## Base sixteen -/

/-- The lower-case digits of a number in base sixteen. -/
def hexDigits (n : Nat) : List Char := Nat.toDigits 16 n

/-- A number in base sixteen, as `0x1f`. -/
def hex (n : Nat) : String := "0x" ++ String.ofList (hexDigits n)

/-- A number in base sixteen with zeros after the mark, up to a width that counts the mark. -/
def hexPadded (width n : Nat) : String :=
  let digits := hexDigits n
  "0x" ++ String.ofList (List.replicate (width - 2 - digits.length) '0' ++ digits)

/-! ## Sizes -/

/-- The whole number nearest to `n / d`; of two equally near ones the even. -/
def roundDiv (n d : Nat) : Nat :=
  let q := n / d
  let r := n % d
  if 2 * r < d then q else if d < 2 * r then q + 1 else if q % 2 = 0 then q else q + 1

/-- A number of tenths with one decimal place. -/
def tenths (n : Nat) : String := toString (n / 10) ++ "." ++ toString (n % 10)

/-- Shows `bytes / scale` in the first of the units in which it is below 1024, or in the last. -/
def sizeFrom (bytes scale : Nat) : String → List String → String
  | unit, [] => tenths (roundDiv (10 * bytes) scale) ++ " " ++ unit
  | unit, next :: more =>
    if bytes < 1024 * scale then tenths (roundDiv (10 * bytes) scale) ++ " " ++ unit
    else sizeFrom bytes (1024 * scale) next more

/-- A number of bytes for people to read, with one decimal place: `1.5 KB`. -/
def size (bytes : Nat) : String := sizeFrom bytes 1 "B" ["KB", "MB", "GB", "TB"]

end DeviceBus.Text
