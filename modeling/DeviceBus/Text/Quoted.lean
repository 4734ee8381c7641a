import DeviceBus.Text.Number
import DeviceBus.Text.Shown

/-!
# Quoted text

A quoted text stands between double quotes.  Quotes and backslashes inside it, and characters
without a shape of their own, are written as escapes.
-/

namespace DeviceBus.Text

/-- One character inside quotes. -/
def quoteChar (c : Char) : String :=
  if c = '\x00' then "\\0"
  else if c = '\t' then "\\t"
  else if c = '\r' then "\\r"
  else if c = '\n' then "\\n"
  else if c = '\\' then "\\\\"
  else if c = '"' then "\\\""
  else if ' ' ≤ c ∧ c ≤ '~' then String.singleton c
  else if isShown c then String.singleton c
  else "\\u\x7b" ++ String.ofList (hexDigits c.toNat) ++ "\x7d"

/-- A text between quotes. -/
def quote (s : String) : String := "\"" ++ String.join (s.toList.map quoteChar) ++ "\""

/-- Texts between brackets, separated by commas. -/
def bracketed (items : List String) : String := "[" ++ ", ".intercalate items ++ "]"

end DeviceBus.Text
