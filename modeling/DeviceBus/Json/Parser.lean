import DeviceBus.Json.Token

/-!
# Reading JSON

The parser takes tokens one at a time and keeps the arrays and objects that are still open on a
stack, so documents may nest to any depth.
-/

namespace DeviceBus.Json

/-- An array or object that is still open.  What it holds so far is listed last first. -/
inductive Frame where
  | array (items : List Json)
  /-- An object between fields. -/
  | object (fields : List (Bytes × Json))
  /-- An object that waits for the value of a key. -/
  | field (fields : List (Bytes × Json)) (key : Bytes)

/-- What may come next. -/
inductive Expected where
  | value
  /-- A value, or the end of an array that is empty so far. -/
  | valueOrEnd
  | key
  /-- A key, or the end of an object that is empty so far. -/
  | keyOrEnd
  /-- The colon after a key. -/
  | colon (key : Bytes)
  | commaOrEnd
  /-- The end of the input, after the whole document. -/
  | nothing (document : Json)

/-- A parser between two tokens. -/
structure Parser where
  expected : Expected
  stack : List Frame

namespace Parser

/-- The parser before the first token. -/
def start : Parser := ⟨.value, []⟩

/-- The parser after a complete value. -/
def place (v : Json) : List Frame → Option Parser
  | [] => some ⟨.nothing v, []⟩
  | .array items :: stack => some ⟨.commaOrEnd, .array (v :: items) :: stack⟩
  | .field fields key :: stack => some ⟨.commaOrEnd, .object ((key, v) :: fields) :: stack⟩
  | .object _ :: _ => none

/-- The parser after one more token. -/
def feed (p : Parser) (t : Token) : Option Parser :=
  match p.expected, t, p.stack with
  | .value, .scalar v, stack | .valueOrEnd, .scalar v, stack => place v stack
  | .value, .openArray, stack | .valueOrEnd, .openArray, stack =>
    some ⟨.valueOrEnd, .array [] :: stack⟩
  | .value, .openObject, stack | .valueOrEnd, .openObject, stack =>
    some ⟨.keyOrEnd, .object [] :: stack⟩
  | .valueOrEnd, .closeArray, .array items :: stack
  | .commaOrEnd, .closeArray, .array items :: stack => place (.array items.reverse) stack
  | .keyOrEnd, .closeObject, .object fields :: stack
  | .commaOrEnd, .closeObject, .object fields :: stack => place (.object fields.reverse) stack
  | .key, .scalar (.string k), stack | .keyOrEnd, .scalar (.string k), stack => some ⟨.colon k, stack⟩
  | .colon k, .colon, .object fields :: stack => some ⟨.value, .field fields k :: stack⟩
  | .commaOrEnd, .comma, .array items :: stack => some ⟨.value, .array items :: stack⟩
  | .commaOrEnd, .comma, .object fields :: stack => some ⟨.key, .object fields :: stack⟩
  | _, _, _ => none

/-- The parser after a list of tokens. -/
def feedAll (p : Parser) : List Token → Option Parser
  | [] => some p
  | t :: ts => (p.feed t).bind fun p => feedAll p ts

end Parser

/-- The parser and lexeme after more input. -/
def consume (p : Parser) (l : Lexeme) : Bytes → Option (Parser × Lexeme)
  | [] => some (p, l)
  | b :: rest =>
    match l.advance b with
    | none => none
    | some (tokens, l) =>
      match p.feedAll tokens with
      | none => none
      | some p => consume p l rest

/-- The document that the input writes, if it writes one. -/
def parse? (input : Bytes) : Option Json := do
  let (p, l) ← consume .start .gap input
  let tokens ← l.close?
  let p ← p.feedAll tokens
  match p.expected with
  | .nothing document => some document
  | _ => none

end DeviceBus.Json
