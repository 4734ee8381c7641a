import DeviceBus.Message.Payload

/-!
# Frames

A frame is a payload behind its length, four bytes with the highest first.  Payloads are limited to
16 MiB in both directions.
-/

namespace DeviceBus.Frame

/-- The longest payload of a frame. -/
def limit : Nat := 16 * 1024 * 1024

/-- Why a frame cannot be written or read.  The first and the last are reported as invalid data,
the second as an unexpected end of file. -/
inductive Error where
  /-- The payload has this length, above the limit. -/
  | tooLong (length : Nat)
  /-- The stream ends before the frame does. -/
  | endOfStream
  /-- The payload is no message. -/
  | malformed
  deriving DecidableEq, Repr

/-- What is wrong with a payload that is too long. -/
def Error.message : Error → String
  | .tooLong length => "frame of " ++ toString length ++ " bytes exceeds 16 MiB limit"
  | .endOfStream => "failed to fill whole buffer"
  | .malformed => "malformed payload"

/-- The frame of a payload. -/
def encode (payload : Bytes) : Except Error Bytes :=
  if payload.length ≤ limit then .ok (Bytes.writeBE 4 payload.length ++ payload)
  else .error (.tooLong payload.length)

/-- Reads one frame, and returns its message and the rest of the stream.  A length above the limit
is taken off the stream alone, a malformed payload whole. -/
def decode {α : Type} (read : Payload.Reader α) (stream : Bytes) : Except Error α × Bytes :=
  if stream.length < 4 then (.error .endOfStream, [])
  else
    let length := Bytes.readBE (stream.take 4)
    let rest := stream.drop 4
    if limit < length then (.error (.tooLong length), rest)
    else if rest.length < length then (.error .endOfStream, [])
    else
      match read (rest.take length) with
      | some (message, _) => (.ok message, rest.drop length)
      | none => (.error .malformed, rest.drop length)

end DeviceBus.Frame
