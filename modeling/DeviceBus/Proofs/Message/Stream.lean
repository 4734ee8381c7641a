import DeviceBus.Message.Frame
import DeviceBus.Proofs.Message.Payload

/-!
# Frames in a stream

Frames are written one behind the other into a buffer, and read from the front of a stream until it
ends.  A payload above the limit is refused and leaves the buffer alone.  What is read from the first
`n` bytes of the buffer are the messages whose frames end among these bytes, in order, each with the
stream behind its frame; then the stream has ended, between two frames or inside one.

    decodeAll read (buffer.take n) = ([messages whose frames end within n], endOfStream)

Both kinds of message pass through a stream so (`messages_pass`).
-/

namespace DeviceBus.Frame

/-! ## Writing and reading a stream -/

/-- Writes the frame of a payload behind a buffer; returns the answer and the buffer. -/
def append (buffer payload : Bytes) : Except Error Unit × Bytes :=
  match encode payload with
  | .ok frame => (.ok (), buffer ++ frame)
  | .error e => (.error e, buffer)

/-- Writes the frames of payloads in order; returns the answer to each, and the buffer. -/
def appendAll : Bytes → List Bytes → List (Except Error Unit) × Bytes
  | buffer, [] => ([], buffer)
  | buffer, payload :: payloads =>
    let written := append buffer payload
    let later := appendAll written.2 payloads
    (written.1 :: later.1, later.2)

variable {α : Type}

/-- What is left is shorter than the stream, unless the stream has ended. -/
theorem decode_shorter {read : Payload.Reader α} {stream rest : Bytes} {result : Except Error α}
    (h : decode read stream = (result, rest)) (hresult : result ≠ .error .endOfStream) :
    rest.length < stream.length := by
  have hended {p : Except Error α × Bytes} (hp : p.1 = .error .endOfStream) (h : p = (result, rest)) : False :=
    hresult ((congrArg Prod.fst h).symm.trans hp)
  unfold decode at h
  by_cases hheader : stream.length < 4
  · rw [if_pos hheader] at h
    exact (hended rfl h).elim
  · have hdrop : (stream.drop 4).length < stream.length := by
      rw [List.length_drop]
      omega
    simp only [if_neg hheader] at h
    by_cases hlong : limit < Bytes.readBE (stream.take 4)
    · rw [if_pos hlong] at h
      cases h
      exact hdrop
    · rw [if_neg hlong] at h
      by_cases hshort : (stream.drop 4).length < Bytes.readBE (stream.take 4)
      · rw [if_pos hshort] at h
        exact (hended rfl h).elim
      · rw [if_neg hshort] at h
        have hlength : rest = (stream.drop 4).drop (Bytes.readBE (stream.take 4)) := by
          split at h <;> exact (congrArg Prod.snd h).symm
        rw [hlength, List.length_drop]
        omega

/-- What is left behind a message is shorter than the stream. -/
theorem decode_shortens {read : Payload.Reader α} {stream : Bytes} {message : α} {rest : Bytes}
    (h : decode read stream = (.ok message, rest)) : rest.length < stream.length :=
  decode_shorter h (by simp)

/-- Reads frames up to the first error.  Returns the messages, each with the stream behind it, and
the error. -/
def decodeAll (read : Payload.Reader α) (stream : Bytes) : List (α × Bytes) × Error :=
  match h : decode read stream with
  | (.error e, _) => ([], e)
  | (.ok message, rest) =>
    have : rest.length < stream.length := decode_shortens h
    let later := decodeAll read rest
    ((message, rest) :: later.1, later.2)
termination_by stream.length

theorem decodeAll_of_ok {read : Payload.Reader α} {stream : Bytes} {message : α} {rest : Bytes}
    (h : decode read stream = (.ok message, rest)) :
    decodeAll read stream =
      ((message, rest) :: (decodeAll read rest).1, (decodeAll read rest).2) := by
  rw [decodeAll]
  split
  · rename_i e left he
    rw [h] at he
    cases he
  · rename_i message' rest' he
    rw [h] at he
    cases he
    rfl

theorem decodeAll_of_error {read : Payload.Reader α} {stream rest : Bytes} {e : Error}
    (h : decode read stream = (.error e, rest)) : decodeAll read stream = ([], e) := by
  rw [decodeAll]
  split
  · rename_i e' left he
    rw [h] at he
    cases he
    rfl
  · rename_i message' rest' he
    rw [h] at he
    cases he

/-- The messages that fit a frame, each with the position behind its frame if the first frame starts
at `start`. -/
def accepted (write : α → Bytes) : Nat → List α → List (α × Nat)
  | _, [] => []
  | start, message :: messages =>
    if (write message).length ≤ limit then
      let stop := start + (4 + (write message).length)
      (message, stop) :: accepted write stop messages
    else accepted write start messages

/-- Messages pass through a stream: one is refused exactly if its payload is above the limit, the
buffer holds the frames of the others, and any first part of the buffer gives back the messages whose
frames it holds whole, and then ends. -/
structure Passes (write : α → Bytes) (read : Payload.Reader α) (messages : List α) : Prop where
  /-- The answer to each message. -/
  answers : (appendAll [] (messages.map write)).1 =
    messages.map fun message =>
      if (write message).length ≤ limit then .ok () else .error (.tooLong (write message).length)
  /-- The frames written. -/
  buffer : (appendAll [] (messages.map write)).2 =
    (messages.filter fun message => (write message).length ≤ limit).flatMap fun message =>
      Bytes.writeBE 4 (write message).length ++ write message
  /-- What is read back. -/
  decoded : ∀ n, decodeAll read ((appendAll [] (messages.map write)).2.take n) =
    (((accepted write 0 messages).filter fun p => p.2 ≤ n).map fun p =>
      (p.1, ((appendAll [] (messages.map write)).2.take n).drop p.2), .endOfStream)

/-! ## One frame -/

theorem append_of_le {payload : Bytes} (h : payload.length ≤ limit) (buffer : Bytes) :
    append buffer payload = (.ok (), buffer ++ (Bytes.writeBE 4 payload.length ++ payload)) := by
  simp [append, encode, h]

theorem append_of_lt {payload : Bytes} (h : ¬ payload.length ≤ limit) (buffer : Bytes) :
    append buffer payload = (.error (.tooLong payload.length), buffer) := by
  simp [append, encode, h]

/-- The length in front of a frame is that of its payload. -/
theorem readBE_length {payload : Bytes} (h : payload.length ≤ limit) :
    Bytes.readBE (Bytes.writeBE 4 payload.length) = payload.length := by
  rw [Bytes.readBE_writeBE]
  refine Nat.mod_eq_of_lt (Nat.lt_of_le_of_lt h ?_)
  decide

/-- What a payload is read as on its own.  Bytes that are left over do not matter. -/
def answer (read : Payload.Reader α) (payload : Bytes) : Except Error α :=
  match read payload with
  | some (message, _) => .ok message
  | none => .error .malformed

/-- A frame in front of a stream is taken off it whole, whatever its payload is read as. -/
theorem decode_payload (read : Payload.Reader α) {payload : Bytes} (h : payload.length ≤ limit)
    (rest : Bytes) :
    decode read (Bytes.writeBE 4 payload.length ++ payload ++ rest) = (answer read payload, rest) := by
  have hhead : (Bytes.writeBE 4 payload.length ++ payload ++ rest).take 4 =
      Bytes.writeBE 4 payload.length := by
    rw [List.append_assoc, List.take_append_of_le_length (by simp), List.take_of_length_le (by simp)]
  have hbody : (Bytes.writeBE 4 payload.length ++ payload ++ rest).drop 4 = payload ++ rest := by
    rw [List.append_assoc]
    exact List.drop_left' (Bytes.length_writeBE 4 _)
  have hheader : ¬ (Bytes.writeBE 4 payload.length ++ payload ++ rest).length < 4 := by
    simp only [List.length_append, Bytes.length_writeBE]
    omega
  have hwhole : ¬ (payload ++ rest).length < payload.length := by simp
  simp only [decode, if_neg hheader, hhead, hbody, readBE_length h, if_neg (Nat.not_lt.2 h),
    if_neg hwhole, List.take_left, List.drop_left, answer]
  cases read payload <;> rfl

/-- A frame in front of a stream is read, whatever is behind it. -/
theorem decode_frame {read : Payload.Reader α} {payload : Bytes} {message : α} {left : Bytes}
    (h : payload.length ≤ limit) (hread : read payload = some (message, left)) (rest : Bytes) :
    decode read (Bytes.writeBE 4 payload.length ++ payload ++ rest) = (.ok message, rest) := by
  rw [decode_payload read h, answer, hread]

/-- A frame that is cut off is not read, wherever the cut is. -/
theorem decode_cut {read : Payload.Reader α} {payload : Bytes} (h : payload.length ≤ limit) {n : Nat}
    (hcut : n < 4 + payload.length) (rest : Bytes) :
    decode read ((Bytes.writeBE 4 payload.length ++ payload ++ rest).take n) =
      (.error .endOfStream, []) := by
  have htake : (Bytes.writeBE 4 payload.length ++ payload ++ rest).take n =
      (Bytes.writeBE 4 payload.length ++ payload).take n := by
    rw [List.take_append_of_le_length]
    simp only [List.length_append, Bytes.length_writeBE]
    omega
  rw [htake]
  by_cases hheader : n < 4
  · have hlt : ((Bytes.writeBE 4 payload.length ++ payload).take n).length < 4 := by
      simp only [List.length_take]
      omega
    simp only [decode, if_pos hlt]
  · -- the length is there, and the payload is shorter than it says
    have hhead : ((Bytes.writeBE 4 payload.length ++ payload).take n).take 4 =
        Bytes.writeBE 4 payload.length := by
      rw [List.take_take, Nat.min_eq_left (by omega), List.take_append_of_le_length (by simp),
        List.take_of_length_le (by simp)]
    have hlt : ¬ ((Bytes.writeBE 4 payload.length ++ payload).take n).length < 4 := by
      simp only [List.length_take, List.length_append, Bytes.length_writeBE]
      omega
    have hshort : (((Bytes.writeBE 4 payload.length ++ payload).take n).drop 4).length <
        payload.length := by
      simp only [List.length_drop, List.length_take, List.length_append, Bytes.length_writeBE]
      omega
    simp only [decode, if_neg hlt, hhead, readBE_length h, if_neg (Nat.not_lt.2 h), if_pos hshort]

/-! ## A whole stream -/

variable (write : α → Bytes)

theorem accepted_of_le {message : α} (h : (write message).length ≤ limit) (start : Nat)
    (messages : List α) : accepted write start (message :: messages) =
      (message, start + (4 + (write message).length)) ::
        accepted write (start + (4 + (write message).length)) messages := by
  simp [accepted, h]

theorem accepted_of_lt {message : α} (h : ¬ (write message).length ≤ limit) (start : Nat)
    (messages : List α) :
    accepted write start (message :: messages) = accepted write start messages := by
  simp [accepted, h]

/-- No frame ends before the first one starts. -/
theorem le_of_mem_accepted {start : Nat} {messages : List α} {p : α × Nat}
    (h : p ∈ accepted write start messages) : start ≤ p.2 := by
  induction messages generalizing start with
  | nil => cases h
  | cons message messages ih =>
    by_cases hfits : (write message).length ≤ limit
    · rw [accepted_of_le write hfits, List.mem_cons] at h
      rcases h with rfl | h
      · show start ≤ start + _
        omega
      · have := ih h
        omega
    · rw [accepted_of_lt write hfits] at h
      exact ih h

theorem appendAll_answers (buffer : Bytes) (messages : List α) :
    (appendAll buffer (messages.map write)).1 = messages.map fun message =>
      if (write message).length ≤ limit then .ok () else .error (.tooLong (write message).length) := by
  induction messages generalizing buffer with
  | nil => rfl
  | cons message messages ih =>
    rw [List.map_cons, appendAll, List.map_cons, ih]
    by_cases hfits : (write message).length ≤ limit
    · rw [append_of_le hfits, if_pos hfits]
    · rw [append_of_lt hfits, if_neg hfits]

/-- Writing only adds frames behind the buffer. -/
theorem appendAll_buffer (buffer : Bytes) (messages : List α) :
    (appendAll buffer (messages.map write)).2 = buffer ++
      (messages.filter fun message => (write message).length ≤ limit).flatMap fun message =>
        Bytes.writeBE 4 (write message).length ++ write message := by
  induction messages generalizing buffer with
  | nil => simp [appendAll]
  | cons message messages ih =>
    rw [List.map_cons, appendAll, ih]
    by_cases hfits : (write message).length ≤ limit
    · simp [append_of_le hfits, hfits]
    · simp [append_of_lt hfits, hfits]

variable {write} {read : Payload.Reader α}

/-- The induction is on the messages, with the buffer they are written behind: what stands in it
already has been read, so reading goes on at its end. -/
theorem decodeAll_appendAll
    (hread : ∀ message, (write message).length ≤ limit → read (write message) = some (message, []))
    (buffer : Bytes) (messages : List α) (n : Nat) {whole : Bytes}
    (hwhole : (appendAll buffer (messages.map write)).2 = whole) :
    decodeAll read ((whole.take n).drop buffer.length) =
      (((accepted write buffer.length messages).filter fun p => p.2 ≤ n).map fun p =>
        (p.1, (whole.take n).drop p.2), .endOfStream) := by
  induction messages generalizing buffer with
  | nil =>
    have hempty : (whole.take n).drop buffer.length = [] := by
      rw [List.drop_eq_nil_iff, List.length_take, ← hwhole]
      simp [appendAll]
    rw [hempty]
    have hend : decode read [] = (.error .endOfStream, []) := rfl
    exact decodeAll_of_error hend
  | cons message messages ih =>
    rw [List.map_cons, appendAll] at hwhole
    by_cases hfits : (write message).length ≤ limit
    · rw [append_of_le hfits] at hwhole
      rw [accepted_of_le write hfits]
      have hlength : (buffer ++ (Bytes.writeBE 4 (write message).length ++ write message)).length =
          buffer.length + (4 + (write message).length) := by simp
      have hlater := ih _ hwhole
      rw [hlength] at hlater
      rw [appendAll_buffer, List.append_assoc] at hwhole
      generalize hrest : (messages.filter fun message => (write message).length ≤ limit).flatMap
        (fun message => Bytes.writeBE 4 (write message).length ++ write message) = rest at hwhole
      have hfront : (whole.take n).drop buffer.length =
          (Bytes.writeBE 4 (write message).length ++ write message ++ rest).take
            (n - buffer.length) := by
        rw [List.drop_take, ← hwhole, List.drop_left]
      by_cases hin : buffer.length + (4 + (write message).length) ≤ n
      · -- the frame lies within the first `n` bytes, and reading goes on behind it
        have hsplit : (whole.take n).drop buffer.length =
            Bytes.writeBE 4 (write message).length ++ write message ++
              (whole.take n).drop (buffer.length + (4 + (write message).length)) := by
          have hhead : ((whole.take n).drop buffer.length).take (4 + (write message).length) =
              Bytes.writeBE 4 (write message).length ++ write message := by
            rw [hfront, List.take_take, Nat.min_eq_left (by omega)]
            exact List.take_left' (by simp)
          rw [← List.drop_drop, ← hhead, List.take_append_drop]
        have hdecode := decode_frame hfits (hread message hfits)
          ((whole.take n).drop (buffer.length + (4 + (write message).length)))
        rw [hsplit, decodeAll_of_ok hdecode, hlater,
          List.filter_cons_of_pos (by simpa using hin), List.map_cons]
      · -- the frame is cut off, and so all behind it are out of reach
        have hnone : (accepted write (buffer.length + (4 + (write message).length)) messages).filter
            (fun p => p.2 ≤ n) = [] := by
          rw [List.filter_eq_nil_iff]
          intro p hp
          have := le_of_mem_accepted write hp
          simp only [decide_eq_true_eq]
          omega
        rw [hfront, decodeAll_of_error (decode_cut hfits (by omega) rest),
          List.filter_cons_of_neg (by simpa using hin), hnone, List.map_nil]
    · rw [append_of_lt hfits] at hwhole
      rw [accepted_of_lt write hfits]
      exact ih buffer hwhole

/-- Messages pass through a stream if every payload that fits a frame is read back. -/
theorem passes_of_read
    (hread : ∀ message, (write message).length ≤ limit → read (write message) = some (message, []))
    (messages : List α) : Passes write read messages where
  answers := appendAll_answers write [] messages
  buffer := by rw [appendAll_buffer, List.nil_append]
  decoded n := decodeAll_appendAll hread [] messages n rfl

/-! ## Updates and snapshots -/

theorem readUpdate_written {u : Update} (h : (Payload.writeUpdate u).length ≤ limit) :
    Payload.readUpdate (Payload.writeUpdate u) = some (u, []) := by
  have hread := Payload.readUpdate_writeUpdate (Nat.lt_of_le_of_lt h (by decide)) []
  rwa [List.append_nil] at hread

theorem readSnapshot_written {s : Snapshot} (h : (Payload.writeSnapshot s).length ≤ limit) :
    Payload.readSnapshot (Payload.writeSnapshot s) = some (s, []) := by
  have hread := Payload.readSnapshot_writeSnapshot (Nat.lt_of_le_of_lt h (by decide)) []
  rwa [List.append_nil] at hread

/-- Updates pass through a stream, and so do snapshots, whatever they hold. -/
theorem messages_pass :
    (∀ updates, Passes Payload.writeUpdate Payload.readUpdate updates) ∧
      ∀ snapshots, Passes Payload.writeSnapshot Payload.readSnapshot snapshots :=
  ⟨passes_of_read fun _ => readUpdate_written, passes_of_read fun _ => readSnapshot_written⟩

end DeviceBus.Frame
