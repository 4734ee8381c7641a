import DeviceBus.Proofs.Message.Pieces

/-!
# Relays

A relay decodes a stream to its end and encodes the messages again.  A message is written no longer than it was
read (`Payload.IsUpdate.length_le`), so it fits a frame again.  Its frame gives the same message back:

    messages read (relay write read stream).2 = messages read stream

That makes relaying idempotent (`relaying_normalises`).
-/

namespace DeviceBus.Frame

variable {α : Type}

/-! ## The messages of a stream -/

/-- The messages of a stream to its end; what is no message is passed over. -/
def messages (read : Payload.Reader α) (stream : Bytes) : List α :=
  match h : decode read stream with
  | (.ok message, rest) =>
    have : rest.length < stream.length := decode_shorter h (by simp)
    message :: messages read rest
  | (.error .endOfStream, _) => []
  | (.error .malformed, rest) =>
    have : rest.length < stream.length := decode_shorter h (by simp)
    messages read rest
  | (.error (.tooLong _), rest) =>
    have : rest.length < stream.length := decode_shorter h (by simp)
    messages read rest
termination_by stream.length

theorem messages_of_decode {read : Payload.Reader α} {stream rest : Bytes} {result : Except Error α}
    (h : decode read stream = (result, rest)) (hresult : result ≠ .error .endOfStream) :
    messages read stream = result.toOption.toList ++ messages read rest := by
  rw [messages]
  split <;> next heq =>
    rw [h] at heq
    cases heq
    first
    | rfl
    | exact absurd rfl hresult

theorem messages_of_ends (read : Payload.Reader α) {stream : Bytes} (h : Ends stream) :
    messages read stream = [] := by
  have hended := decode_ends read h
  rw [messages]
  split
  · next heq =>
    rw [hended] at heq
    cases heq
  · rfl
  all_goals
    next heq =>
      rw [hended] at heq
      cases heq

/-- A piece gives its message, if it has one. -/
theorem messages_piece (read : Payload.Reader α) (piece : Piece) (rest : Bytes) :
    messages read (piece.bytes ++ rest) = (piece.answer read).toOption.toList ++ messages read rest := by
  refine messages_of_decode (decode_piece read piece rest) fun hended => ?_
  cases piece with
  | frame payload h =>
    obtain ⟨message, hok⟩ | hbad := answer_ok_or_malformed read payload
    · rw [Piece.answer, hok] at hended
      cases hended
    · rw [Piece.answer, hbad] at hended
      cases hended
  | oversized length h => cases hended

/-! ## Messages that get no longer -/

/-- The frames of messages, one behind the other. -/
def frames (write : α → Bytes) (messages : List α) : Bytes :=
  messages.flatMap fun message => Bytes.writeBE 4 (write message).length ++ write message

/-- What a relay does with a stream: it encodes the messages again, in order.  Returns the answers to that, and
the buffer. -/
def relay (write : α → Bytes) (read : Payload.Reader α) (stream : Bytes) : List (Except Error Unit) × Bytes :=
  appendAll [] ((messages read stream).map write)

/-- The written form of messages is no longer than what they are read from, and is read back. -/
structure Shortens (write : α → Bytes) (read : Payload.Reader α) : Prop where
  length_le : ∀ payload message, answer read payload = .ok message → (write message).length ≤ payload.length
  back : ∀ message, (write message).length ≤ limit → answer read (write message) = .ok message

section

variable {write : α → Bytes} {read : Payload.Reader α}

/-- The messages of a stream fit frames again, and their frames are no longer than the stream. -/
theorem Shortens.messages_fit (h : Shortens write read) (stream : Bytes) :
    (∀ message ∈ messages read stream, (write message).length ≤ limit) ∧
      ((messages read stream).map fun message => 4 + (write message).length).sum ≤ stream.length := by
  -- a piece is at least as long as the frame of its message, if it has one
  obtain ⟨pieces, rest, hends, rfl⟩ := exists_pieces stream
  induction pieces with
  | nil => simp [messages_of_ends read hends]
  | cons piece pieces ih =>
    obtain ⟨hfit, hsum⟩ := ih
    rw [Piece.stream_cons, List.append_assoc, messages_piece]
    cases hanswer : piece.answer read with
    | error e =>
      simp only [Except.toOption, Option.toList_none, List.nil_append]
      refine ⟨hfit, ?_⟩
      rw [List.length_append]
      omega
    | ok message =>
      simp only [Except.toOption, Option.toList_some, List.singleton_append, List.mem_cons,
        List.map_cons, List.sum_cons, forall_eq_or_imp]
      cases piece with
      | oversized length hlength => cases hanswer
      | frame payload hpayload =>
        have hle := h.length_le payload message hanswer
        refine ⟨⟨Nat.le_trans hle hpayload, hfit⟩, ?_⟩
        rw [List.length_append, Piece.bytes, List.length_append, Bytes.length_writeBE]
        omega

/-- Frames that were written give their messages back. -/
theorem Shortens.messages_frames (h : Shortens write read) {ms : List α}
    (hfit : ∀ message ∈ ms, (write message).length ≤ limit) : messages read (frames write ms) = ms := by
  induction ms with
  | nil => exact messages_of_ends read ⟨.frame [] (Nat.zero_le _), 0, by simp [Piece.bytes], rfl⟩
  | cons message ms ih =>
    obtain ⟨hmessage, hrest⟩ := List.forall_mem_cons.mp hfit
    have hpiece := messages_piece read (.frame (write message) hmessage) (frames write ms)
    rw [Piece.answer, h.back message hmessage, ih hrest] at hpiece
    exact hpiece

/-- All messages are accepted. -/
theorem Shortens.relay_eq (h : Shortens write read) (stream : Bytes) : relay write read stream =
    ((messages read stream).map fun _ => .ok (), frames write (messages read stream)) := by
  have hfit := (h.messages_fit stream).1
  have hall : (messages read stream).filter (fun message => (write message).length ≤ limit) =
      messages read stream :=
    List.filter_eq_self.mpr fun message hm => decide_eq_true (hfit message hm)
  refine Prod.ext ?_ ?_
  · rw [relay, appendAll_answers]
    exact List.map_congr_left fun message hm => if_pos (hfit message hm)
  · rw [relay, appendAll_buffer, List.nil_append, hall, frames]

end

/-! ## Relaying -/

/-- Relaying makes messages normal: a message is written no longer than it was read, so it fits a frame again and
comes out of it, and a stream that was relayed once is relayed as it is. -/
structure Normalises (write : α → Bytes) (read : Payload.Reader α) : Prop where
  /-- The message of one payload. -/
  payload : ∀ payload message, payload.length ≤ limit → answer read payload = .ok message →
    (write message).length ≤ payload.length ∧ answer read (write message) = .ok message ∧
      ∃ frame, encode (write message) = .ok frame ∧ ∀ rest, decode read (frame ++ rest) = (.ok message, rest)
  /-- Nothing that is relayed is refused. -/
  accepted : ∀ stream, ∀ reply ∈ (relay write read stream).1, reply = .ok ()
  length_le : ∀ stream, (relay write read stream).2.length ≤ stream.length
  messages_eq : ∀ stream, messages read (relay write read stream).2 = messages read stream
  idempotent : ∀ stream, relay write read (relay write read stream).2 = relay write read stream

theorem Shortens.normalises {write : α → Bytes} {read : Payload.Reader α} (h : Shortens write read) :
    Normalises write read := by
  have hagain (stream : Bytes) : messages read (relay write read stream).2 = messages read stream := by
    rw [h.relay_eq]
    exact h.messages_frames (h.messages_fit stream).1
  refine ⟨fun payload message hpayload hok => ?_, fun stream reply hreply => ?_, fun stream => ?_, hagain,
    fun stream => ?_⟩
  · have hle := h.length_le payload message hok
    have hfits : (write message).length ≤ limit := Nat.le_trans hle hpayload
    have hback := h.back message hfits
    exact ⟨hle, hback, _, if_pos hfits, fun rest => by rw [decode_payload read hfits, hback]⟩
  · rw [h.relay_eq] at hreply
    obtain ⟨message, -, rfl⟩ := List.mem_map.mp hreply
    rfl
  · rw [h.relay_eq, frames, List.length_flatMap]
    simpa using (h.messages_fit stream).2
  · rw [relay, hagain]
    rfl

theorem shortens_of_reads {write : α → Bytes} {read : Payload.Reader α} {Is : Bytes → α → Prop}
    (hreads : Payload.Reads read Is) (hle : ∀ {bs message}, Is bs message → (write message).length ≤ bs.length)
    (hback : ∀ message, (write message).length ≤ limit → read (write message) = some (message, [])) :
    Shortens write read where
  length_le payload message hok := by
    obtain ⟨left, hread⟩ := answer_eq_ok_iff.mp hok
    obtain ⟨front, rfl, hfront⟩ := hreads.spelt hread
    have := hle hfront
    rw [List.length_append]
    omega
  back message hfits := answer_eq_ok_iff.mpr ⟨[], hback message hfits⟩

/-- Updates are made normal, and so are snapshots. -/
theorem relaying_normalises :
    Normalises Payload.writeUpdate Payload.readUpdate ∧ Normalises Payload.writeSnapshot Payload.readSnapshot := by
  constructor
  · exact (shortens_of_reads Payload.readUpdate_reads Payload.IsUpdate.length_le
      fun _ => readUpdate_written).normalises
  · exact (shortens_of_reads Payload.readSnapshot_reads Payload.IsSnapshot.length_le
      fun _ => readSnapshot_written).normalises

end DeviceBus.Frame
