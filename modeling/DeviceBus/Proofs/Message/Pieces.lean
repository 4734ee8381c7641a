import DeviceBus.Proofs.Message.Spelling
import DeviceBus.Proofs.Message.Stream

/-!
# Frames with anything in them

Any stream is a row of pieces, and then ends before another one does (`exists_pieces`).  A piece is a frame,
whatever its payload is, or a length that no frame may have.  It is decoded alone:

    decode read (piece.bytes ++ rest) = (piece.answer read, rest)                   (decode_piece)

The answer depends on the payload, what is left of the stream on its length only.  So a payload that is no
message costs its own frame and no other, for updates and for snapshots (`frames_isolated`).
-/

namespace DeviceBus.Frame

variable {α : Type}

/-! ## What streams are made of -/

/-- A frame with any payload, or a length that no frame may have. -/
inductive Piece where
  | frame (payload : Bytes) (h : payload.length ≤ limit)
  | oversized (length : UInt32) (h : limit < length.toNat)

namespace Piece

/-- The bytes of a piece on a stream. -/
def bytes : Piece → Bytes
  | frame payload _ => Bytes.writeBE 4 payload.length ++ payload
  | oversized length _ => Bytes.writeBE 4 length.toNat

/-- What is decoded where a piece stands. -/
def answer (read : Payload.Reader α) : Piece → Except Error α
  | frame payload _ => Frame.answer read payload
  | oversized length _ => .error (.tooLong length.toNat)

/-- Pieces one behind the other. -/
def stream (pieces : List Piece) : Bytes := pieces.flatMap bytes

@[simp] theorem stream_nil : stream [] = [] := by rw [stream, List.flatMap_nil]

@[simp] theorem stream_cons (piece : Piece) (pieces : List Piece) :
    stream (piece :: pieces) = piece.bytes ++ stream pieces := rfl

theorem bytes_length_pos (piece : Piece) : 0 < piece.bytes.length := by
  cases piece <;> simp [bytes]

end Piece

/-- Where a piece stands, it alone is decoded, and it alone is taken off the stream. -/
theorem decode_piece (read : Payload.Reader α) (piece : Piece) (rest : Bytes) :
    decode read (piece.bytes ++ rest) = (piece.answer read, rest) := by
  cases piece with
  | frame payload h => exact decode_payload read h rest
  | oversized length h =>
    have hhead : (Bytes.writeBE 4 length.toNat ++ rest).take 4 = Bytes.writeBE 4 length.toNat :=
      List.take_left' (Bytes.length_writeBE 4 _)
    have hbody : (Bytes.writeBE 4 length.toNat ++ rest).drop 4 = rest :=
      List.drop_left' (Bytes.length_writeBE 4 _)
    have hheader : ¬ (Bytes.writeBE 4 length.toNat ++ rest).length < 4 := by
      simp only [List.length_append, Bytes.length_writeBE]
      omega
    have hread : Bytes.readBE (Bytes.writeBE 4 length.toNat) = length.toNat := by
      rw [Bytes.readBE_writeBE]
      exact Nat.mod_eq_of_lt length.toNat_lt
    simp only [Piece.bytes, Piece.answer, decode, if_neg hheader, hhead, hbody, hread, if_pos h]

/-- A stream that ends before a piece does: inside it, or where the next one would begin. -/
def Ends (stream : Bytes) : Prop :=
  ∃ (piece : Piece) (n : Nat), n < piece.bytes.length ∧ stream = piece.bytes.take n

theorem decode_ends (read : Payload.Reader α) {stream : Bytes} (h : Ends stream) :
    decode read stream = (.error .endOfStream, []) := by
  obtain ⟨piece, n, hcut, rfl⟩ := h
  cases piece with
  | frame payload h =>
    simp only [Piece.bytes, List.length_append, Bytes.length_writeBE] at hcut
    rw [Piece.bytes, ← List.append_nil (Bytes.writeBE 4 payload.length ++ payload)]
    exact decode_cut h hcut []
  | oversized length h =>
    simp only [Piece.bytes, Bytes.length_writeBE] at hcut
    have hheader : ((Bytes.writeBE 4 length.toNat).take n).length < 4 := by
      simp only [List.length_take, Bytes.length_writeBE]
      omega
    exact if_pos hheader

/-- Four bytes are the head of a frame, or a length that no frame may have. -/
theorem oversized_or_head {head : Bytes} (h : head.length = 4) :
    (∃ length hlength, head = (Piece.oversized length hlength).bytes) ∨
      ∃ n, n ≤ limit ∧ head = Bytes.writeBE 4 n := by
  have hhead : Bytes.writeBE 4 (Bytes.readBE head) = head := h ▸ Bytes.writeBE_readBE head
  by_cases hlong : limit < Bytes.readBE head
  · have hlt : Bytes.readBE head < 2 ^ 32 := by
      have hlt := Bytes.readBE_lt head
      rwa [h] at hlt
    have hword : (UInt32.ofNat (Bytes.readBE head)).toNat = Bytes.readBE head := UInt32.toNat_ofNat_of_lt' hlt
    exact .inl ⟨.ofNat (Bytes.readBE head), hword.symm ▸ hlong, by rw [Piece.bytes, hword, hhead]⟩
  · exact .inr ⟨Bytes.readBE head, Nat.le_of_not_lt hlong, hhead.symm⟩

/-- A stream that more bytes make a piece of ends before it does. -/
theorem ends_of_append {stream missing : Bytes} {piece : Piece} (h : stream ++ missing = piece.bytes)
    (hmissing : missing ≠ []) : Ends stream := by
  refine ⟨piece, stream.length, ?_, ?_⟩
  · have := List.length_pos_iff.mpr hmissing
    rw [← h, List.length_append]
    omega
  · rw [← h, List.take_left' rfl]

/-- Every stream begins with a piece, or ends before one does. -/
theorem ends_or_piece (stream : Bytes) :
    Ends stream ∨ ∃ (piece : Piece) (rest : Bytes), stream = piece.bytes ++ rest := by
  by_cases hheader : stream.length < 4
  · -- filled up with zeros these are the first bytes of some piece
    generalize hzeros : List.replicate (4 - stream.length) (0 : UInt8) = zeros
    have hlength : zeros.length = 4 - stream.length := by rw [← hzeros, List.length_replicate]
    have hmissing : zeros ≠ [] := List.length_pos_iff.mp (by omega)
    have hfour : (stream ++ zeros).length = 4 := by
      rw [List.length_append]
      omega
    refine .inl ?_
    obtain ⟨length, hlong, hhead⟩ | ⟨n, hn, hhead⟩ := oversized_or_head hfour
    · exact ends_of_append hhead hmissing
    · have hpayload : (List.replicate n (0 : UInt8)).length = n := List.length_replicate
      have hpiece : stream ++ (zeros ++ List.replicate n 0) =
          (Piece.frame (List.replicate n 0) (hpayload.symm ▸ hn)).bytes := by
        rw [← List.append_assoc, hhead, Piece.bytes, hpayload]
      exact ends_of_append hpiece (by simp [hmissing])
  · -- the first four bytes tell which piece it is, and whether all of it is there
    have hfour : (stream.take 4).length = 4 := List.length_take_of_le (Nat.le_of_not_lt hheader)
    obtain ⟨length, hlong, hhead⟩ | ⟨n, hn, hhead⟩ := oversized_or_head hfour
    · exact .inr ⟨.oversized length hlong, stream.drop 4, by rw [← hhead, List.take_append_drop]⟩
    · by_cases hshort : (stream.drop 4).length < n
      · generalize hzeros : List.replicate (n - (stream.drop 4).length) (0 : UInt8) = zeros
        have hlength : zeros.length = n - (stream.drop 4).length := by rw [← hzeros, List.length_replicate]
        have hpayload : (stream.drop 4 ++ zeros).length = n := by
          rw [List.length_append]
          omega
        have hpiece : stream ++ zeros = (Piece.frame (stream.drop 4 ++ zeros) (hpayload.symm ▸ hn)).bytes := by
          rw [Piece.bytes, hpayload, ← hhead, ← List.append_assoc, List.take_append_drop]
        exact .inl (ends_of_append hpiece (List.length_pos_iff.mp (by omega)))
      · have hpayload : ((stream.drop 4).take n).length = n :=
          List.length_take_of_le (Nat.le_of_not_lt hshort)
        refine .inr ⟨.frame ((stream.drop 4).take n) (hpayload.symm ▸ hn), (stream.drop 4).drop n, ?_⟩
        rw [Piece.bytes, hpayload, ← hhead, List.append_assoc, List.take_append_drop, List.take_append_drop]

/-- So a stream is a row of pieces, and what is left when it ends. -/
theorem exists_pieces (stream : Bytes) :
    ∃ (pieces : List Piece) (rest : Bytes), Ends rest ∧ stream = Piece.stream pieces ++ rest := by
  induction hn : stream.length using Nat.strongRecOn generalizing stream with
  | ind n ih =>
    obtain hends | ⟨piece, behind, rfl⟩ := ends_or_piece stream
    · exact ⟨[], stream, hends, rfl⟩
    · have hlt : behind.length < n := by
        have := piece.bytes_length_pos
        rw [List.length_append] at hn
        omega
      obtain ⟨pieces, rest, hends, rfl⟩ := ih behind.length hlt behind rfl
      exact ⟨piece :: pieces, rest, hends, (List.append_assoc ..).symm⟩

/-! ## Decoding on and on -/

/-- Decodes so many times, each time what the last one left of the stream.  Returns the answers, each with the
stream behind it. -/
def decodeTimes (read : Payload.Reader α) : Nat → Bytes → List (Except Error α × Bytes)
  | 0, _ => []
  | n + 1, stream => decode read stream :: decodeTimes read n (decode read stream).2

/-- The answers in a row of pieces, whatever is behind them. -/
theorem decodeTimes_pieces (read : Payload.Reader α) {pieces : List Piece} {i n : Nat} {piece : Piece}
    (hpiece : pieces[i]? = some piece) (hi : i < n) (rest : Bytes) :
    (decodeTimes read n (Piece.stream pieces ++ rest))[i]? =
      some (piece.answer read, Piece.stream (pieces.drop (i + 1)) ++ rest) := by
  -- the first piece is taken off the stream, so what is at `i` there is at `i - 1` behind it
  induction pieces generalizing i n with
  | nil => cases hpiece
  | cons first pieces ih =>
    obtain ⟨n, rfl⟩ : ∃ m, n = m + 1 := ⟨n - 1, by omega⟩
    rw [decodeTimes, Piece.stream_cons, List.append_assoc, decode_piece]
    cases i with
    | zero =>
      cases hpiece
      rfl
    | succ i =>
      rw [List.getElem?_cons_succ] at hpiece ⊢
      exact ih hpiece (Nat.lt_of_succ_lt_succ hi)

/-- Behind all pieces the stream has ended. -/
theorem decodeTimes_end (read : Payload.Reader α) (pieces : List Piece) {rest : Bytes} (h : Ends rest) :
    (decodeTimes read (pieces.length + 1) (Piece.stream pieces ++ rest))[pieces.length]? =
      some (.error .endOfStream, []) := by
  induction pieces with
  | nil => simp [decodeTimes, decode_ends read h]
  | cons first pieces ih =>
    rw [List.length_cons, decodeTimes, Piece.stream_cons, List.append_assoc, decode_piece,
      List.getElem?_cons_succ]
    exact ih

/-- Payloads are read one by one, whatever the others hold: a payload gives the message that it begins with a
spelling of, and a payload that begins with none is malformed.  Either way decoding goes on behind its frame.  A
length that no frame may have is taken off alone, and a stream that ends inside a frame has ended. -/
structure InStep (read : Payload.Reader α) (Is : Bytes → α → Prop) : Prop where
  /-- The pieces that are frames are those that get written. -/
  framed : ∀ payload h, encode payload = .ok (Piece.frame payload h).bytes
  /-- The `i`-th decoding is about the `i`-th piece alone, and leaves those behind it. -/
  decoded : ∀ (pieces : List Piece) (rest : Bytes) (i : Nat) (piece : Piece), pieces[i]? = some piece →
    (decodeTimes read pieces.length (Piece.stream pieces ++ rest))[i]? =
      some (piece.answer read, Piece.stream (pieces.drop (i + 1)) ++ rest)
  /-- A stream that ends behind some pieces gives no more messages. -/
  ended : ∀ (pieces : List Piece) (rest : Bytes), Ends rest →
    (decodeTimes read (pieces.length + 1) (Piece.stream pieces ++ rest))[pieces.length]? =
      some (.error .endOfStream, [])
  message : ∀ payload message, answer read payload = .ok message ↔
    ∃ front left, payload = front ++ left ∧ Is front message
  malformed : ∀ payload, answer read payload = .error .malformed ↔
    ¬ ∃ message front left, payload = front ++ left ∧ Is front message

theorem answer_eq_ok_iff {read : Payload.Reader α} {payload : Bytes} {message : α} :
    answer read payload = .ok message ↔ ∃ left, read payload = some (message, left) := by
  unfold answer
  cases h : read payload with
  | none => simp
  | some p =>
    obtain ⟨found, left⟩ := p
    simp

theorem answer_ok_or_malformed (read : Payload.Reader α) (payload : Bytes) :
    (∃ message, answer read payload = .ok message) ∨ answer read payload = .error .malformed := by
  unfold answer
  cases read payload with
  | none => exact .inr rfl
  | some p => exact .inl ⟨p.1, rfl⟩

theorem inStep_of_reads {read : Payload.Reader α} {Is : Bytes → α → Prop} (h : Payload.Reads read Is) :
    InStep read Is := by
  have hmessage (payload : Bytes) (message : α) : answer read payload = .ok message ↔
      ∃ front left, payload = front ++ left ∧ Is front message := by
    rw [answer_eq_ok_iff, exists_comm]
    exact exists_congr fun left => h payload message left
  refine ⟨fun payload h => if_pos h, fun pieces rest i piece hpiece => ?_,
    fun pieces rest => decodeTimes_end read pieces, hmessage, fun payload => ?_⟩
  · exact decodeTimes_pieces read hpiece (List.getElem?_eq_some_iff.mp hpiece).1 rest
  · simp only [← hmessage]
    constructor
    · rintro hbad ⟨message, hok⟩
      rw [hbad] at hok
      cases hok
    · intro hnone
      exact (answer_ok_or_malformed read payload).resolve_left hnone

/-- Updates are read one by one, and so are snapshots. -/
theorem frames_isolated :
    InStep Payload.readUpdate Payload.IsUpdate ∧ InStep Payload.readSnapshot Payload.IsSnapshot :=
  ⟨inStep_of_reads Payload.readUpdate_reads, inStep_of_reads Payload.readSnapshot_reads⟩

/-! A number with a digit too many, a length above the limit, a reset with a byte behind it, and half a length. -/

example : decodeTimes Payload.readUpdate 4 ([0, 0, 0, 6, 0x80, 0x80, 0x80, 0x80, 0x80, 0x04] ++ [2, 0, 0, 0] ++
    [0, 0, 0, 2, 4, 0xFF] ++ [0, 0]) =
      [(.error .malformed, [2, 0, 0, 0, 0, 0, 0, 2, 4, 0xFF, 0, 0]),
        (.error (.tooLong 0x2000000), [0, 0, 0, 2, 4, 0xFF, 0, 0]),
        (.ok .terminalReset, [0, 0]), (.error .endOfStream, [])] := by
  decide

end DeviceBus.Frame
