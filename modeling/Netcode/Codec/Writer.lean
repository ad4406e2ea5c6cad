/-
**`writePacket` over its buffer.**

The writer of `buffer.go` is a cursor over a fixed buffer: the number writes panic past its end,
`bytes` copies what fits. `writePacketInto` follows `packet.go` on that level, with the sequence
number written byte by byte and the packet sealed in place behind it; a slice has no capacity beyond
its length.

* `writePacketInto_eq` — **wherever the bytes of a packet fit, the buffer starts with them
  afterwards, and their number is returned.**
-/

import Netcode.Lib.Cursor
import Netcode.Model.Packet

namespace Netcode

open LittleEndian

/-- A `writer` at the start of a buffer. -/
def newWriter (buffer : Bytes) : Cursor UInt8 := ⟨buffer, 0⟩

/-- The loop that writes the low bytes of the sequence number. -/
def writeSequence : (sequenceBytes : Nat) → (sequence : UInt64) → Cursor UInt8 → Go (Cursor UInt8)
  | 0, _, w => some w
  | sequenceBytes + 1, sequence, w =>
    w.put [(sequence &&& 0xFF).toUInt8] >>= writeSequence sequenceBytes (sequence >>> 8)

/-- The per-packet type data; the default case panics. -/
def writeBody : Packet → Cursor UInt8 → Go (Cursor UInt8)
  | .connectionRequest _, _ => none
  | .connectionDenied, w => some w
  | .connectionChallenge sequence data, w => w.put (uint64Bytes sequence) >>= Cursor.copy data.bytes
  | .connectionResponse sequence data, w => w.put (uint64Bytes sequence) >>= Cursor.copy data.bytes
  | .connectionKeepAlive clientIndex maxClients, w =>
    w.put (uint32Bytes clientIndex.toUInt32) >>= Cursor.put (uint32Bytes maxClients.toUInt32)
  | .connectionPayload payloadData, w => w.copy payloadData
  | .connectionDisconnect, w => some w

/-- The unencrypted connection request. -/
def writeRequest (request : ConnectionRequest) (w : Cursor UInt8) : Go (Cursor UInt8) := do
  let w ← w.put [PacketType.request.code]
  let w ← w.copy request.versionInfo.bytes
  let w ← w.put (uint64Bytes request.protocolID)
  let w ← w.put (uint64Bytes request.connectTokenExpireTimestamp)
  let w ← w.copy request.connectTokenNonce.bytes
  w.copy request.connectTokenData.bytes

/-- An encrypted packet: the header, then the fields, sealed in place. -/
def writeEncrypted (env : Platform) (p : Packet) (buffer : Bytes) (sequence : UInt64)
    (writePacketKey : Key) (protocolID : UInt64) : Go (Nat × Bytes) := do
  let prefixByte := packetPrefixByte p.packetType sequence
  let w ← (newWriter buffer).put [prefixByte]
  let w ← writeSequence (sequenceNumberBytesRequired sequence) sequence w
  let encryptedStart := w.pos
  let w ← writeBody p w
  let encryptedFinish := w.pos
  if w.buffer.length < encryptedFinish then none
  else
    let call := encryptAEAD env
      ((w.buffer.drop encryptedStart).take (encryptedFinish - encryptedStart))
      (packetAdditionalData protocolID prefixByte) (packetNonce sequence) writePacketKey
    -- without room for the MAC the sealed text goes to a new array, which nothing reads
    if w.buffer.length < encryptedFinish + MacBytes then
      return (encryptedFinish + MacBytes, w.buffer)
    else
      return (encryptedFinish + MacBytes,
        ((⟨w.buffer, encryptedStart⟩ : Cursor UInt8).write call.ciphertext).buffer)

/-- `writePacket(p, buffer, sequence, writePacketKey, protocolID)`: the number it returns and the
buffer it leaves. -/
def writePacketInto (env : Platform) (p : Packet) (buffer : Bytes) (sequence : UInt64)
    (writePacketKey : Key) (protocolID : UInt64) : Go (Nat × Bytes) :=
  match p with
  | .connectionRequest request => do
    let w ← writeRequest request (newWriter buffer)
    return (w.pos, w.buffer)
  | p => writeEncrypted env p buffer sequence writePacketKey protocolID

section Refines

open Cursor

theorem writeSequence_writes (sequenceBytes : Nat) (sequence : UInt64) :
    Writes (writeSequence sequenceBytes sequence) (leBytes sequenceBytes sequence.toNat) := by
  induction sequenceBytes generalizing sequence with
  | zero => exact Writes.nothing
  | succ sequenceBytes ih =>
    have low : (sequence &&& 0xFF).toUInt8 = UInt8.ofNat (sequence.toNat % 256) := by
      rw [← UInt8.toNat_inj, UInt64.toNat_toUInt8, UInt64.toNat_and, UInt8.toNat_ofNat']
      exact congrArg (· % 2 ^ 8) (Nat.and_two_pow_sub_one_eq_mod sequence.toNat 8)
    have high : (sequence >>> 8).toNat = sequence.toNat / 256 := by
      rw [UInt64.toNat_shiftRight]
      exact Nat.shiftRight_eq_div_pow sequence.toNat 8
    have whole := (Writes.put [(sequence &&& 0xFF).toUInt8]).seq (ih (sequence >>> 8))
    rw [low, high] at whole
    rw [leBytes]
    intro cursor room
    rw [writeSequence, low]
    exact whole cursor room

theorem writeBody_writes {p : Packet} (encrypted : p.packetType ≠ .request) :
    Writes (writeBody p) p.body := by
  cases p with
  | connectionRequest => exact absurd rfl encrypted
  | connectionDenied | connectionDisconnect => exact Writes.nothing
  | connectionChallenge sequence data | connectionResponse sequence data =>
    exact (Writes.put _).seq (Writes.copy _)
  | connectionKeepAlive => exact (Writes.put _).seq (Writes.put _)
  | connectionPayload payload => exact Writes.copy payload

theorem writeRequest_writes (env : Platform) (request : ConnectionRequest) (sequence : UInt64)
    (key : Key) (protocolID : UInt64) :
    Writes (writeRequest request)
      (writePacket env (.connectionRequest request) sequence key protocolID) := by
  have whole := (Writes.put [PacketType.request.code]).seq <|
    (Writes.copy request.versionInfo.bytes).seq <|
    (Writes.put (uint64Bytes request.protocolID)).seq <|
    (Writes.put (uint64Bytes request.connectTokenExpireTimestamp)).seq <|
    (Writes.copy request.connectTokenNonce.bytes).seq <|
    Writes.copy request.connectTokenData.bytes
  simp only [writePacket, List.append_assoc, List.cons_append, List.nil_append] at whole ⊢
  exact whole

/-- **The buffer of a write at its start.** -/
theorem newWriter_write (buffer data : Bytes) :
    (newWriter buffer).write data = ⟨data ++ buffer.drop data.length, data.length⟩ := by
  simp [newWriter, Cursor.write]

variable {env : Platform} {p : Packet} {buffer : Bytes} {sequence : UInt64} {key : Key}
  {protocolID : UInt64}

theorem writePacket_encrypted (encrypted : p.packetType ≠ .request) :
    writePacket env p sequence key protocolID =
      packetPrefixByte p.packetType sequence ::
        leBytes (sequenceNumberBytesRequired sequence) sequence.toNat ++
        (sealPacket env p sequence key protocolID).ciphertext := by
  cases p with
  | connectionRequest => exact absurd rfl encrypted
  | _ => rfl

/-- **An encrypted packet** is written in three steps: the header, the plaintext behind it, and the
ciphertext over the plaintext. -/
theorem writeEncrypted_eq (encrypted : p.packetType ≠ .request)
    (fits : (writePacket env p sequence key protocolID).length ≤ buffer.length) :
    writeEncrypted env p buffer sequence key protocolID =
      some ((writePacket env p sequence key protocolID).length,
        writePacket env p sequence key protocolID ++
          buffer.drop (writePacket env p sequence key protocolID).length) := by
  have sealedLength : (sealPacket env p sequence key protocolID).ciphertext.length =
      p.body.length + MacBytes := encryptAEAD_ciphertext_length
  rw [writePacket_encrypted encrypted] at fits ⊢
  have isPrefix : (newWriter buffer).put [packetPrefixByte p.packetType sequence] =
      some ((newWriter buffer).write [packetPrefixByte p.packetType sequence]) := by
    refine Writes.put _ _ ?_
    simp only [newWriter, List.length_append, List.length_cons] at fits ⊢
    simp only [List.length_nil]
    omega
  have isHeader : writeSequence (sequenceNumberBytesRequired sequence) sequence
      ((newWriter buffer).write [packetPrefixByte p.packetType sequence]) =
        some ((newWriter buffer).write (packetPrefixByte p.packetType sequence ::
          leBytes (sequenceNumberBytesRequired sequence) sequence.toNat)) := by
    have whole := (Writes.put [packetPrefixByte p.packetType sequence]).seq
      (writeSequence_writes (sequenceNumberBytesRequired sequence) sequence) (newWriter buffer) ?_
    · dsimp only at whole
      rw [isPrefix] at whole
      exact whole
    · rw [List.length_append] at fits
      exact (Nat.zero_add _).trans_le (Nat.le_of_add_right_le fits)
  generalize packetPrefixByte p.packetType sequence ::
      leBytes (sequenceNumberBytesRequired sequence) sequence.toNat = header at fits isHeader ⊢
  rw [List.length_append, sealedLength] at fits
  have isPlain : writeBody p ((newWriter buffer).write header) =
      some ((newWriter buffer).write (header ++ p.body)) := by
    have room : (newWriter buffer).pos + (header ++ p.body).length ≤
        (newWriter buffer).buffer.length := by
      simp only [newWriter, List.length_append]
      omega
    rw [writeBody_writes encrypted, Cursor.write_write _ room]
    simp only [newWriter_write, List.length_append, List.length_drop]
    omega
  simp only [writeEncrypted, isPrefix, isHeader, isPlain, Option.bind_eq_bind, Option.bind_some]
  simp only [newWriter_write]
  have total : (header ++ p.body ++ List.drop (header ++ p.body).length buffer).length =
      buffer.length := by
    simp only [List.length_append, List.length_drop]
    omega
  rw [if_neg (by rw [total, List.length_append]; omega),
    if_neg (by rw [total, List.length_append]; omega)]
  have plain : ((header ++ p.body ++ List.drop (header ++ p.body).length buffer).drop
      header.length).take ((header ++ p.body).length - header.length) = p.body := by
    rw [List.append_assoc, List.drop_left, List.length_append, Nat.add_sub_cancel_left,
      List.take_left]
  rw [plain]
  have text : (encryptAEAD env p.body (packetAdditionalData protocolID
      (packetPrefixByte p.packetType sequence)) (packetNonce sequence) key).ciphertext =
        (sealPacket env p sequence key protocolID).ciphertext := rfl
  rw [text]
  generalize (sealPacket env p sequence key protocolID).ciphertext = ciphertext at sealedLength ⊢
  have behind : (header ++ p.body ++ List.drop (header ++ p.body).length buffer).drop
      (header.length + ciphertext.length) = buffer.drop (header ++ ciphertext).length := by
    rw [List.drop_append, List.drop_drop, List.drop_eq_nil_of_le, List.nil_append]
    · congr 1
      simp only [List.length_append]
      omega
    · rw [List.length_append]
      omega
  simp only [Cursor.write, behind]
  rw [List.append_assoc header, List.take_left]
  simp only [List.length_append, sealedLength, Nat.add_assoc]
  rfl

/-- **`writePacket` leaves its bytes at the start of the buffer** and returns their number, wherever
they fit. -/
theorem writePacketInto_eq
    (fits : (writePacket env p sequence key protocolID).length ≤ buffer.length) :
    writePacketInto env p buffer sequence key protocolID =
      some ((writePacket env p sequence key protocolID).length,
        writePacket env p sequence key protocolID ++
          buffer.drop (writePacket env p sequence key protocolID).length) := by
  cases p with
  | connectionRequest request =>
    have writes := writeRequest_writes env request sequence key protocolID (newWriter buffer)
      (by simpa [newWriter] using fits)
    rw [writePacketInto, writes, newWriter_write]
    rfl
  | _ => exact writeEncrypted_eq (fun request => by cases request) fits

end Refines

end Netcode
