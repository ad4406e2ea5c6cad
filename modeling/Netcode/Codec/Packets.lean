/-
**The packet codec.**

* `sequenceNumberBytesRequired_least` — the sequence number is written with the fewest bytes, from 1
  to 8, that hold it;
* `packet_round_trip` — **what `writePacket` writes, `readPacket` reads**, for the six encrypted
  packets and for connection requests;
* `no_packet_malleability` — **what `readPacket` accepts, `writePacket` wrote**, as far as the AEAD
  opens only what was sealed.
-/

import Netcode.Codec.Fields
import Netcode.Codec.Writer
import Netcode.Model.Sample

namespace Netcode

open LittleEndian Codec

/-! ### The sequence number -/

/-- A number of one more byte has its top byte zero precisely if it fits without it. -/
theorem and_topByte_eq_zero {number bytes : Nat} (small : number < 256 ^ (bytes + 1)) :
    number &&& 255 <<< (8 * bytes) = 0 ↔ number < 256 ^ bytes := by
  have power : 256 ^ bytes = 2 ^ (8 * bytes) := by
    rw [Nat.pow_mul]
  rw [power]
  constructor
  · intro zero
    have top : number >>> (8 * bytes) &&& 255 = 0 := by
      have shifted := congrArg (· >>> (8 * bytes)) zero
      simpa [Nat.shiftRight_and_distrib, Nat.shiftLeft_shiftRight] using shifted
    rw [show 255 = 2 ^ 8 - 1 from rfl, Nat.and_two_pow_sub_one_eq_mod,
      Nat.shiftRight_eq_div_pow] at top
    have quotient : number / 2 ^ (8 * bytes) < 256 := by
      rw [Nat.div_lt_iff_lt_mul (Nat.two_pow_pos _), ← power, Nat.mul_comm, ← Nat.pow_succ]
      exact small
    rw [Nat.mod_eq_of_lt quotient] at top
    exact Nat.lt_of_div_eq_zero (Nat.two_pow_pos _) top
  · intro fits
    refine Nat.eq_of_testBit_eq fun bit => ?_
    rw [Nat.testBit_and, Nat.testBit_shiftLeft, Nat.zero_testBit]
    by_cases high : 8 * bytes ≤ bit
    · rw [Nat.testBit_lt_two_pow (fits.trans_le (Nat.pow_le_pow_right (by decide) high)),
        Bool.false_and]
    · simp [high]

/-- The loop of `sequenceNumberBytesRequired`: the mask is at the byte it looks at, the bytes above
are zero. -/
theorem highZeroBytes_spec {sequence mask : UInt64} {fuel : Nat}
    (isMask : mask.toNat = 255 <<< (8 * fuel)) (small : sequence.toNat < 256 ^ (fuel + 1)) :
    highZeroBytes sequence fuel mask ≤ fuel ∧
      sequence.toNat < 256 ^ (fuel + 1 - highZeroBytes sequence fuel mask) ∧
      (highZeroBytes sequence fuel mask < fuel →
        256 ^ (fuel - highZeroBytes sequence fuel mask) ≤ sequence.toNat) := by
  induction fuel generalizing mask with
  | zero => exact ⟨Nat.le_refl _, small, fun impossible => absurd impossible (Nat.not_lt_zero _)⟩
  | succ fuel ih =>
    have zero_iff : sequence &&& mask = 0 ↔ sequence.toNat < 256 ^ (fuel + 1) := by
      rw [← and_topByte_eq_zero small, ← isMask, ← UInt64.toNat_and, ← UInt64.toNat_inj]
      rfl
    rw [highZeroBytes]
    split_ifs with top
    · refine ⟨Nat.zero_le _, small, fun _ => ?_⟩
      exact Nat.not_lt.mp fun fits => top (zero_iff.mpr fits)
    · have next : (mask >>> 8).toNat = 255 <<< (8 * fuel) := by
        rw [UInt64.toNat_shiftRight, isMask, Nat.mul_succ, Nat.shiftLeft_add]
        exact Nat.shiftLeft_shiftRight _ 8
      obtain ⟨few, fits, least⟩ := ih next (zero_iff.mp (not_not.mp top))
      refine ⟨by omega, ?_, fun more => ?_⟩
      · rw [Nat.add_sub_add_right]
        exact fits
      · rw [Nat.add_sub_add_right]
        exact least (by omega)

/-- **The fewest bytes that hold the sequence number**, at least one. -/
theorem sequenceNumberBytesRequired_least (sequence : UInt64) :
    1 ≤ sequenceNumberBytesRequired sequence ∧ sequenceNumberBytesRequired sequence ≤ 8 ∧
      sequence.toNat < 256 ^ sequenceNumberBytesRequired sequence ∧
      ∀ bytes, 1 ≤ bytes → sequence.toNat < 256 ^ bytes →
        sequenceNumberBytesRequired sequence ≤ bytes := by
  obtain ⟨few, fits, least⟩ := @highZeroBytes_spec sequence 0xFF00000000000000 7 (by decide)
    sequence.toNat_lt
  unfold sequenceNumberBytesRequired
  refine ⟨by omega, Nat.sub_le _ _, fits, fun bytes some_byte holds => ?_⟩
  by_contra fewer
  have large := least (by omega)
  have less : 256 ^ bytes ≤ 256 ^ (7 - highZeroBytes sequence 7 0xFF00000000000000) :=
    Nat.pow_le_pow_right (by decide) (by omega)
  omega

/-! ### The prefix byte -/

/-- The number of sequence bytes is in the high bits of the prefix byte, so that it is not the zero
byte of a connection request. -/
theorem packetPrefixByte_high (type : PacketType) (sequence : UInt64) :
    (packetPrefixByte type sequence >>> 4).toNat = sequenceNumberBytesRequired sequence ∧
      packetPrefixByte type sequence ≠ PacketType.request.code := by
  have every : ∀ count ≤ 8, 1 ≤ count →
      ((type.code ||| (UInt8.ofNat count <<< 4)) >>> 4).toNat = count ∧
        type.code ||| (UInt8.ofNat count <<< 4) ≠ PacketType.request.code := by
    cases type <;> decide
  obtain ⟨some_byte, few, -, -⟩ := sequenceNumberBytesRequired_least sequence
  exact every _ few some_byte

/-! ### What is written is read -/

section RoundTrip

variable {env : Platform} {protocolID currentTimestamp minConnectTokenExpireTimestamp : UInt64}
  {allowedPackets : PacketType → Bool} {privateKey : Option Key}
  {replayProtection : Option ReplayProtection}

theorem Packet.Sealable.encrypted {p : Packet} (fits : p.Sealable) : p.packetType ≠ .request := by
  cases p with
  | connectionRequest => exact fits.elim
  | _ => exact fun request => by cases request

/-- An encrypted packet takes at most 1 + 8 + 1200 + 16 bytes. -/
theorem writePacket_length {p : Packet} (fits : p.Sealable) (sequence : UInt64) (key : Key)
    (protocolID : UInt64) :
    (writePacket env p sequence key protocolID).length =
        1 + sequenceNumberBytesRequired sequence + p.body.length + MacBytes ∧
      p.body.length ≤ MaxPacketSize := by
  constructor
  · rw [writePacket_encrypted fits.encrypted, List.length_append, List.length_cons, leBytes_length,
      sealPacket, encryptAEAD_ciphertext_length]
    omega
  · cases p with
    | connectionRequest => exact fits.elim
    | connectionPayload payload => exact fits.2
    | connectionDenied | connectionDisconnect => exact Nat.zero_le _
    | connectionKeepAlive => simp [Packet.body, MaxPacketSize]
    | connectionChallenge sequence data | connectionResponse sequence data =>
      rw [Packet.body, List.length_append, uint64Bytes_length, data.length_eq]
      decide

/-- **Reading an encrypted packet that opens**, once it has passed every check. -/
theorem readPacket_opens {prefixByte : UInt8} {type : PacketType} {sequenceData : Bytes}
    {sequence : UInt64} {call : AeadCall} {key : Key} {packet : Option Packet}
    (isType : PacketType.ofCode (prefixByte &&& 0xF) = some type)
    (allowed : allowedPackets type = true)
    (length : sequenceData.length = (prefixByte >>> 4).toNat)
    (range : 1 ≤ sequenceData.length ∧ sequenceData.length ≤ 8)
    (isSequence : sequence = UInt64.ofNat (leNat sequenceData))
    (fresh : type.replayProtected = true →
      ∀ replay, replayProtection = some replay → replay.alreadyReceived sequence = false)
    (opens : decryptAEAD env call.ciphertext (packetAdditionalData protocolID prefixByte)
      (packetNonce sequence) key = some call)
    (decodes : decodePacket type call.plaintext = some packet) :
    readPacket env protocolID currentTimestamp minConnectTokenExpireTimestamp allowedPackets
        (prefixByte :: sequenceData ++ call.ciphertext) (some key) privateKey replayProtection =
      some ⟨packet, sequence, advanceReplay type sequence replayProtection, some call⟩ := by
  obtain ⟨-, -, -, -, sealedLength⟩ := decryptAEAD_eq_some opens
  have notRequest : prefixByte ≠ PacketType.request.code := by
    rintro rfl
    exact absurd (length ▸ range.1) (by decide)
  have replayed : ¬ (type.replayProtected &&
      replayProtection.any (·.alreadyReceived sequence)) = true := by
    rw [Bool.and_eq_true]
    rintro ⟨protects, received⟩
    cases replayProtection with
    | none => cases received
    | some replay =>
      rw [Option.any_some, fresh protects replay rfl] at received
      cases received
  have readSequence := readBytes_append (⟨sequenceData, length⟩ :
    FixedBytes (prefixByte >>> 4).toNat) call.ciphertext
  have total : (sequenceData ++ call.ciphertext).length =
      sequenceData.length + (call.plaintext.length + MacBytes) := by
    rw [List.length_append, sealedLength]
  rw [List.cons_append, readPacket]
  rw [if_neg notRequest, readEncryptedPacket]
  rw [isType]
  dsimp only at readSequence ⊢
  rw [if_neg (by omega), allowed, if_neg (by decide), if_neg (by omega), if_neg (by omega),
    readSequence, Option.bind_eq_bind, Option.bind_some]
  dsimp only
  rw [← isSequence, if_neg replayed, if_neg (by omega), opens]
  dsimp only
  rw [decodes]
  rfl

/-- **Reading an encrypted packet that was written.** -/
theorem readPacket_writePacket {p : Packet} (fits : p.Sealable) (sequence : UInt64) (key : Key)
    (allowed : allowedPackets p.packetType = true)
    (fresh : p.packetType.replayProtected = true →
      ∀ replay, replayProtection = some replay → replay.alreadyReceived sequence = false) :
    readPacket env protocolID currentTimestamp minConnectTokenExpireTimestamp allowedPackets
        (writePacket env p sequence key protocolID) (some key) privateKey replayProtection =
      some ⟨some p, sequence, advanceReplay p.packetType sequence replayProtection,
        some (sealPacket env p sequence key protocolID)⟩ := by
  obtain ⟨some_byte, few, holds, -⟩ := sequenceNumberBytesRequired_least sequence
  obtain ⟨high, -⟩ := packetPrefixByte_high p.packetType sequence
  have opens : decryptAEAD env (sealPacket env p sequence key protocolID).ciphertext
      (packetAdditionalData protocolID (packetPrefixByte p.packetType sequence))
      (packetNonce sequence) key = some (sealPacket env p sequence key protocolID) := by
    unfold decryptAEAD sealPacket encryptAEAD
    rw [env.chacha20poly1305.decrypt_encrypt]
    rfl
  rw [writePacket_encrypted fits.encrypted]
  exact readPacket_opens (packetPrefixByte_type _ _) allowed (by rw [leBytes_length, high])
    (by rw [leBytes_length]; exact ⟨some_byte, few⟩)
    (by rw [leNat_leBytes_of_lt holds, UInt64.ofNat_toNat]) fresh opens (decodePacket_body fits)

/-- A private token opened in place, with the MAC of the sealed one behind it. -/
theorem openedToken_bytes (token sealedData : FixedBytes connectTokenPrivateBytes) :
    (token.bytes.take (connectTokenPrivateBytes - MacBytes)).length =
        connectTokenPrivateBytes - MacBytes ∧
      (sealedData.bytes.drop (connectTokenPrivateBytes - MacBytes)).length = MacBytes ∧
      (FixedBytes.copyFrom connectTokenPrivateBytes
        (token.bytes.take (connectTokenPrivateBytes - MacBytes) ++
          sealedData.bytes.drop (connectTokenPrivateBytes - MacBytes))).bytes =
        token.bytes.take (connectTokenPrivateBytes - MacBytes) ++
          sealedData.bytes.drop (connectTokenPrivateBytes - MacBytes) := by
  have front : (token.bytes.take (connectTokenPrivateBytes - MacBytes)).length =
      connectTokenPrivateBytes - MacBytes := by
    rw [List.length_take, token.length_eq]
    decide
  have mac : (sealedData.bytes.drop (connectTokenPrivateBytes - MacBytes)).length = MacBytes := by
    rw [List.length_drop, sealedData.length_eq]
    decide
  refine ⟨front, mac, FixedBytes.copyFrom_bytes ?_⟩
  rw [List.length_append, front, mac]
  decide

/-- **Reading a connection request that was written.** The private token is opened in place, with
its MAC behind it. -/
theorem readPacket_request {request : ConnectionRequest} {readPacketKey : Option Key} {key : Key}
    {token : FixedBytes connectTokenPrivateBytes} (sequence : UInt64) (writePacketKey : Key)
    (allowed : allowedPackets .request = true) (version : request.versionInfo = versionInfo)
    (protocol : request.protocolID = protocolID)
    (unexpired : currentTimestamp < request.connectTokenExpireTimestamp)
    (afterStart : minConnectTokenExpireTimestamp ≤ request.connectTokenExpireTimestamp)
    (sealedData : request.connectTokenData.bytes = (encryptConnectTokenPrivate env token protocolID
      request.connectTokenExpireTimestamp request.connectTokenNonce key).ciphertext) :
    readPacket env protocolID currentTimestamp minConnectTokenExpireTimestamp allowedPackets
        (writePacket env (.connectionRequest request) sequence writePacketKey protocolID)
        readPacketKey (some key) replayProtection =
      some ⟨some (.connectionRequest { request with
          connectTokenData := .copyFrom connectTokenPrivateBytes
            (token.bytes.take (connectTokenPrivateBytes - MacBytes) ++
              request.connectTokenData.bytes.drop (connectTokenPrivateBytes - MacBytes)) }), 0,
        replayProtection, some (encryptConnectTokenPrivate env token protocolID
          request.connectTokenExpireTimestamp request.connectTokenNonce key)⟩ := by
  obtain ⟨version', protocolID', expires, nonce, data⟩ := request
  dsimp only at version protocol unexpired afterStart sealedData
  obtain rfl := version
  obtain rfl := protocol.symm
  have opens : decryptConnectTokenPrivate env data protocolID expires nonce key =
      some (encryptConnectTokenPrivate env token protocolID expires nonce key) := by
    unfold decryptConnectTokenPrivate decryptAEADBigNonce encryptConnectTokenPrivate
      encryptAEADBigNonce at *
    rw [sealedData, env.xchacha20poly1305.decrypt_encrypt]
    rfl
  have readData := (readBytes_exact connectTokenPrivateBytes).read_append data []
  rw [List.append_nil] at readData
  have length : (versionInfo.bytes ++ uint64Bytes protocolID ++ uint64Bytes expires ++ nonce.bytes ++
      data.bytes).length = versionInfoBytes + 8 + 8 + connectTokenNonceBytes +
        connectTokenPrivateBytes := by
    simp only [List.length_append, versionInfo.length_eq, uint64Bytes_length, nonce.length_eq,
      data.length_eq]
  rw [writePacket, List.cons_append, List.cons_append, List.cons_append, List.cons_append,
    readPacket, if_pos rfl, readRequestPacket, allowed]
  rw [if_neg (by decide), if_neg (by rw [length]; decide)]
  simp only [List.append_assoc]
  rw [(readBytes_exact _).read_append, Option.bind_eq_bind, Option.bind_some]
  dsimp only
  rw [if_neg (not_not.mpr rfl), readUint64_exact.read_append, Option.bind_eq_bind, Option.bind_some]
  dsimp only
  rw [if_neg (not_not.mpr rfl), readUint64_exact.read_append, Option.bind_eq_bind, Option.bind_some]
  dsimp only
  rw [if_neg (UInt64.not_le.mpr unexpired), if_neg (UInt64.not_lt.mpr afterStart),
    (readBytes_exact _).read_append, Option.bind_eq_bind, Option.bind_some]
  dsimp only
  rw [readData, Option.bind_some]
  dsimp only
  rw [opens]
  rfl

/-- **The packet codec round trip.** An encrypted packet, with a payload of 1 to 1200 bytes if it has
one:

* is written into a buffer of `maxPacketBytes`, as at most 1225 bytes: the prefix byte, the fewest
  bytes from 1 to 8 that hold the sequence number, and the sealed fields;
* is read back from these bytes with its sequence number wherever its type is allowed and no replay
  window rejects it.

A connection request whose private token was sealed under the server's key, for the protocol id and
the time of the reading, is read with the same header, the opened token and its MAC. -/
theorem packet_round_trip (env : Platform)
    (protocolID currentTimestamp minConnectTokenExpireTimestamp : UInt64)
    (allowedPackets : PacketType → Bool) (replayProtection : Option ReplayProtection) :
    (∀ (p : Packet) (sequence : UInt64) (key : Key) (buffer : FixedBytes maxPacketBytes),
      p.Sealable →
        ∃ bytes, writePacketInto env p buffer.bytes sequence key protocolID =
            some (bytes.length, bytes ++ buffer.bytes.drop bytes.length) ∧
          bytes.length ≤ 1225 ∧
          (∃ count, bytes = packetPrefixByte p.packetType sequence :: leBytes count sequence.toNat ++
              (sealPacket env p sequence key protocolID).ciphertext ∧
            1 ≤ count ∧ count ≤ 8 ∧ sequence.toNat < 256 ^ count ∧
            ∀ count', 1 ≤ count' → sequence.toNat < 256 ^ count' → count ≤ count') ∧
          (allowedPackets p.packetType = true →
            (p.packetType.replayProtected = true → ∀ replay, replayProtection = some replay →
              replay.alreadyReceived sequence = false) →
            ∀ privateKey, ∃ replayProtection' opened,
              readPacket env protocolID currentTimestamp minConnectTokenExpireTimestamp
                  allowedPackets bytes (some key) privateKey replayProtection =
                some ⟨some p, sequence, replayProtection', opened⟩)) ∧
    (∀ (request : ConnectionRequest) (token : FixedBytes connectTokenPrivateBytes)
        (privateKey key : Key) (sequence : UInt64) (readPacketKey : Option Key)
        (buffer : FixedBytes maxPacketBytes),
      allowedPackets .request = true →
      request.versionInfo = versionInfo → request.protocolID = protocolID →
      currentTimestamp < request.connectTokenExpireTimestamp →
      minConnectTokenExpireTimestamp ≤ request.connectTokenExpireTimestamp →
      request.connectTokenData.bytes = (encryptConnectTokenPrivate env token protocolID
        request.connectTokenExpireTimestamp request.connectTokenNonce privateKey).ciphertext →
        ∃ bytes data opened,
          writePacketInto env (.connectionRequest request) buffer.bytes sequence key protocolID =
            some (bytes.length, bytes ++ buffer.bytes.drop bytes.length) ∧
          readPacket env protocolID currentTimestamp minConnectTokenExpireTimestamp allowedPackets
              bytes readPacketKey (some privateKey) replayProtection =
            some ⟨some (.connectionRequest { request with connectTokenData := data }), 0,
              replayProtection, opened⟩ ∧
          data.bytes.take (connectTokenPrivateBytes - MacBytes) =
            token.bytes.take (connectTokenPrivateBytes - MacBytes) ∧
          data.bytes.drop (connectTokenPrivateBytes - MacBytes) =
            request.connectTokenData.bytes.drop (connectTokenPrivateBytes - MacBytes)) := by
  constructor
  · intro p sequence key buffer fits
    obtain ⟨length, small⟩ := @writePacket_length env p fits sequence key protocolID
    obtain ⟨some_byte, few, holds, least⟩ := sequenceNumberBytesRequired_least sequence
    have total : (writePacket env p sequence key protocolID).length ≤ 1225 := by
      simp only [MaxPacketSize, MacBytes] at small length
      omega
    refine ⟨_, writePacketInto_eq (total.trans ?_), total,
      ⟨_, writePacket_encrypted fits.encrypted, some_byte, few, holds, least⟩,
      fun allowed fresh privateKey => ⟨_, _, readPacket_writePacket fits sequence key allowed fresh⟩⟩
    rw [buffer.length_eq]
    decide
  · intro request token privateKey key sequence readPacketKey buffer allowed version protocol
      unexpired afterStart sealedData
    obtain ⟨front, -, data⟩ := openedToken_bytes token request.connectTokenData
    refine ⟨_, _, _, writePacketInto_eq ?_, readPacket_request sequence key allowed version protocol
      unexpired afterStart sealedData, ?_, ?_⟩
    · rw [buffer.length_eq]
      exact writePacket_length_le fun _ impossible => by cases impossible
    · rw [data, List.take_left' front]
    · rw [data, List.drop_left' front]

/-- A keep-alive with negative fields, under a sequence number of two bytes. -/
theorem packet_round_trip_negative :
    let p : Packet := .connectionKeepAlive (-1) (-7)
    ∃ bytes, writePacketInto samplePlatform p (FixedBytes.zero maxPacketBytes).bytes 300
        (Sample.key 11) Sample.protocolID =
          some (bytes.length, bytes ++ (FixedBytes.zero maxPacketBytes).bytes.drop bytes.length) ∧
      ∃ replayProtection opened,
        readPacket samplePlatform Sample.protocolID 0 0 (fun _ => true) bytes (some (Sample.key 11))
          none none = some ⟨some p, 300, replayProtection, opened⟩ := by
  obtain ⟨bytes, writes, -, -, reads⟩ :=
    (packet_round_trip samplePlatform Sample.protocolID 0 0 (fun _ => true) none).1
      (.connectionKeepAlive (-1) (-7)) 300 (Sample.key 11) (.zero _) trivial
  exact ⟨bytes, writes, reads rfl (fun _ _ impossible => by cases impossible) none⟩

end RoundTrip

/-! ### What is read was written -/

/-- What `writePacket` seals. -/
def SealedPacket (env : Platform) (call : AeadCall) : Prop :=
  ∃ (p : Packet) (sequence : UInt64) (key : Key) (protocolID : UInt64),
    p.packetType ≠ .request ∧ call = sealPacket env p sequence key protocolID

/-- What `encryptConnectTokenPrivate` seals. -/
def SealedToken (env : Platform) (call : AeadCall) : Prop :=
  ∃ (token : FixedBytes connectTokenPrivateBytes) (protocolID expireTimestamp : UInt64)
    (nonce : FixedBytes connectTokenNonceBytes) (key : Key),
    call = encryptConnectTokenPrivate env token protocolID expireTimestamp nonce key

/-- A token's nonce is longer than a packet's. -/
theorem SealedToken.nonce_ne {env : Platform} {call : AeadCall} (isToken : SealedToken env call)
    {sequence : UInt64} : call.nonce ≠ packetNonce sequence := by
  obtain ⟨token, protocolID, expireTimestamp, nonce, key, rfl⟩ := isToken
  intro same
  have size : nonce.bytes.length = (packetNonce sequence).length := congrArg List.length same
  rw [nonce.length_eq, packetNonce, List.length_append, uint32Bytes_length, uint64Bytes_length]
    at size
  cases size

theorem SealedPacket.nonce_ne {env : Platform} {call : AeadCall} (isPacket : SealedPacket env call)
    {nonce : FixedBytes connectTokenNonceBytes} : call.nonce ≠ nonce.bytes := by
  obtain ⟨p, sequence, key, protocolID, -, rfl⟩ := isPacket
  intro same
  have size : (packetNonce sequence).length = nonce.bytes.length := congrArg List.length same
  rw [nonce.length_eq, packetNonce, List.length_append, uint32Bytes_length, uint64Bytes_length]
    at size
  cases size

theorem connectTokenAdditionalData_injective {protocolID protocolID' expires expires' : UInt64}
    (same : connectTokenAdditionalData protocolID expires =
      connectTokenAdditionalData protocolID' expires') :
    protocolID = protocolID' ∧ expires = expires' := by
  obtain ⟨protocol, last⟩ := List.append_inj' same (by rw [uint64Bytes_length, uint64Bytes_length])
  exact ⟨uint64Bytes_injective (List.append_cancel_left protocol), uint64Bytes_injective last⟩

/-- A decoded packet is the one that was encoded. -/
theorem decodePacket_body_eq {p q : Packet} (encrypted : p.packetType ≠ .request)
    (decodes : decodePacket p.packetType p.body = some (some q)) : q = p := by
  have decoded : p.Sealable → q = p := by
    intro fits
    rw [decodePacket_body fits] at decodes
    cases decodes
    rfl
  cases p with
  | connectionRequest => exact absurd rfl encrypted
  | connectionPayload payload =>
    change (if payload.length < 1 then some none else if payload.length > maxPayloadBytes then
      some none else some (some (.connectionPayload payload))) = some (some q) at decodes
    split_ifs at decodes
    · cases decodes
    · cases decodes
    · cases decodes
      rfl
  | _ => exact decoded trivial

/-- **An opened call that reads as a packet** with a sequence number. -/
structure Decodes (protocolID : UInt64) (call : AeadCall) (p : Packet) (sequence : UInt64) :
    Prop where
  nonce : call.nonce = packetNonce sequence
  fields : ∃ prefixByte type, call.additional = packetAdditionalData protocolID prefixByte ∧
    PacketType.ofCode (prefixByte &&& 0xF) = some type ∧
      decodePacket type call.plaintext = some (some p)

/-- A sealed packet reads as itself, and under its own number. -/
theorem Decodes.of_seal {env : Platform} {p q : Packet} {sequence sequence' : UInt64} {key : Key}
    {protocolID protocolID' : UInt64} (encrypted : p.packetType ≠ .request)
    (decodes : Decodes protocolID (sealPacket env p sequence key protocolID') q sequence') :
    q = p ∧ sequence' = sequence := by
  obtain ⟨nonce, prefixByte, type, additional, isType, isPacket⟩ := decodes
  have sameType : p.packetType = type := by
    rw [← (packetAdditionalData_injective additional).2, packetPrefixByte_type] at isType
    exact Option.some_inj.mp isType
  subst sameType
  exact ⟨decodePacket_body_eq encrypted isPacket, (packetNonce_injective nonce).symm⟩

/-- A number that was read off its bytes is written as those bytes. -/
theorem leBytes_of_read {bytes : Bytes} {number : UInt64} (few : bytes.length ≤ 8)
    (isNumber : number = UInt64.ofNat (leNat bytes)) :
    leBytes bytes.length number.toNat = bytes := by
  have small : leNat bytes < 2 ^ 64 :=
    (leNat_lt bytes).trans_le (Nat.pow_le_pow_right (by decide) few)
  rw [isNumber, UInt64.toNat_ofNat', Nat.mod_eq_of_lt small, leBytes_leNat]

section Authentic

variable {env : Platform} {protocolID currentTimestamp minConnectTokenExpireTimestamp : UInt64}
  {allowedPackets : PacketType → Bool} {buffer : Bytes} {readPacketKey privateKey : Option Key}
  {replayProtection : Option ReplayProtection} {outcome : ReadOutcome}

/-- **An encrypted packet that opened as one that was sealed** is byte for byte what was written. -/
theorem written_of_sealed
    {p q : Packet} {sequence sequence' protocolID' : UInt64} {key key' : Key} {prefixByte : UInt8}
    {type : PacketType} {sequenceData : Bytes} {call : AeadCall}
    (encrypted : p.packetType ≠ .request)
    (isSeal : call = sealPacket env p sequence' key' protocolID')
    (isType : PacketType.ofCode (prefixByte &&& 0xF) = some type)
    (sequenceLength : sequenceData.length = (prefixByte >>> 4).toNat)
    (sequenceRange : 1 ≤ sequenceData.length ∧ sequenceData.length ≤ 8)
    (isSequence : sequence = UInt64.ofNat (leNat sequenceData))
    (opens : decryptAEAD env call.ciphertext (packetAdditionalData protocolID prefixByte)
      (packetNonce sequence) key = some call)
    (decodes : decodePacket type call.plaintext = some (some q)) :
    prefixByte :: sequenceData ++ call.ciphertext = writePacket env q sequence key protocolID := by
  obtain ⟨isKey, isNonce, isAdditional, -, -⟩ := decryptAEAD_eq_some opens
  subst isSeal
  obtain rfl : key' = key := isKey
  obtain rfl : sequence' = sequence := packetNonce_injective isNonce
  obtain ⟨rfl, rfl⟩ := packetAdditionalData_injective isAdditional
  rw [packetPrefixByte_type] at isType
  cases isType
  obtain rfl := decodePacket_body_eq encrypted decodes
  have digits := leBytes_of_read sequenceRange.2 isSequence
  rw [sequenceLength, (packetPrefixByte_high _ _).1] at digits
  rw [writePacket_encrypted encrypted, digits]

/-- **No packet is malleable.** If what was opened in a reading was sealed by `writePacket` or by
`encryptConnectTokenPrivate`, then:

* an encrypted packet that is returned was read off exactly the bytes that `writePacket` writes for
  it, under the sequence number that is reported;
* a connection request that is returned was read off exactly its header and a private token sealed
  for that header;
* a buffer that is neither gives no packet. -/
theorem no_packet_malleability
    (reads : readPacket env protocolID currentTimestamp minConnectTokenExpireTimestamp
      allowedPackets buffer readPacketKey privateKey replayProtection = some outcome)
    (authentic : ∀ call, outcome.opened = some call → SealedPacket env call ∨ SealedToken env call) :
    (∀ p, outcome.packet = some p → p.packetType ≠ .request →
      ∃ key, readPacketKey = some key ∧
        buffer = writePacket env p outcome.sequence key protocolID) ∧
    (∀ request, outcome.packet = some (.connectionRequest request) →
      ∃ key token, privateKey = some key ∧ buffer = PacketType.request.code :: versionInfo.bytes ++
        uint64Bytes protocolID ++ uint64Bytes request.connectTokenExpireTimestamp ++
        request.connectTokenNonce.bytes ++ (encryptConnectTokenPrivate env token protocolID
          request.connectTokenExpireTimestamp request.connectTokenNonce key).ciphertext) ∧
    ((∀ key p sequence, readPacketKey = some key → p.packetType ≠ .request →
        buffer ≠ writePacket env p sequence key protocolID) →
      (∀ key token expireTimestamp nonce, privateKey = some key →
        buffer ≠ PacketType.request.code :: versionInfo.bytes ++ uint64Bytes protocolID ++
          uint64Bytes expireTimestamp ++ FixedBytes.bytes nonce ++ (encryptConnectTokenPrivate env
            token protocolID expireTimestamp nonce key).ciphertext) →
      outcome.packet = none) := by
  obtain ⟨outcome', reads', readsAs⟩ := readPacket_spec env protocolID currentTimestamp
    minConnectTokenExpireTimestamp allowedPackets buffer readPacketKey privateKey replayProtection
  obtain rfl : outcome' = outcome := Option.some_inj.mp (reads'.symm.trans reads)
  have encrypted : ∀ p, outcome'.packet = some p → p.packetType ≠ .request →
      ∃ key, readPacketKey = some key ∧
        buffer = writePacket env p outcome'.sequence key protocolID := by
    intro p isPacket notRequest
    cases readsAs with
    | ignored => cases isPacket
    | request =>
      cases isPacket
      exact absurd rfl notRequest
    | encrypted key prefixByte type sequenceData sequence call packet isKey bytes _ isType _
        sequenceLength sequenceRange isSequence _ opens decodes =>
      obtain rfl : packet = some p := isPacket
      obtain ⟨p', sequence', key', protocolID', notRequest', isSeal⟩ | isToken := authentic call rfl
      · refine ⟨key, isKey, bytes.trans ?_⟩
        exact written_of_sealed notRequest' isSeal isType sequenceLength sequenceRange isSequence
          opens decodes
      · obtain ⟨-, isNonce, -, -, -⟩ := decryptAEAD_eq_some opens
        exact absurd isNonce isToken.nonce_ne
  have requested : ∀ request, outcome'.packet = some (.connectionRequest request) →
      ∃ key token, privateKey = some key ∧ buffer = PacketType.request.code :: versionInfo.bytes ++
        uint64Bytes protocolID ++ uint64Bytes request.connectTokenExpireTimestamp ++
        request.connectTokenNonce.bytes ++ (encryptConnectTokenPrivate env token protocolID
          request.connectTokenExpireTimestamp request.connectTokenNonce key).ciphertext := by
    intro request isPacket
    cases readsAs with
    | ignored => cases isPacket
    | request key request' call _ isKey bytes _ _ _ _ opens =>
      cases isPacket
      obtain ⟨isKey', isNonce, isAdditional, -, -⟩ := decryptAEADBigNonce_eq_some opens
      obtain isPacket | ⟨token, protocolID', expires, nonce, key', rfl⟩ := authentic call rfl
      · exact absurd isNonce isPacket.nonce_ne
      · refine ⟨key, token, isKey, bytes.trans ?_⟩
        obtain rfl : key' = key := isKey'
        obtain rfl : nonce = request.connectTokenNonce := FixedBytes.ext isNonce
        obtain ⟨rfl, rfl⟩ := connectTokenAdditionalData_injective isAdditional
        rfl
    | encrypted _ _ _ _ _ _ packet _ _ _ _ _ _ _ _ _ _ decodes =>
      obtain rfl : packet = some (.connectionRequest request) := isPacket
      exact absurd decodes decodePacket_ne_request
  refine ⟨encrypted, requested, fun notWritten notRequested => ?_⟩
  cases isPacket : outcome'.packet with
  | none => rfl
  | some p =>
    by_cases isRequest : p.packetType = .request
    · cases p with
      | connectionRequest request =>
        obtain ⟨key, token, isKey, bytes⟩ := requested request isPacket
        exact absurd bytes (notRequested key token _ _ isKey)
      | _ => cases isRequest
    · obtain ⟨key, isKey, bytes⟩ := encrypted p isPacket isRequest
      exact absurd bytes (notWritten key p _ isKey isRequest)

/-- A denial that was written for the reader. -/
theorem no_packet_malleability_denied :
    let bytes := writePacket samplePlatform .connectionDenied 5 (Sample.key 12) Sample.protocolID
    ∃ outcome, readPacket samplePlatform Sample.protocolID 0 0 (fun _ => true) bytes
        (some (Sample.key 12)) none none = some outcome ∧
      outcome.packet = some .connectionDenied ∧ outcome.opened.isSome = true ∧
      ∃ key, some (Sample.key 12) = some key ∧ bytes =
        writePacket samplePlatform .connectionDenied outcome.sequence key Sample.protocolID := by
  have reads := @readPacket_writePacket samplePlatform Sample.protocolID 0 0 (fun _ => true) none none
    .connectionDenied trivial 5 (Sample.key 12) rfl (fun impossible => by cases impossible)
  refine ⟨_, reads, rfl, rfl, (no_packet_malleability reads ?_).1 _ rfl
    fun impossible => by cases impossible⟩
  intro call isCall
  cases isCall
  exact .inl ⟨.connectionDenied, 5, _, _, (fun impossible => by cases impossible), rfl⟩

end Authentic

end Netcode
