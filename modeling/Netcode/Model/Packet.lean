/-
**Packets: `writePacket` and `readPacket`.**

The seven packet types of `packet.go`, the associated data that binds a sealed packet to its
protocol id and prefix byte, the writer and the reader. `readPacket` returns what it hands to its
caller (the packet or Go's `nil`, the sequence number), what it leaves in the replay window it was
given, and the AEAD call that succeeded, if any.

* `readPacket_spec` — **`readPacket` never panics**, and its outcome is one of three: the datagram
  is ignored with nothing opened and nothing changed; a connection request whose private token
  opened under the private key; an encrypted packet that opened under the read key. The last two
  list every check that was passed on the way.
* `writePacket_length_le` — every packet fits the buffer it is written to.
-/

import Netcode.Model.Token
import Netcode.Model.Replay

namespace Netcode

open LittleEndian

/-! ### Packet types -/

inductive PacketType where
  | request
  | denied
  | challenge
  | response
  | keepAlive
  | payload
  | disconnect
  deriving DecidableEq

def PacketType.code : PacketType → UInt8
  | .request => 0
  | .denied => 1
  | .challenge => 2
  | .response => 3
  | .keepAlive => 4
  | .payload => 5
  | .disconnect => 6

/-- The type of a packet type code below `connectionNumPackets`. -/
def PacketType.ofCode (code : UInt8) : Option PacketType :=
  if code = 0 then some .request
  else if code = 1 then some .denied
  else if code = 2 then some .challenge
  else if code = 3 then some .response
  else if code = 4 then some .keepAlive
  else if code = 5 then some .payload
  else if code = 6 then some .disconnect
  else none

/-- `packetType >= connectionKeepAlivePacket`: the types replay protection applies to. -/
def PacketType.replayProtected : PacketType → Bool
  | .keepAlive | .payload | .disconnect => true
  | _ => false

/-- The only unencrypted packet; `connectTokenData` holds the sealed private token when it is
written, and the opened one with its MAC behind it when it has been read. -/
structure ConnectionRequest where
  versionInfo : FixedBytes versionInfoBytes
  protocolID : UInt64
  connectTokenExpireTimestamp : UInt64
  connectTokenNonce : FixedBytes connectTokenNonceBytes
  connectTokenData : FixedBytes connectTokenPrivateBytes
  deriving DecidableEq

inductive Packet where
  | connectionRequest (request : ConnectionRequest)
  | connectionDenied
  | connectionChallenge (challengeTokenSequence : UInt64)
      (challengeTokenData : FixedBytes challengeTokenBytes)
  | connectionResponse (challengeTokenSequence : UInt64)
      (challengeTokenData : FixedBytes challengeTokenBytes)
  | connectionKeepAlive (clientIndex maxClients : Int32)
  | connectionPayload (payloadData : Bytes)
  | connectionDisconnect
  deriving DecidableEq

def Packet.packetType : Packet → PacketType
  | .connectionRequest _ => .request
  | .connectionDenied => .denied
  | .connectionChallenge _ _ => .challenge
  | .connectionResponse _ _ => .response
  | .connectionKeepAlive _ _ => .keepAlive
  | .connectionPayload _ => .payload
  | .connectionDisconnect => .disconnect

/-! ### Writing -/

/-- The loop of `sequenceNumberBytesRequired`: the high bytes that are zero, at most `fuel` more. -/
def highZeroBytes (sequence : UInt64) : (fuel : Nat) → (mask : UInt64) → Nat
  | 0, _ => 0
  | fuel + 1, mask =>
    if sequence &&& mask ≠ 0 then 0 else highZeroBytes sequence fuel (mask >>> 8) + 1

def sequenceNumberBytesRequired (sequence : UInt64) : Nat :=
  8 - highZeroBytes sequence 7 0xFF00000000000000

/-- The packet type and the number of sequence bytes. -/
def packetPrefixByte (type : PacketType) (sequence : UInt64) : UInt8 :=
  type.code ||| (UInt8.ofNat (sequenceNumberBytesRequired sequence) <<< 4)

/-- Version info, protocol id and prefix byte: what a sealed packet is bound to. -/
def packetAdditionalData (protocolID : UInt64) (prefixByte : UInt8) : Bytes :=
  versionInfo.bytes ++ uint64Bytes protocolID ++ [prefixByte]

/-- The per-packet type data, which `writePacket` encrypts. -/
def Packet.body : Packet → Bytes
  | .connectionRequest _ => []
  | .connectionDenied => []
  | .connectionChallenge sequence data => uint64Bytes sequence ++ data.bytes
  | .connectionResponse sequence data => uint64Bytes sequence ++ data.bytes
  | .connectionKeepAlive clientIndex maxClients =>
    uint32Bytes clientIndex.toUInt32 ++ uint32Bytes maxClients.toUInt32
  | .connectionPayload payloadData => payloadData
  | .connectionDisconnect => []

/-- The AEAD call by which `writePacket` seals an encrypted packet. -/
def sealPacket (env : Platform) (p : Packet) (sequence : UInt64) (writePacketKey : Key)
    (protocolID : UInt64) : AeadCall :=
  encryptAEAD env p.body
    (packetAdditionalData protocolID (packetPrefixByte p.packetType sequence))
    (packetNonce sequence) writePacketKey

/-- The bytes of a packet. A payload of at most `MaxPacketSize` bytes fits `maxPacketBytes`
(`writePacket_length_le`), and a 32 byte key is always accepted, so no write fails. -/
def writePacket (env : Platform) (p : Packet) (sequence : UInt64) (writePacketKey : Key)
    (protocolID : UInt64) : Bytes :=
  match p with
  | .connectionRequest request =>
    PacketType.request.code :: request.versionInfo.bytes ++ uint64Bytes request.protocolID ++
      uint64Bytes request.connectTokenExpireTimestamp ++ request.connectTokenNonce.bytes ++
      request.connectTokenData.bytes
  | p =>
    packetPrefixByte p.packetType sequence ::
      leBytes (sequenceNumberBytesRequired sequence) sequence.toNat ++
      (sealPacket env p sequence writePacketKey protocolID).ciphertext

/-! ### Reading -/

/-- What `readPacket` returns and leaves behind. -/
structure ReadOutcome where
  packet : Option Packet
  sequence : UInt64
  replayProtection : Option ReplayProtection
  opened : Option AeadCall

/-- The datagram is ignored before anything was opened. -/
def ReadOutcome.ignored (replayProtection : Option ReplayProtection) : ReadOutcome :=
  ⟨none, 0, replayProtection, none⟩

/-- The replay window after an opened packet. -/
def advanceReplay (type : PacketType) (sequence : UInt64)
    (replayProtection : Option ReplayProtection) : Option ReplayProtection :=
  if type.replayProtected then replayProtection.map (·.advanceSequence sequence)
  else replayProtection

/-- The per-packet type data of an opened packet. -/
def decodePacket (type : PacketType) (data : Bytes) : Go (Option Packet) :=
  match type with
  | .request => some none
  | .denied => if data.length ≠ 0 then some none else some (some .connectionDenied)
  | .challenge =>
    if data.length ≠ 8 + challengeTokenBytes then some none
    else do
      let (sequence, rest) ← readUint64 data
      let (tokenData, _) ← readBytes challengeTokenBytes rest
      return some (.connectionChallenge sequence tokenData)
  | .response =>
    if data.length ≠ 8 + challengeTokenBytes then some none
    else do
      let (sequence, rest) ← readUint64 data
      let (tokenData, _) ← readBytes challengeTokenBytes rest
      return some (.connectionResponse sequence tokenData)
  | .keepAlive =>
    if data.length ≠ 8 then some none
    else do
      let (clientIndex, rest) ← readUint32 data
      let (maxClients, _) ← readUint32 rest
      return some (.connectionKeepAlive clientIndex.toInt32 maxClients.toInt32)
  | .payload =>
    if data.length < 1 then some none
    else if data.length > maxPayloadBytes then some none
    else some (some (.connectionPayload data))
  | .disconnect => if data.length ≠ 0 then some none else some (some .connectionDisconnect)

section Read

variable (env : Platform) (protocolID currentTimestamp minConnectTokenExpireTimestamp : UInt64)
  (allowedPackets : PacketType → Bool)

/-- The connection request branch of `readPacket`, on the bytes behind the zero prefix byte. -/
def readRequestPacket (rest : Bytes) (privateKey : Option Key)
    (replayProtection : Option ReplayProtection) : Go ReadOutcome :=
  if !allowedPackets .request then some (.ignored replayProtection)
  else if 1 + rest.length ≠
      1 + versionInfoBytes + 8 + 8 + connectTokenNonceBytes + connectTokenPrivateBytes then
    some (.ignored replayProtection)
  else match privateKey with
    | none => some (.ignored replayProtection)
    | some privateKey => do
      let (packetVersionInfo, rest) ← readBytes versionInfoBytes rest
      if packetVersionInfo ≠ versionInfo then return .ignored replayProtection
      else
        let (packetProtocolID, rest) ← readUint64 rest
        if packetProtocolID ≠ protocolID then return .ignored replayProtection
        else
          let (expireTimestamp, rest) ← readUint64 rest
          if expireTimestamp ≤ currentTimestamp then return .ignored replayProtection
          else if expireTimestamp < minConnectTokenExpireTimestamp then
            return .ignored replayProtection
          else
            let (nonce, rest) ← readBytes connectTokenNonceBytes rest
            let (sealedData, _) ← readBytes connectTokenPrivateBytes rest
            match decryptConnectTokenPrivate env sealedData protocolID expireTimestamp nonce
                privateKey with
            | none => return .ignored replayProtection
            | some call =>
              -- the token is opened in place: its MAC stays in the last 16 bytes
              return {
                packet := some (.connectionRequest {
                  versionInfo := packetVersionInfo
                  protocolID := packetProtocolID
                  connectTokenExpireTimestamp := expireTimestamp
                  connectTokenNonce := nonce
                  connectTokenData := .copyFrom connectTokenPrivateBytes (call.plaintext ++
                    sealedData.bytes.drop (connectTokenPrivateBytes - MacBytes)) })
                sequence := 0
                replayProtection := replayProtection
                opened := some call }

/-- The encrypted branch of `readPacket`, on the prefix byte and the bytes behind it. -/
def readEncryptedPacket (prefixByte : UInt8) (rest : Bytes) (readPacketKey : Option Key)
    (replayProtection : Option ReplayProtection) : Go ReadOutcome :=
  match readPacketKey with
  | none => some (.ignored replayProtection)
  | some readPacketKey =>
    if 1 + rest.length < 1 + 1 + MacBytes then some (.ignored replayProtection)
    else match PacketType.ofCode (prefixByte &&& 0xF) with
      | none => some (.ignored replayProtection)
      | some type =>
        let sequenceBytes := (prefixByte >>> 4).toNat
        if !allowedPackets type then some (.ignored replayProtection)
        else if sequenceBytes < 1 ∨ 8 < sequenceBytes then some (.ignored replayProtection)
        else if 1 + rest.length < 1 + sequenceBytes + MacBytes then
          some (.ignored replayProtection)
        else do
          let (sequenceData, rest) ← readBytes sequenceBytes rest
          let sequence := UInt64.ofNat (leNat sequenceData.bytes)
          if type.replayProtected && replayProtection.any (·.alreadyReceived sequence) then
            return .ignored replayProtection
          else if rest.length < MacBytes then return .ignored replayProtection
          else
            match decryptAEAD env rest (packetAdditionalData protocolID prefixByte)
                (packetNonce sequence) readPacketKey with
            | none => return .ignored replayProtection
            | some call =>
              let packet ← decodePacket type call.plaintext
              return {
                packet := packet
                sequence := sequence
                replayProtection := advanceReplay type sequence replayProtection
                opened := some call }

def readPacket (buffer : Bytes) (readPacketKey privateKey : Option Key)
    (replayProtection : Option ReplayProtection) : Go ReadOutcome :=
  match buffer with
  | [] => some (.ignored replayProtection)
  | prefixByte :: rest =>
    if prefixByte = PacketType.request.code then
      readRequestPacket env protocolID currentTimestamp minConnectTokenExpireTimestamp
        allowedPackets rest privateKey replayProtection
    else
      readEncryptedPacket env protocolID allowedPackets prefixByte rest readPacketKey
        replayProtection

end Read

/-! ### What a reading is -/

section Spec

variable (env : Platform) (protocolID currentTimestamp minConnectTokenExpireTimestamp : UInt64)
  (allowedPackets : PacketType → Bool) (buffer : Bytes) (readPacketKey privateKey : Option Key)
  (replayProtection : Option ReplayProtection)

/-- **The three outcomes of `readPacket`**, with every check passed on the way. -/
inductive ReadsAs : ReadOutcome → Prop
  | ignored : ReadsAs (.ignored replayProtection)
  | request (key : Key) (request : ConnectionRequest) (call : AeadCall)
      (allowed : allowedPackets .request = true)
      (isKey : privateKey = some key)
      (bytes : buffer = PacketType.request.code :: versionInfo.bytes ++ uint64Bytes protocolID ++
        uint64Bytes request.connectTokenExpireTimestamp ++ request.connectTokenNonce.bytes ++
        call.ciphertext)
      (version : request.versionInfo = versionInfo)
      (protocol : request.protocolID = protocolID)
      (unexpired : currentTimestamp < request.connectTokenExpireTimestamp)
      (afterStart : minConnectTokenExpireTimestamp ≤ request.connectTokenExpireTimestamp)
      (opens : decryptAEADBigNonce env call.ciphertext
        (connectTokenAdditionalData protocolID request.connectTokenExpireTimestamp)
        request.connectTokenNonce.bytes key = some call)
      (data : request.connectTokenData.bytes =
        call.plaintext ++ call.ciphertext.drop (connectTokenPrivateBytes - MacBytes))
      (length : call.plaintext.length = connectTokenPrivateBytes - MacBytes) :
      ReadsAs ⟨some (.connectionRequest request), 0, replayProtection, some call⟩
  | encrypted (key : Key) (prefixByte : UInt8) (type : PacketType) (sequenceData : Bytes)
      (sequence : UInt64) (call : AeadCall) (packet : Option Packet)
      (isKey : readPacketKey = some key)
      (bytes : buffer = prefixByte :: sequenceData ++ call.ciphertext)
      (notRequest : prefixByte ≠ PacketType.request.code)
      (isType : PacketType.ofCode (prefixByte &&& 0xF) = some type)
      (allowed : allowedPackets type = true)
      (sequenceLength : sequenceData.length = (prefixByte >>> 4).toNat)
      (sequenceRange : 1 ≤ sequenceData.length ∧ sequenceData.length ≤ 8)
      (isSequence : sequence = UInt64.ofNat (leNat sequenceData))
      (notReplayed : type.replayProtected = true →
        ∀ r, replayProtection = some r → r.alreadyReceived sequence = false)
      (opens : decryptAEAD env call.ciphertext (packetAdditionalData protocolID prefixByte)
        (packetNonce sequence) key = some call)
      (decodes : decodePacket type call.plaintext = some packet) :
      ReadsAs ⟨packet, sequence, advanceReplay type sequence replayProtection, some call⟩

end Spec

section Readings

variable {env : Platform} {protocolID currentTimestamp minConnectTokenExpireTimestamp : UInt64}
  {allowedPackets : PacketType → Bool} {readPacketKey privateKey : Option Key}
  {replayProtection : Option ReplayProtection}

/-- Decoding an opened packet never reads past it. -/
theorem decodePacket_isSome (type : PacketType) (data : Bytes) :
    ∃ packet, decodePacket type data = some packet := by
  unfold decodePacket
  cases type with
  | request => exact ⟨_, rfl⟩
  | denied => dsimp only; split_ifs <;> exact ⟨_, rfl⟩
  | disconnect => dsimp only; split_ifs <;> exact ⟨_, rfl⟩
  | payload => dsimp only; split_ifs <;> exact ⟨_, rfl⟩
  | keepAlive =>
    dsimp only
    split_ifs with size
    · exact ⟨_, rfl⟩
    · obtain ⟨first, readFirst⟩ := readUint32_isSome data (by omega)
      obtain ⟨second, readSecond⟩ :=
        readUint32_isSome (data.drop 4) (by rw [List.length_drop]; omega)
      exact ⟨some (.connectionKeepAlive first.toInt32 second.toInt32),
        by simp [readFirst, readSecond]⟩
  | challenge | response =>
    dsimp only
    split_ifs with size
    · exact ⟨_, rfl⟩
    · rw [not_not] at size
      obtain ⟨sequence, readSequence, -⟩ := readUint64_isSome data (by omega)
      obtain ⟨token, readToken, -⟩ := readBytes_isSome challengeTokenBytes
        (data.drop 8) (by rw [List.length_drop]; omega)
      simp [readSequence, readToken]

/-- What is decoded has the type that was asked for. -/
theorem decodePacket_type {type : PacketType} {data : Bytes} {p : Packet}
    (decodes : decodePacket type data = some (some p)) : p.packetType = type := by
  cases type with
  | request => cases decodes
  | denied | disconnect | payload =>
    simp only [decodePacket] at decodes
    split_ifs at decodes <;> cases decodes
    all_goals rfl
  | keepAlive | challenge | response =>
    simp only [decodePacket] at decodes
    split_ifs at decodes
    · cases decodes
    · simp only [Option.bind_eq_bind, Option.bind_eq_some_iff] at decodes
      obtain ⟨_, -, _, -, isPacket⟩ := decodes
      cases isPacket
      rfl

/-- An opened packet is never a connection request. -/
theorem decodePacket_ne_request {type : PacketType} {data : Bytes} {request : ConnectionRequest} :
    decodePacket type data ≠ some (some (.connectionRequest request)) := by
  intro decodes
  obtain rfl : PacketType.request = type := decodePacket_type decodes
  cases decodes

theorem readRequestPacket_spec (rest : Bytes) :
    ∃ outcome, readRequestPacket env protocolID currentTimestamp minConnectTokenExpireTimestamp
        allowedPackets rest privateKey replayProtection = some outcome ∧
      ReadsAs env protocolID currentTimestamp minConnectTokenExpireTimestamp allowedPackets
        (PacketType.request.code :: rest) readPacketKey privateKey replayProtection outcome := by
  unfold readRequestPacket
  split_ifs with allowed size
  · exact ⟨_, rfl, .ignored⟩
  · exact ⟨_, rfl, .ignored⟩
  cases privateKey with
  | none => exact ⟨_, rfl, .ignored⟩
  | some key =>
    rw [not_not] at size
    have total : rest.length = 1077 := by
      simp only [versionInfoBytes, connectTokenNonceBytes, connectTokenPrivateBytes] at size
      omega
    obtain ⟨version, readVersion, versionIs⟩ :=
      readBytes_isSome versionInfoBytes rest (by rw [total]; decide)
    obtain ⟨protocol, readProtocol, protocolIs⟩ := readUint64_isSome
      (rest.drop versionInfoBytes) (by rw [List.length_drop, total]; decide)
    obtain ⟨expire, readExpire, expireIs⟩ := readUint64_isSome
      ((rest.drop versionInfoBytes).drop 8)
      (by rw [List.length_drop, List.length_drop, total]; decide)
    obtain ⟨nonce, readNonce, nonceIs⟩ := readBytes_isSome connectTokenNonceBytes
      (((rest.drop versionInfoBytes).drop 8).drop 8)
      (by simp only [List.length_drop, total]; decide)
    obtain ⟨sealedData, readSealed, sealedIs⟩ := readBytes_isSome connectTokenPrivateBytes
      ((((rest.drop versionInfoBytes).drop 8).drop 8).drop connectTokenNonceBytes)
      (by simp only [List.length_drop, total]; decide)
    simp only [readVersion, readProtocol, readExpire, readNonce, readSealed, Option.bind_eq_bind,
      Option.bind_some]
    split_ifs with badVersion badProtocol expired early
    · exact ⟨_, rfl, .ignored⟩
    · exact ⟨_, rfl, .ignored⟩
    · exact ⟨_, rfl, .ignored⟩
    · exact ⟨_, rfl, .ignored⟩
    cases opens : decryptConnectTokenPrivate env sealedData protocolID expire nonce key with
    | none => exact ⟨_, rfl, .ignored⟩
    | some call =>
      rw [not_not] at badVersion badProtocol
      obtain ⟨-, -, -, cipher, length⟩ := decryptAEADBigNonce_eq_some opens
      have plain : call.plaintext.length = connectTokenPrivateBytes - MacBytes := by
        rw [sealedData.length_eq] at length
        omega
      refine ⟨_, rfl, .request key _ call (by simpa using allowed) rfl ?_ badVersion badProtocol
        (by simpa using expired) (by simpa using early) ?_ ?_ plain⟩
      · -- the five pieces read are the whole datagram
        have rejoin : rest = version.bytes ++ uint64Bytes protocol ++ uint64Bytes expire ++
            nonce.bytes ++ sealedData.bytes := by
          rw [versionIs, protocolIs, expireIs, nonceIs, sealedIs]
          have whole : ((((rest.drop versionInfoBytes).drop 8).drop 8).drop
              connectTokenNonceBytes).take connectTokenPrivateBytes =
              (((rest.drop versionInfoBytes).drop 8).drop 8).drop connectTokenNonceBytes := by
            refine List.take_of_length_le ?_
            simp only [List.length_drop, total]
            decide
          rw [whole, List.append_assoc, List.append_assoc, List.append_assoc,
            List.take_append_drop, List.take_append_drop, List.take_append_drop,
            List.take_append_drop]
        rw [rejoin, badVersion, badProtocol, cipher]
        simp [List.append_assoc]
      · rw [cipher]
        exact opens
      · rw [FixedBytes.copyFrom_bytes, cipher]
        rw [List.length_append, plain, List.length_drop, sealedData.length_eq]
        decide

theorem readEncryptedPacket_spec (prefixByte : UInt8) (rest : Bytes)
    (notRequest : prefixByte ≠ PacketType.request.code) :
    ∃ outcome, readEncryptedPacket env protocolID allowedPackets prefixByte rest readPacketKey
        replayProtection = some outcome ∧
      ReadsAs env protocolID currentTimestamp minConnectTokenExpireTimestamp allowedPackets
        (prefixByte :: rest) readPacketKey privateKey replayProtection outcome := by
  unfold readEncryptedPacket
  cases readPacketKey with
  | none => exact ⟨_, rfl, .ignored⟩
  | some key =>
    dsimp only
    by_cases small : 1 + rest.length < 1 + 1 + MacBytes
    · rw [if_pos small]
      exact ⟨_, rfl, .ignored⟩
    rw [if_neg small]
    cases isType : PacketType.ofCode (prefixByte &&& 0xF) with
    | none => exact ⟨_, rfl, .ignored⟩
    | some type =>
      dsimp only
      split_ifs with allowed range room
      · exact ⟨_, rfl, .ignored⟩
      · exact ⟨_, rfl, .ignored⟩
      · exact ⟨_, rfl, .ignored⟩
      obtain ⟨sequenceData, readSequence, sequenceIs⟩ :=
        readBytes_isSome ((prefixByte >>> 4).toNat) rest (by omega)
      simp only [readSequence, Option.bind_eq_bind, Option.bind_some]
      split_ifs with replayed short
      · exact ⟨_, rfl, .ignored⟩
      · exact ⟨_, rfl, .ignored⟩
      cases opens : decryptAEAD env (rest.drop (prefixByte >>> 4).toNat)
          (packetAdditionalData protocolID prefixByte)
          (packetNonce (UInt64.ofNat (leNat sequenceData.bytes))) key with
      | none => exact ⟨_, rfl, .ignored⟩
      | some call =>
        obtain ⟨packet, decodes⟩ := decodePacket_isSome type call.plaintext
        obtain ⟨-, -, -, cipher, -⟩ := decryptAEAD_eq_some opens
        refine ⟨_, by simp only [decodes, Option.bind_some]; rfl,
          .encrypted key prefixByte type sequenceData.bytes _ call packet rfl ?_ notRequest isType
            (by simpa using allowed) sequenceData.length_eq ?_ rfl ?_ ?_ decodes⟩
        · rw [cipher, sequenceIs, List.cons_append, List.take_append_drop]
        · rw [sequenceData.length_eq]
          omega
        · intro protects r isReplay
          simpa [protects, isReplay] using replayed
        · rw [cipher]
          exact opens

/-- **`readPacket` never panics, and reads as one of its three outcomes.** -/
theorem readPacket_spec (env : Platform)
    (protocolID currentTimestamp minConnectTokenExpireTimestamp : UInt64)
    (allowedPackets : PacketType → Bool) (buffer : Bytes) (readPacketKey privateKey : Option Key)
    (replayProtection : Option ReplayProtection) :
    ∃ outcome, readPacket env protocolID currentTimestamp minConnectTokenExpireTimestamp
        allowedPackets buffer readPacketKey privateKey replayProtection = some outcome ∧
      ReadsAs env protocolID currentTimestamp minConnectTokenExpireTimestamp allowedPackets buffer
        readPacketKey privateKey replayProtection outcome := by
  unfold readPacket
  cases buffer with
  | nil => exact ⟨_, rfl, .ignored⟩
  | cons prefixByte rest =>
    dsimp only
    split_ifs with isRequest
    · rw [isRequest]
      exact readRequestPacket_spec rest
    · exact readEncryptedPacket_spec prefixByte rest isRequest

end Readings

/-! ### What is sealed is what is read -/

/-- An encrypted packet as the code makes them: a payload has the size `SendPacket` allows. -/
def Packet.Sealable : Packet → Prop
  | .connectionRequest _ => False
  | .connectionPayload payloadData => 1 ≤ payloadData.length ∧ payloadData.length ≤ MaxPacketSize
  | _ => True

/-- **Decoding undoes the encoding** of a packet's fields. -/
theorem decodePacket_body {p : Packet} (fits : p.Sealable) :
    decodePacket p.packetType p.body = some (some p) := by
  cases p with
  | connectionRequest => exact fits.elim
  | connectionDenied | connectionDisconnect => rfl
  | connectionChallenge sequence data | connectionResponse sequence data =>
    have size : (uint64Bytes sequence ++ data.bytes).length = 8 + challengeTokenBytes := by
      rw [List.length_append, uint64Bytes_length, data.length_eq]
    have readData := readBytes_append data []
    rw [List.append_nil] at readData
    simp only [Packet.packetType, Packet.body, decodePacket, size, ne_eq, not_true_eq_false,
      if_false, readUint64_append, Option.bind_eq_bind, Option.bind_some, readData]
    rfl
  | connectionKeepAlive clientIndex maxClients =>
    have size : (uint32Bytes clientIndex.toUInt32 ++ uint32Bytes maxClients.toUInt32).length = 8 := by
      rw [List.length_append, uint32Bytes_length, uint32Bytes_length]
    have readMax := readUint32_append maxClients.toUInt32 []
    rw [List.append_nil] at readMax
    simp only [Packet.packetType, Packet.body, decodePacket, size, ne_eq, not_true_eq_false,
      if_false, readUint32_append, Option.bind_eq_bind, Option.bind_some, readMax]
    rfl
  | connectionPayload payload =>
    obtain ⟨nonempty, small⟩ := fits
    show (if payload.length < 1 then _ else if payload.length > maxPayloadBytes then _ else _) = _
    rw [if_neg (by omega), if_neg (by simpa [maxPayloadBytes, MaxPacketSize] using small)]
    rfl

theorem sequenceNumberBytesRequired_le (sequence : UInt64) :
    sequenceNumberBytesRequired sequence ≤ 8 := Nat.sub_le _ _

/-- The type is in the low bits of the prefix byte. -/
theorem packetPrefixByte_type (type : PacketType) (sequence : UInt64) :
    PacketType.ofCode (packetPrefixByte type sequence &&& 0xF) = some type := by
  have every : ∀ count ≤ 8, PacketType.ofCode ((type.code ||| (UInt8.ofNat count <<< 4)) &&& 0xF) =
      some type := by
    cases type <;> decide
  exact every _ (sequenceNumberBytesRequired_le sequence)

theorem packetAdditionalData_injective {protocolID protocolID' : UInt64}
    {prefixByte prefixByte' : UInt8} (same : packetAdditionalData protocolID prefixByte =
      packetAdditionalData protocolID' prefixByte') :
    protocolID = protocolID' ∧ prefixByte = prefixByte' := by
  obtain ⟨protocol, last⟩ := List.append_inj' same rfl
  exact ⟨uint64Bytes_injective (List.append_cancel_left protocol), List.head_eq_of_cons_eq last⟩

section Sealed

variable {env : Platform} {p : Packet} {sequence sequence' : UInt64} {key : Key}
  {protocolID protocolID' : UInt64}

/-- A packet with a payload of a size that `SendPacket` allows fits the write buffer. -/
theorem writePacket_length_le
    (payload : ∀ data, p = .connectionPayload data → data.length ≤ MaxPacketSize) :
    (writePacket env p sequence key protocolID).length ≤ maxPacketBytes := by
  have few := sequenceNumberBytesRequired_le sequence
  have encrypted : p.body.length ≤ MaxPacketSize →
      (packetPrefixByte p.packetType sequence ::
        leBytes (sequenceNumberBytesRequired sequence) sequence.toNat ++
        (sealPacket env p sequence key protocolID).ciphertext).length ≤ maxPacketBytes := by
    intro small
    simp only [List.length_append, List.length_cons, leBytes_length, sealPacket,
      encryptAEAD_ciphertext_length, maxPacketBytes, MaxPacketSize, MacBytes] at small ⊢
    omega
  cases p with
  | connectionRequest request =>
    simp only [writePacket, List.length_append, List.length_cons, uint64Bytes_length,
      request.versionInfo.length_eq, request.connectTokenNonce.length_eq,
      request.connectTokenData.length_eq]
    decide
  | connectionPayload data => exact encrypted (payload data rfl)
  | connectionChallenge challengeSequence data | connectionResponse challengeSequence data =>
    refine encrypted ?_
    rw [Packet.body, List.length_append, uint64Bytes_length, data.length_eq]
    decide
  | connectionDenied | connectionDisconnect => exact encrypted (Nat.zero_le _)
  | connectionKeepAlive => exact encrypted (by simp [Packet.body, MaxPacketSize])

end Sealed

end Netcode
