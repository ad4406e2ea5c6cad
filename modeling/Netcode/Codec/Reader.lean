/-
**`readPacket` over its buffer.**

The reader of `buffer.go` is a cursor over the datagram: every read panics past its end. The functions
of `Checked` follow `packet.go` on that level. The sequence number is read byte by byte, the packet is
opened in place and its fields are read where it stood, and the tables of allowed packets and of
received sequence numbers are looked up with checked indices.

* `readPacket_eq` — **the reader in place never leaves its buffer or a table**: it returns what
  `readPacket` returns.
-/

import Netcode.Lib.Bounded
import Netcode.Lib.Cursor
import Netcode.Model.Packet

namespace Netcode

open LittleEndian

/-- The length of the table of allowed packets. -/
def connectionNumPackets : Nat := 7

/-- A `reader`. -/
abbrev Reader := Cursor UInt8

namespace Reader

def uint8 (r : Reader) : Go (UInt8 × Reader) := do
  let value ← r.buffer[r.pos]?
  return (value, ⟨r.buffer, r.pos + 1⟩)

def uint32 (r : Reader) : Go (UInt32 × Reader) := do
  let (data, r) ← r.get 4
  return (UInt32.ofNat (leNat data), r)

def uint64 (r : Reader) : Go (UInt64 × Reader) := do
  let (data, r) ← r.get 8
  return (UInt64.ofNat (leNat data), r)

/-- `r.bytes(data[:])` into an array of `n` bytes. -/
def bytes (n : Nat) (r : Reader) : Go (FixedBytes n × Reader) := do
  let (data, r) ← r.get n
  return (.copyFrom n data, r)

end Reader

namespace Checked

/-! ### The functions of the source -/

def alreadyReceived (r : ReplayProtection) (sequence : UInt64) : Go Bool :=
  if 256 ≤ r.mostRecentSequence ∧ sequence ≤ r.mostRecentSequence - 256 then some true
  else do
    let received ← Bounded.get replayProtectionBufferSize r.receivedPacket
      (ReplayProtection.index sequence)
    if received = noSequence then return false
    else return decide (sequence ≤ received)

def advanceSequence (r : ReplayProtection) (sequence : UInt64) : Go ReplayProtection := do
  let receivedPacket ← Bounded.set replayProtectionBufferSize r.receivedPacket
    (ReplayProtection.index sequence) sequence
  return {
    mostRecentSequence := if sequence > r.mostRecentSequence then sequence else r.mostRecentSequence
    receivedPacket := receivedPacket }

/-- The loop that reads the sequence number, from its byte `i` on. -/
def readSequence : (count i : Nat) → (sequence : UInt64) → Reader → Go (UInt64 × Reader)
  | 0, _, sequence, r => some (sequence, r)
  | count + 1, i, sequence, r => do
    let (value, r) ← r.uint8
    readSequence count (i + 1) (sequence ||| value.toUInt64 <<< UInt64.ofNat (8 * i)) r

/-- `replayProtection != nil && packetType >= connectionKeepAlivePacket`, and the packet has been
received. -/
def isReplay (type : PacketType) (sequence : UInt64) (replayProtection : Option ReplayProtection) :
    Go Bool :=
  match replayProtection with
  | some r => if type.replayProtected then alreadyReceived r sequence else some false
  | none => some false

/-- The replay window after an opened packet. -/
def advanceReplay (type : PacketType) (sequence : UInt64)
    (replayProtection : Option ReplayProtection) : Go (Option ReplayProtection) :=
  match replayProtection with
  | some r => if type.replayProtected then (advanceSequence r sequence).map some else some (some r)
  | none => some none

/-- Open `message[:messageLength]` in place, for `message = buffer[r.pos:]`: the call, and the reader
over the buffer that has the opened text in it. -/
def openInPlace (decrypt : (message : Bytes) → Option AeadCall) (messageLength : Nat) (r : Reader) :
    Go (Option (AeadCall × Reader)) := do
  let (message, _) ← r.get messageLength
  match decrypt message with
  | none => return none
  | some call => return some (call, ⟨(r.write call.plaintext).buffer, r.pos⟩)

/-- The per-packet type data of a packet that was opened in place. -/
def decodePacket (type : PacketType) (decryptedBytes : Nat) (r : Reader) : Go (Option Packet) :=
  match type with
  | .request => some none
  | .denied => if decryptedBytes ≠ 0 then some none else some (some .connectionDenied)
  | .challenge =>
    if decryptedBytes ≠ 8 + challengeTokenBytes then some none
    else do
      let (sequence, r) ← r.uint64
      let (tokenData, _) ← r.bytes challengeTokenBytes
      return some (.connectionChallenge sequence tokenData)
  | .response =>
    if decryptedBytes ≠ 8 + challengeTokenBytes then some none
    else do
      let (sequence, r) ← r.uint64
      let (tokenData, _) ← r.bytes challengeTokenBytes
      return some (.connectionResponse sequence tokenData)
  | .keepAlive =>
    if decryptedBytes ≠ 8 then some none
    else do
      let (clientIndex, r) ← r.uint32
      let (maxClients, _) ← r.uint32
      return some (.connectionKeepAlive clientIndex.toInt32 maxClients.toInt32)
  | .payload =>
    if decryptedBytes < 1 then some none
    else if decryptedBytes > maxPayloadBytes then some none
    else do
      let (payloadData, _) ← r.get decryptedBytes
      return some (.connectionPayload payloadData)
  | .disconnect => if decryptedBytes ≠ 0 then some none else some (some .connectionDisconnect)

section Read

variable (env : Platform) (protocolID currentTimestamp minConnectTokenExpireTimestamp : UInt64)
  (allowedPackets : Nat → Bool)

/-- The connection request branch of `readPacket`, behind the prefix byte. -/
def readRequestPacket (r : Reader) (privateKey : Option Key)
    (replayProtection : Option ReplayProtection) : Go ReadOutcome := do
  let allowed ← Bounded.get connectionNumPackets allowedPackets PacketType.request.code.toNat
  if !allowed then return .ignored replayProtection
  else if r.buffer.length ≠
      1 + versionInfoBytes + 8 + 8 + connectTokenNonceBytes + connectTokenPrivateBytes then
    return .ignored replayProtection
  else match privateKey with
    | none => return .ignored replayProtection
    | some privateKey =>
      let (packetVersionInfo, r) ← r.bytes versionInfoBytes
      if packetVersionInfo ≠ versionInfo then return .ignored replayProtection
      else
        let (packetProtocolID, r) ← r.uint64
        if packetProtocolID ≠ protocolID then return .ignored replayProtection
        else
          let (expireTimestamp, r) ← r.uint64
          if expireTimestamp ≤ currentTimestamp then return .ignored replayProtection
          else if expireTimestamp < minConnectTokenExpireTimestamp then
            return .ignored replayProtection
          else
            let (nonce, r) ← r.bytes connectTokenNonceBytes
            match ← openInPlace (fun message => decryptAEADBigNonce env message
                (connectTokenAdditionalData protocolID expireTimestamp) nonce.bytes privateKey)
                connectTokenPrivateBytes r with
            | none => return .ignored replayProtection
            | some (call, r) =>
              let (connectTokenData, _) ← r.bytes connectTokenPrivateBytes
              return {
                packet := some (.connectionRequest {
                  versionInfo := packetVersionInfo
                  protocolID := packetProtocolID
                  connectTokenExpireTimestamp := expireTimestamp
                  connectTokenNonce := nonce
                  connectTokenData := connectTokenData })
                sequence := 0
                replayProtection := replayProtection
                opened := some call }

/-- The encrypted branch of `readPacket`, behind the prefix byte. -/
def readEncryptedPacket (prefixByte : UInt8) (r : Reader) (readPacketKey : Option Key)
    (replayProtection : Option ReplayProtection) : Go ReadOutcome :=
  match readPacketKey with
  | none => some (.ignored replayProtection)
  | some readPacketKey =>
    if r.buffer.length < 1 + 1 + MacBytes then some (.ignored replayProtection)
    else match PacketType.ofCode (prefixByte &&& 0xF) with
      | none => some (.ignored replayProtection)
      | some type => do
        let allowed ← Bounded.get connectionNumPackets allowedPackets (prefixByte &&& 0xF).toNat
        let sequenceBytes := (prefixByte >>> 4).toNat
        if !allowed then return .ignored replayProtection
        else if sequenceBytes < 1 ∨ 8 < sequenceBytes then return .ignored replayProtection
        else if r.buffer.length < 1 + sequenceBytes + MacBytes then
          return .ignored replayProtection
        else
          let (sequence, r) ← readSequence sequenceBytes 0 0 r
          if ← isReplay type sequence replayProtection then return .ignored replayProtection
          else
            let encryptedBytes := r.buffer.length - r.pos
            if encryptedBytes < MacBytes then return .ignored replayProtection
            else
              match ← openInPlace (fun message => decryptAEAD env message
                  (packetAdditionalData protocolID prefixByte) (packetNonce sequence) readPacketKey)
                  encryptedBytes r with
              | none => return .ignored replayProtection
              | some (call, r) =>
                let window ← advanceReplay type sequence replayProtection
                let packet ← decodePacket type (encryptedBytes - MacBytes) r
                return {
                  packet := packet
                  sequence := sequence
                  replayProtection := window
                  opened := some call }

def readPacket (buffer : Bytes) (readPacketKey privateKey : Option Key)
    (replayProtection : Option ReplayProtection) : Go ReadOutcome :=
  if buffer.length < 1 then some (.ignored replayProtection)
  else do
    let (prefixByte, r) ← Reader.uint8 ⟨buffer, 0⟩
    if prefixByte = PacketType.request.code then
      readRequestPacket env protocolID currentTimestamp minConnectTokenExpireTimestamp allowedPackets
        r privateKey replayProtection
    else
      readEncryptedPacket env protocolID allowedPackets prefixByte r readPacketKey replayProtection

end Read

/-! ### Reading in place -/

section Refines

variable {r : Reader} {ahead rest : Bytes}

theorem uint8_eq {value : UInt8} (sees : r.Sees (value :: rest)) :
    r.uint8 = some (value, ⟨r.buffer, r.pos + 1⟩) := by
  obtain ⟨tail, whole⟩ := sees.front
  have here : r.buffer[r.pos]? = some value := by
    rw [← Nat.add_zero r.pos, ← List.getElem?_drop, ← whole]
    rfl
  rw [Reader.uint8, here]
  rfl

theorem get_eq {n : Nat} {value : FixedBytes n} (sees : r.Sees ahead)
    (reads : readBytes n ahead = some (value, rest)) :
    ∃ next, r.get n = some (value.bytes, next) ∧ next.Sees rest := by
  have fits : n ≤ ahead.length := by
    by_contra short
    rw [readBytes, dif_neg short] at reads
    cases reads
  obtain ⟨value', reads', isTake⟩ := readBytes_isSome n ahead fits
  cases reads.symm.trans reads'
  rw [isTake]
  exact sees.get fits

theorem bytes_eq {n : Nat} {value : FixedBytes n} (sees : r.Sees ahead)
    (reads : readBytes n ahead = some (value, rest)) :
    ∃ next, r.bytes n = some (value, next) ∧ next.Sees rest := by
  obtain ⟨next, gets, seesRest⟩ := get_eq sees reads
  refine ⟨next, ?_, seesRest⟩
  have same : FixedBytes.copyFrom n value.bytes = value :=
    FixedBytes.ext (FixedBytes.copyFrom_bytes value.length_eq)
  rw [Reader.bytes, gets, Option.bind_eq_bind, Option.bind_some]
  exact congrArg (fun data => some (data, next)) same

theorem uint32_eq {value : UInt32} (sees : r.Sees ahead)
    (reads : readUint32 ahead = some (value, rest)) :
    ∃ next, r.uint32 = some (value, next) ∧ next.Sees rest := by
  obtain ⟨⟨data, after⟩, readsData, isValue⟩ := Option.bind_eq_some_iff.mp reads
  cases isValue
  obtain ⟨next, gets, seesRest⟩ := get_eq sees readsData
  exact ⟨next, by rw [Reader.uint32, gets]; rfl, seesRest⟩

theorem uint64_eq {value : UInt64} (sees : r.Sees ahead)
    (reads : readUint64 ahead = some (value, rest)) :
    ∃ next, r.uint64 = some (value, next) ∧ next.Sees rest := by
  obtain ⟨⟨data, after⟩, readsData, isValue⟩ := Option.bind_eq_some_iff.mp reads
  cases isValue
  obtain ⟨next, gets, seesRest⟩ := get_eq sees readsData
  exact ⟨next, by rw [Reader.uint64, gets]; rfl, seesRest⟩

/-- One byte more, above those read so far. -/
theorem or_shifted {i : Nat} (few : i < 8) {sequence : UInt64} (low : sequence.toNat < 256 ^ i)
    (value : UInt8) :
    (sequence ||| value.toUInt64 <<< UInt64.ofNat (8 * i)).toNat =
      sequence.toNat + 256 ^ i * value.toNat := by
  have power : 256 ^ i = 2 ^ (8 * i) := by rw [Nat.pow_mul]
  have byte : value.toNat < 2 ^ 8 := value.toNat_lt
  have shift : (UInt64.ofNat (8 * i)).toNat % 64 = 8 * i := by
    rw [UInt64.toNat_ofNat']
    omega
  have fits : value.toNat <<< (8 * i) < 2 ^ 64 := by
    rw [Nat.shiftLeft_eq]
    calc value.toNat * 2 ^ (8 * i) < 2 ^ 8 * 2 ^ (8 * i) :=
          Nat.mul_lt_mul_of_pos_right byte (Nat.two_pow_pos _)
      _ = 2 ^ (8 + 8 * i) := (Nat.pow_add 2 8 (8 * i)).symm
      _ ≤ 2 ^ 64 := Nat.pow_le_pow_right (by decide) (by omega)
  rw [power] at low
  rw [UInt64.toNat_or, UInt64.toNat_shiftLeft, shift, UInt8.toNat_toUInt64, Nat.mod_eq_of_lt fits,
    Nat.or_comm, Nat.shiftLeft_eq, Nat.mul_comm, ← Nat.two_pow_add_eq_or_of_lt low, power,
    Nat.add_comm]

/-- **The loop reads the little-endian number**, of at most eight bytes. -/
theorem readSequence_eq {count i : Nat} {sequence : UInt64} (few : i + count ≤ 8)
    (low : sequence.toNat < 256 ^ i) (sees : r.Sees ahead) (fits : count ≤ ahead.length) :
    readSequence count i sequence r =
      some (UInt64.ofNat (sequence.toNat + 256 ^ i * leNat (ahead.take count)),
        ⟨r.buffer, r.pos + count⟩) := by
  induction count generalizing i sequence r ahead with
  | zero => simp [readSequence, leNat]
  | succ count ih =>
    cases ahead with
    | nil => exact absurd fits (by simp)
    | cons value rest =>
      have more := or_shifted (by omega) low value
      have lower : (sequence ||| value.toUInt64 <<< UInt64.ofNat (8 * i)).toNat < 256 ^ (i + 1) := by
        rw [more]
        calc sequence.toNat + 256 ^ i * value.toNat < 256 ^ i + 256 ^ i * value.toNat :=
              Nat.add_lt_add_right low _
          _ = 256 ^ i * (value.toNat + 1) := by ring
          _ ≤ 256 ^ i * 256 := Nat.mul_le_mul_left _ value.toNat_lt
          _ = 256 ^ (i + 1) := (pow_succ 256 i).symm
      have readsRest := ih (by omega) lower
        (sees.advance (show 1 ≤ (value :: rest).length by simp)) (Nat.le_of_succ_le_succ fits)
      have sum : sequence.toNat + 256 ^ i * value.toNat + 256 ^ (i + 1) * leNat (rest.take count) =
          sequence.toNat + 256 ^ i * leNat ((value :: rest).take (count + 1)) := by
        rw [List.take_succ_cons, leNat]
        ring
      rw [more, List.drop_succ_cons, List.drop_zero, sum, Nat.add_assoc, Nat.add_comm 1] at readsRest
      rw [readSequence, uint8_eq sees, Option.bind_eq_bind, Option.bind_some]
      exact readsRest

theorem alreadyReceived_eq (window : ReplayProtection) (sequence : UInt64) :
    alreadyReceived window sequence = some (window.alreadyReceived sequence) := by
  have inside : ReplayProtection.index sequence < replayProtectionBufferSize :=
    Nat.mod_lt _ (by decide)
  unfold alreadyReceived ReplayProtection.alreadyReceived
  rw [Bounded.get_eq inside, Option.bind_eq_bind, Option.bind_some]
  split_ifs <;> rfl

theorem advanceSequence_eq (window : ReplayProtection) (sequence : UInt64) :
    advanceSequence window sequence = some (window.advanceSequence sequence) := by
  have inside : ReplayProtection.index sequence < replayProtectionBufferSize :=
    Nat.mod_lt _ (by decide)
  rw [advanceSequence, Bounded.set_eq inside]
  rfl

theorem isReplay_eq (type : PacketType) (sequence : UInt64)
    (replayProtection : Option ReplayProtection) :
    isReplay type sequence replayProtection =
      some (type.replayProtected && replayProtection.any (·.alreadyReceived sequence)) := by
  cases replayProtection with
  | none => simp [isReplay]
  | some window =>
    cases protects : type.replayProtected <;> simp [isReplay, protects, alreadyReceived_eq]

theorem advanceReplay_eq (type : PacketType) (sequence : UInt64)
    (replayProtection : Option ReplayProtection) :
    advanceReplay type sequence replayProtection =
      some (Netcode.advanceReplay type sequence replayProtection) := by
  cases replayProtection with
  | none => simp [advanceReplay, Netcode.advanceReplay]
  | some window =>
    cases protects : type.replayProtected <;>
      simp [advanceReplay, Netcode.advanceReplay, protects, advanceSequence_eq]

/-- Where the opened text ends the fields are read, as off the text itself. -/
theorem decodePacket_eq (type : PacketType) {data : Bytes} (sees : r.Sees data) :
    decodePacket type data.length r = Netcode.decodePacket type data := by
  cases type with
  | request | denied | disconnect => rfl
  | payload =>
    obtain ⟨next, gets, -⟩ := sees.get (Nat.le_refl data.length)
    rw [List.take_length] at gets
    simp only [decodePacket, Netcode.decodePacket, gets, Option.bind_eq_bind, Option.bind_some]
    rfl
  | keepAlive =>
    simp only [decodePacket, Netcode.decodePacket]
    split_ifs with size
    · rfl
    · obtain ⟨first, readFirst⟩ := readUint32_isSome data (by omega)
      obtain ⟨second, readSecond⟩ :=
        readUint32_isSome (data.drop 4) (by rw [List.length_drop]; omega)
      obtain ⟨next, gets, seesRest⟩ := uint32_eq sees readFirst
      obtain ⟨last, getsLast, -⟩ := uint32_eq seesRest readSecond
      simp only [readFirst, readSecond, gets, getsLast, Option.bind_eq_bind, Option.bind_some]
  | challenge | response =>
    simp only [decodePacket, Netcode.decodePacket]
    split_ifs with size
    · rfl
    · rw [not_not] at size
      obtain ⟨sequence, readSequence, -⟩ := readUint64_isSome data (by omega)
      obtain ⟨token, readToken, -⟩ := readBytes_isSome challengeTokenBytes
        (data.drop 8) (by rw [List.length_drop]; omega)
      obtain ⟨next, gets, seesRest⟩ := uint64_eq sees readSequence
      obtain ⟨last, getsLast, -⟩ := bytes_eq seesRest readToken
      simp only [readSequence, readToken, gets, getsLast, Option.bind_eq_bind, Option.bind_some]

/-- **Opening in place** leaves the opened text in front of the reader, and the MAC behind it. -/
theorem openInPlace_eq (decrypt : (message : Bytes) → Option AeadCall) {message : Bytes}
    (sees : r.Sees message) :
    ∃ next : AeadCall → Reader,
      openInPlace decrypt message.length r =
        some ((decrypt message).map fun call => (call, next call)) ∧
      ∀ call, (next call).Sees (call.plaintext ++ message.drop call.plaintext.length) := by
  refine ⟨fun call => ⟨(r.write call.plaintext).buffer, r.pos⟩, ?_,
    fun call => sees.overwrite call.plaintext⟩
  obtain ⟨next, gets, -⟩ := sees.get (Nat.le_refl message.length)
  rw [List.take_length] at gets
  rw [openInPlace, gets, Option.bind_eq_bind, Option.bind_some]
  cases opens : decrypt message <;> simp [opens]

variable (env : Platform) (protocolID currentTimestamp minConnectTokenExpireTimestamp : UInt64)
  (allowedPackets : Nat → Bool) (replayProtection : Option ReplayProtection)

/-- The connection request branch. -/
theorem readRequestPacket_eq (privateKey : Option Key) (code : UInt8) :
    readRequestPacket env protocolID currentTimestamp minConnectTokenExpireTimestamp allowedPackets
        ⟨code :: rest, 1⟩ privateKey replayProtection =
      Netcode.readRequestPacket env protocolID currentTimestamp minConnectTokenExpireTimestamp
        (fun type => allowedPackets type.code.toNat) rest privateKey replayProtection := by
  have sees : Cursor.Sees ⟨code :: rest, 1⟩ rest :=
    (Cursor.Sees.start (code :: rest)).advance (show 1 ≤ (code :: rest).length by simp)
  have allowed : Bounded.get connectionNumPackets allowedPackets PacketType.request.code.toNat =
      some (allowedPackets PacketType.request.code.toNat) := Bounded.get_eq (by decide) _
  have bufferLength : (code :: rest).length = 1 + rest.length := by
    rw [List.length_cons, Nat.add_comm]
  unfold readRequestPacket Netcode.readRequestPacket
  rw [allowed, Option.bind_eq_bind, Option.bind_some, bufferLength]
  split_ifs with refused size
  · rfl
  · rfl
  cases privateKey with
  | none => rfl
  | some key =>
    rw [not_not] at size
    have total : rest.length = 1077 := by
      simp only [versionInfoBytes, connectTokenNonceBytes, connectTokenPrivateBytes] at size
      omega
    obtain ⟨version, readVersion, -⟩ :=
      readBytes_isSome versionInfoBytes rest (by rw [total]; decide)
    obtain ⟨protocol, readProtocol, -⟩ := readUint64_isSome
      (rest.drop versionInfoBytes) (by rw [List.length_drop, total]; decide)
    obtain ⟨expire, readExpire, -⟩ := readUint64_isSome
      ((rest.drop versionInfoBytes).drop 8)
      (by rw [List.length_drop, List.length_drop, total]; decide)
    obtain ⟨nonce, readNonce, -⟩ := readBytes_isSome connectTokenNonceBytes
      (((rest.drop versionInfoBytes).drop 8).drop 8)
      (by simp only [List.length_drop, total]; decide)
    obtain ⟨sealedData, readSealed, isSealed⟩ := readBytes_isSome connectTokenPrivateBytes
      ((((rest.drop versionInfoBytes).drop 8).drop 8).drop connectTokenNonceBytes)
      (by simp only [List.length_drop, total]; decide)
    obtain ⟨r₁, getVersion, sees₁⟩ := bytes_eq sees readVersion
    obtain ⟨r₂, getProtocol, sees₂⟩ := uint64_eq sees₁ readProtocol
    obtain ⟨r₃, getExpire, sees₃⟩ := uint64_eq sees₂ readExpire
    obtain ⟨r₄, getNonce, sees₄⟩ := bytes_eq sees₃ readNonce
    rw [List.take_of_length_le (by simp only [List.length_drop, total]; decide)] at isSealed
    rw [← isSealed] at sees₄
    obtain ⟨next, opens, seesOpened⟩ := openInPlace_eq (fun message => decryptAEADBigNonce env message
      (connectTokenAdditionalData protocolID expire) nonce.bytes key) sees₄
    rw [sealedData.length_eq] at opens
    simp only [getVersion, getProtocol, getExpire, getNonce, opens, readVersion, readProtocol,
      readExpire, readNonce, readSealed, Option.bind_eq_bind, Option.bind_some,
      decryptConnectTokenPrivate]
    split_ifs
    · rfl
    · rfl
    · rfl
    · rfl
    cases result : decryptAEADBigNonce env sealedData.bytes
        (connectTokenAdditionalData protocolID expire) nonce.bytes key with
    | none => rfl
    | some call =>
      -- the opened text and the MAC behind it fill the token's 1024 bytes again
      obtain ⟨-, -, -, -, length⟩ := decryptAEADBigNonce_eq_some result
      have plain : call.plaintext.length = connectTokenPrivateBytes - MacBytes := by
        rw [sealedData.length_eq] at length
        omega
      have filled : (call.plaintext ++ sealedData.bytes.drop call.plaintext.length).length =
          connectTokenPrivateBytes := by
        rw [List.length_append, List.length_drop, sealedData.length_eq, plain]
        decide
      obtain ⟨data, readData, isData⟩ := readBytes_isSome connectTokenPrivateBytes _ filled.ge
      obtain ⟨last, getData, -⟩ := bytes_eq (seesOpened call) readData
      rw [List.take_of_length_le filled.le] at isData
      have same : data = .copyFrom connectTokenPrivateBytes (call.plaintext ++
          sealedData.bytes.drop (connectTokenPrivateBytes - MacBytes)) := by
        refine FixedBytes.ext ?_
        rw [isData, FixedBytes.copyFrom_bytes (by rw [← plain]; exact filled), plain]
      simp only [Option.map_some, getData, Option.bind_some, same]

/-- The code of a packet type is an index of the table of allowed packets. -/
theorem ofCode_small {code : UInt8} {type : PacketType} (isType : PacketType.ofCode code = some type) :
    code = type.code ∧ code.toNat < connectionNumPackets := by
  unfold PacketType.ofCode at isType
  split_ifs at isType <;> (cases isType; subst_vars; decide)

/-- The encrypted branch. -/
theorem readEncryptedPacket_eq (prefixByte : UInt8) (readPacketKey : Option Key) :
    readEncryptedPacket env protocolID allowedPackets prefixByte ⟨prefixByte :: rest, 1⟩ readPacketKey
        replayProtection =
      Netcode.readEncryptedPacket env protocolID (fun type => allowedPackets type.code.toNat) prefixByte
        rest readPacketKey replayProtection := by
  have sees : Cursor.Sees ⟨prefixByte :: rest, 1⟩ rest :=
    (Cursor.Sees.start (prefixByte :: rest)).advance (show 1 ≤ (prefixByte :: rest).length by simp)
  have bufferLength : (prefixByte :: rest).length = 1 + rest.length := by
    rw [List.length_cons, Nat.add_comm]
  unfold readEncryptedPacket Netcode.readEncryptedPacket
  cases readPacketKey with
  | none => rfl
  | some key =>
    dsimp only
    rw [bufferLength]
    by_cases small : 1 + rest.length < 1 + 1 + MacBytes
    · rw [if_pos small, if_pos small]
    rw [if_neg small, if_neg small]
    cases isType : PacketType.ofCode (prefixByte &&& 0xF) with
    | none => rfl
    | some type =>
      obtain ⟨isCode, inside⟩ := ofCode_small isType
      dsimp only
      rw [Bounded.get_eq inside, Option.bind_eq_bind, Option.bind_some, isCode]
      split_ifs with refused range room
      · rfl
      · rfl
      · rfl
      have fits : (prefixByte >>> 4).toNat ≤ rest.length := by omega
      obtain ⟨sequenceData, readsData, isSequence⟩ :=
        readBytes_isSome (prefixByte >>> 4).toNat rest fits
      have reads : readSequence (prefixByte >>> 4).toNat 0 0 ⟨prefixByte :: rest, 1⟩ =
          some (UInt64.ofNat (leNat sequenceData.bytes),
            ⟨prefixByte :: rest, 1 + (prefixByte >>> 4).toNat⟩) := by
        rw [readSequence_eq (by omega) (by decide) sees fits, isSequence, UInt64.toNat_zero,
          Nat.zero_add, pow_zero, Nat.one_mul]
      have left : 1 + rest.length - (1 + (prefixByte >>> 4).toNat) =
          (rest.drop (prefixByte >>> 4).toNat).length := by
        rw [List.length_drop]
        omega
      simp only [reads, readsData, isReplay_eq, Option.bind_eq_bind, Option.bind_some, bufferLength,
        left]
      split_ifs with replayed short
      · rfl
      · rfl
      obtain ⟨next, opens, seesOpened⟩ := openInPlace_eq (fun message => decryptAEAD env message
        (packetAdditionalData protocolID prefixByte)
        (packetNonce (UInt64.ofNat (leNat sequenceData.bytes))) key) (sees.advance fits)
      rw [opens, Option.bind_some]
      cases result : decryptAEAD env (rest.drop (prefixByte >>> 4).toNat)
          (packetAdditionalData protocolID prefixByte)
          (packetNonce (UInt64.ofNat (leNat sequenceData.bytes))) key with
      | none => rfl
      | some call =>
        obtain ⟨-, -, -, -, length⟩ := decryptAEAD_eq_some result
        have plain :
            (rest.drop (prefixByte >>> 4).toNat).length - MacBytes = call.plaintext.length := by
          omega
        have decodes := decodePacket_eq type (seesOpened call).shorten
        rw [plain]
        simp only [Option.map_some, advanceReplay_eq, decodes, Option.bind_some]

/-- **The reader in place never leaves its buffer or a table**, and returns what `readPacket`
returns. -/
theorem readPacket_eq (buffer : Bytes) (readPacketKey privateKey : Option Key) :
    readPacket env protocolID currentTimestamp minConnectTokenExpireTimestamp allowedPackets buffer
        readPacketKey privateKey replayProtection =
      Netcode.readPacket env protocolID currentTimestamp minConnectTokenExpireTimestamp
        (fun type => allowedPackets type.code.toNat) buffer readPacketKey privateKey
        replayProtection := by
  unfold readPacket Netcode.readPacket
  cases buffer with
  | nil => rfl
  | cons prefixByte rest =>
    have first : Reader.uint8 ⟨prefixByte :: rest, 0⟩ = some (prefixByte, ⟨prefixByte :: rest, 1⟩) :=
      uint8_eq (Cursor.Sees.start (prefixByte :: rest))
    rw [if_neg (by simp), first, Option.bind_eq_bind, Option.bind_some]
    dsimp only
    rw [readRequestPacket_eq, readEncryptedPacket_eq]

end Refines

end Checked

end Netcode
