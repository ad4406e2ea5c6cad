/-
**Connect tokens and challenge tokens.**

`token.go`: the private connect token with its 1024 byte codec, the challenge token with its 300
byte codec, the public connect token with its 2048 byte codec, and the sealing of the first two. A
`read` that returns an error is `some none`; one that runs past its buffer is `none`.
-/

import Netcode.Model.Crypto

namespace Netcode

open LittleEndian

/-! ### Addresses on the wire -/

/-- `writeAddress`; it panics on an address that is neither IPv4 nor IPv6. -/
def writeAddress (address : Address) : Go Bytes :=
  if address.type = AddressIPv4 then
    some (AddressIPv4 :: address.ipv4.bytes ++ uint16Bytes address.port)
  else if address.type = AddressIPv6 then
    some (AddressIPv6 :: (address.ipv6.toList.map uint16Bytes).flatten ++ uint16Bytes address.port)
  else none

/-- The eight groups of an IPv6 address. -/
def readGroups : (count : Nat) → Bytes → Go (List.Vector UInt16 count × Bytes)
  | 0, buffer => some (.nil, buffer)
  | count + 1, buffer => do
    let (group, rest) ← readUint16 buffer
    let (groups, rest) ← readGroups count rest
    return (.cons group groups, rest)

/-- `readAddress(r, &address)`: the fields it sets, over the old value, and whether the type was a
known one. -/
def readAddress (address : Address) (buffer : Bytes) : Go (Address × Bool × Bytes) := do
  let (type, rest) ← readUint8 buffer
  let address := { address with type := type }
  if type = AddressIPv4 then
    let (ipv4, rest) ← readBytes 4 rest
    let (port, rest) ← readUint16 rest
    return ({ address with ipv4 := ipv4, port := port }, true, rest)
  else if type = AddressIPv6 then
    let (ipv6, rest) ← readGroups 8 rest
    let (port, rest) ← readUint16 rest
    return ({ address with ipv6 := ipv6, port := port }, true, rest)
  else
    return (address, false, rest)

/-- Read `count` addresses over the first entries of an array, stopping at a bad type. -/
def readAddresses : (count : Nat) → List Address → Bytes → Go (List Address × Bool × Bytes)
  | 0, addresses, buffer => some (addresses, true, buffer)
  | _ + 1, [], _ => none
  | count + 1, old :: others, buffer => do
    let (address, good, rest) ← readAddress old buffer
    if good then
      let (others, good, rest) ← readAddresses count others rest
      return (address :: others, good, rest)
    else
      return (address :: others, false, rest)

section Reads

theorem readUint8_isSome (buffer : Bytes) (room : 1 ≤ buffer.length) :
    ∃ value, readUint8 buffer = some (value, buffer.drop 1) := by
  cases buffer with
  | nil => exact absurd room (by simp)
  | cons value rest => exact ⟨value, rfl⟩

theorem readUint16_isSome (buffer : Bytes) (room : 2 ≤ buffer.length) :
    ∃ value, readUint16 buffer = some (value, buffer.drop 2) := by
  obtain ⟨data, read, -⟩ := readBytes_isSome 2 buffer room
  exact ⟨UInt16.ofNat (leNat data.bytes), by simp [readUint16, read]⟩

theorem readGroups_isSome (buffer : Bytes) (count : Nat) (room : 2 * count ≤ buffer.length) :
    ∃ groups, readGroups count buffer = some (groups, buffer.drop (2 * count)) := by
  induction count generalizing buffer with
  | zero => exact ⟨.nil, rfl⟩
  | succ count ih =>
    obtain ⟨group, first⟩ := readUint16_isSome buffer (by omega)
    obtain ⟨groups, rest⟩ := ih (buffer.drop 2) (by rw [List.length_drop]; omega)
    refine ⟨.cons group groups, ?_⟩
    simp only [readGroups, first, rest, Option.bind_eq_bind, Option.bind_some, List.drop_drop]
    rw [show 2 + 2 * count = 2 * (count + 1) by omega]
    rfl

/-- An address takes at most 19 bytes. -/
theorem readAddress_isSome (buffer : Bytes) (old : Address) (room : 19 ≤ buffer.length) :
    ∃ address good rest, readAddress old buffer = some (address, good, rest) ∧
      buffer.length ≤ rest.length + 19 := by
  obtain ⟨type, readType⟩ := readUint8_isSome buffer (by omega)
  unfold readAddress
  simp only [readType, Option.bind_eq_bind, Option.bind_some]
  split_ifs
  · obtain ⟨ipv4, readIPv4, -⟩ := readBytes_isSome 4 (buffer.drop 1)
      (by rw [List.length_drop]; omega)
    obtain ⟨port, readPort⟩ := readUint16_isSome ((buffer.drop 1).drop 4)
      (by simp only [List.length_drop]; omega)
    simp only [readIPv4, readPort, Option.bind_some]
    exact ⟨_, _, _, rfl, by simp only [List.length_drop]; omega⟩
  · obtain ⟨groups, readGroups⟩ := readGroups_isSome (buffer.drop 1) 8
      (by rw [List.length_drop]; omega)
    obtain ⟨port, readPort⟩ := readUint16_isSome ((buffer.drop 1).drop (2 * 8))
      (by simp only [List.length_drop]; omega)
    simp only [readGroups, readPort, Option.bind_some]
    exact ⟨_, _, _, rfl, by simp only [List.length_drop]; omega⟩
  · exact ⟨_, _, _, rfl, by simp only [List.length_drop]; omega⟩

theorem readAddresses_isSome (buffer : Bytes) (count : Nat) (old : List Address)
    (enough : count ≤ old.length) (room : 19 * count ≤ buffer.length) :
    ∃ addresses good rest, readAddresses count old buffer = some (addresses, good, rest) ∧
      buffer.length ≤ rest.length + 19 * count := by
  induction count generalizing old buffer with
  | zero => exact ⟨old, true, buffer, rfl, by omega⟩
  | succ count ih =>
    cases old with
    | nil => exact absurd enough (by simp)
    | cons first others =>
      rw [List.length_cons] at enough
      obtain ⟨address, good, rest, reads, long⟩ := readAddress_isSome buffer first (by omega)
      simp only [readAddresses, reads, Option.bind_eq_bind, Option.bind_some]
      split_ifs
      · obtain ⟨addresses, good', rest', reads', long'⟩ := ih rest others (by omega) (by omega)
        simp only [reads', Option.bind_some]
        exact ⟨_, _, _, rfl, by omega⟩
      · exact ⟨_, _, _, rfl, by omega⟩

end Reads

/-- `[MaxServersPerConnect]Address{}`. -/
def noAddresses : List Address := List.replicate MaxServersPerConnect Address.none

def writeAddresses (addresses : List Address) : Go Bytes :=
  (addresses.mapM writeAddress).map List.flatten

/-- Go's `int32(count)`. -/
theorem toInt_toInt32 (count : UInt32) :
    count.toInt32.toInt = (count.toNat : Int).bmod (2 ^ 32) := by
  rw [← Int32.toInt_toBitVec, UInt32.toBitVec_toInt32, BitVec.toInt_eq_toNat_bmod]
  rfl

/-- A count that is not negative as an `int32` is the same number as a `uint32`. -/
theorem toInt_of_nonneg {count : UInt32} (nonneg : 0 ≤ count.toInt32.toInt) :
    count.toInt32.toInt = count.toNat := by
  have small := count.toNat_lt
  rw [toInt_toInt32, Int.bmod_def] at nonneg ⊢
  split_ifs at nonneg ⊢ <;> omega

/-! ### The private connect token -/

/-- The part of a connect token only the backend and the dedicated servers can read. Its address
list is the first `numServerAddresses` entries of the source's array. -/
structure ConnectTokenPrivate where
  clientID : UInt64
  timeoutSeconds : Int32
  serverAddresses : List Address
  clientToServerKey : Key
  serverToClientKey : Key
  userData : UserData
  deriving DecidableEq

namespace ConnectTokenPrivate

/-- `connectTokenPrivate.write` into a zeroed buffer of `connectTokenPrivateBytes`. -/
def write (token : ConnectTokenPrivate) : Go (FixedBytes connectTokenPrivateBytes) := do
  let addresses ← writeAddresses token.serverAddresses
  let body := uint64Bytes token.clientID ++ uint32Bytes token.timeoutSeconds.toUInt32 ++
    uint32Bytes (UInt32.ofNat token.serverAddresses.length) ++ addresses ++
    token.clientToServerKey.bytes ++ token.serverToClientKey.bytes ++ token.userData.bytes
  if body.length ≤ connectTokenPrivateBytes then
    return .copyFrom connectTokenPrivateBytes body
  else none

def read (buffer : Bytes) : Go (Option ConnectTokenPrivate) :=
  if buffer.length < connectTokenPrivateBytes then some none
  else do
    let (clientID, rest) ← readUint64 buffer
    let (timeout, rest) ← readUint32 rest
    let (count, rest) ← readUint32 rest
    -- the count is an `int32`: a value from 2^31 on is negative
    if count.toInt32.toInt ≤ 0 ∨ (MaxServersPerConnect : Int) < count.toInt32.toInt then return none
    else
      let (addresses, good, rest) ← readAddresses count.toNat noAddresses rest
      if !good then return none
      else
        let (clientToServerKey, rest) ← readBytes KeyBytes rest
        let (serverToClientKey, rest) ← readBytes KeyBytes rest
        let (userData, _) ← readBytes UserDataBytes rest
        return some
          { clientID := clientID
            timeoutSeconds := timeout.toInt32
            serverAddresses := addresses.take count.toNat
            clientToServerKey := clientToServerKey
            serverToClientKey := serverToClientKey
            userData := userData }

/-- **Reading a private token never runs past its buffer**: at most 32 addresses fit the 1024 bytes
with room to spare. -/
theorem read_returns (buffer : Bytes) : ∃ token, read buffer = some token := by
  unfold read
  by_cases short : buffer.length < connectTokenPrivateBytes
  · rw [if_pos short]
    exact ⟨_, rfl⟩
  rw [if_neg short]
  have size : 1024 ≤ buffer.length := Nat.not_lt.mp short
  obtain ⟨clientID, readID, -⟩ := readUint64_isSome buffer (by omega)
  obtain ⟨timeout, readTimeout⟩ := readUint32_isSome (buffer.drop 8)
    (by rw [List.length_drop]; omega)
  obtain ⟨count, readCount⟩ := readUint32_isSome ((buffer.drop 8).drop 4)
    (by simp only [List.length_drop]; omega)
  simp only [readID, readTimeout, readCount, Option.bind_eq_bind, Option.bind_some]
  by_cases range : count.toInt32.toInt ≤ 0 ∨ (MaxServersPerConnect : Int) < count.toInt32.toInt
  · rw [if_pos range]
    exact ⟨_, rfl⟩
  rw [if_neg range]
  have few : count.toNat ≤ 32 := by
    simp only [MaxServersPerConnect, not_or, not_le, not_lt] at range
    have same := toInt_of_nonneg range.1.le
    omega
  obtain ⟨addresses, good, rest, reads, long⟩ := readAddresses_isSome
    (((buffer.drop 8).drop 4).drop 4) count.toNat noAddresses
    (by rw [noAddresses, List.length_replicate]; exact few)
    (by simp only [List.length_drop]; omega)
  simp only [List.length_drop] at long
  simp only [reads, Option.bind_some]
  by_cases bad : (!good) = true
  · rw [if_pos bad]
    exact ⟨_, rfl⟩
  rw [if_neg bad]
  obtain ⟨first, readFirst, -⟩ := readBytes_isSome KeyBytes rest (by simp only [KeyBytes]; omega)
  obtain ⟨second, readSecond, -⟩ := readBytes_isSome KeyBytes (rest.drop KeyBytes)
    (by simp only [List.length_drop, KeyBytes]; omega)
  obtain ⟨userData, readUserData, -⟩ := readBytes_isSome UserDataBytes
    ((rest.drop KeyBytes).drop KeyBytes)
    (by simp only [List.length_drop, KeyBytes, UserDataBytes]; omega)
  simp only [readFirst, readSecond, readUserData, Option.bind_some]
  exact ⟨_, rfl⟩

theorem read_isSome (buffer : FixedBytes connectTokenPrivateBytes) :
    ∃ token, read buffer.bytes = some token := read_returns buffer.bytes

end ConnectTokenPrivate

/-- Version info, protocol id and expire timestamp: what the sealing of a private connect token is
bound to. -/
def connectTokenAdditionalData (protocolID expireTimestamp : UInt64) : Bytes :=
  versionInfo.bytes ++ uint64Bytes protocolID ++ uint64Bytes expireTimestamp

/-- Seal the first 1024 - 16 bytes of the buffer. -/
def encryptConnectTokenPrivate (env : Platform) (buffer : FixedBytes connectTokenPrivateBytes)
    (protocolID expireTimestamp : UInt64) (nonce : FixedBytes connectTokenNonceBytes) (key : Key) :
    AeadCall :=
  encryptAEADBigNonce env (buffer.bytes.take (connectTokenPrivateBytes - MacBytes))
    (connectTokenAdditionalData protocolID expireTimestamp) nonce.bytes key

def decryptConnectTokenPrivate (env : Platform) (buffer : FixedBytes connectTokenPrivateBytes)
    (protocolID expireTimestamp : UInt64) (nonce : FixedBytes connectTokenNonceBytes) (key : Key) :
    Option AeadCall :=
  decryptAEADBigNonce env buffer.bytes
    (connectTokenAdditionalData protocolID expireTimestamp) nonce.bytes key

/-! ### The challenge token -/

/-- What the server asks a connecting client to echo. -/
structure ChallengeToken where
  clientID : UInt64
  userData : UserData
  deriving DecidableEq

namespace ChallengeToken

/-- The 300 byte buffer of a challenge token, zero padded. -/
def write (token : ChallengeToken) : FixedBytes challengeTokenBytes :=
  .copyFrom challengeTokenBytes (uint64Bytes token.clientID ++ token.userData.bytes)

def read (buffer : Bytes) : Go (Option ChallengeToken) :=
  if buffer.length < challengeTokenBytes then some none
  else do
    let (clientID, rest) ← readUint64 buffer
    let (userData, _) ← readBytes UserDataBytes rest
    return some ⟨clientID, userData⟩

/-- Reading a challenge token off 300 bytes or more always succeeds. -/
theorem read_long (buffer : Bytes) (long : challengeTokenBytes ≤ buffer.length) :
    ∃ token, read buffer = some (some token) := by
  have length : 300 ≤ buffer.length := long
  unfold read
  rw [if_neg (by omega)]
  obtain ⟨clientID, readID, -⟩ := readUint64_isSome buffer (by omega)
  obtain ⟨userData, readUserData, -⟩ := readBytes_isSome UserDataBytes (buffer.drop 8)
    (by simp only [List.length_drop, UserDataBytes]; omega)
  simp only [readID, readUserData, Option.bind_eq_bind, Option.bind_some]
  exact ⟨_, rfl⟩

theorem read_isSome (buffer : Bytes) (size : buffer.length = challengeTokenBytes) :
    ∃ token, read buffer = some (some token) := read_long buffer size.ge

/-- Reading a challenge token never runs past its buffer. -/
theorem read_returns (buffer : Bytes) : ∃ token, read buffer = some token := by
  by_cases short : buffer.length < challengeTokenBytes
  · exact ⟨none, if_pos short⟩
  · obtain ⟨token, reads⟩ := read_long buffer (Nat.not_lt.mp short)
    exact ⟨some token, reads⟩

/-- **The part of a challenge token that is sealed holds all of it.** -/
theorem read_write (token : ChallengeToken) (mac : Bytes) (size : mac.length = MacBytes) :
    read (token.write.bytes.take (challengeTokenBytes - MacBytes) ++ mac) = some (some token) := by
  -- 8 bytes of client id and 256 of user data, then padding up to 284
  have sealed : token.write.bytes.take (challengeTokenBytes - MacBytes) =
      uint64Bytes token.clientID ++ (token.userData.bytes ++ List.replicate 20 0) := by
    have fields : (uint64Bytes token.clientID ++ token.userData.bytes).length = 264 := by
      rw [List.length_append, uint64Bytes_length, token.userData.length_eq]
      rfl
    rw [← List.append_assoc]
    generalize isFields : uint64Bytes token.clientID ++ token.userData.bytes = fields_ at fields
    show ((uint64Bytes token.clientID ++ token.userData.bytes).take 300 ++
      List.replicate (300 - (uint64Bytes token.clientID ++ token.userData.bytes).length) 0).take
        284 = _
    rw [isFields, fields, List.take_of_length_le (show fields_.length ≤ 300 by omega),
      List.take_append, fields, List.take_of_length_le (show fields_.length ≤ 284 by omega),
      List.take_replicate]
    rfl
  have length : ((uint64Bytes token.clientID ++ (token.userData.bytes ++ List.replicate 20 0)) ++
      mac).length = challengeTokenBytes := by
    simp only [List.length_append, uint64Bytes_length, token.userData.length_eq, size,
      List.length_replicate]
    rfl
  rw [sealed, read, if_neg (by omega), List.append_assoc, List.append_assoc, readUint64_append]
  simp only [Option.bind_eq_bind, Option.bind_some, readBytes_append]
  rfl

end ChallengeToken

/-- Seal the first 300 - 16 bytes of the buffer, with no associated data. -/
def encryptChallengeToken (env : Platform) (buffer : FixedBytes challengeTokenBytes)
    (sequence : UInt64) (key : Key) : AeadCall :=
  encryptAEAD env (buffer.bytes.take (challengeTokenBytes - MacBytes)) [] (packetNonce sequence) key

def decryptChallengeToken (env : Platform) (buffer : FixedBytes challengeTokenBytes)
    (sequence : UInt64) (key : Key) : Option AeadCall :=
  decryptAEAD env buffer.bytes [] (packetNonce sequence) key

/-- The sealed challenge token fills its 300 bytes again. -/
theorem encryptChallengeToken_length (env : Platform) (buffer : FixedBytes challengeTokenBytes)
    (sequence : UInt64) (key : Key) :
    (encryptChallengeToken env buffer sequence key).ciphertext.length = challengeTokenBytes := by
  have fixed := buffer.length_eq
  simp only [encryptChallengeToken, encryptAEAD_ciphertext_length, List.length_take, fixed]
  decide

/-! ### The public connect token -/

/-- What a client passes to `Client.Connect`. `serverAddresses` is the whole array, of which the
first `numServerAddresses` count. -/
structure ConnectToken where
  protocolID : UInt64
  createTimestamp : UInt64
  expireTimestamp : UInt64
  nonce : FixedBytes connectTokenNonceBytes
  privateData : FixedBytes connectTokenPrivateBytes
  timeoutSeconds : Int32
  numServerAddresses : Int
  serverAddresses : List Address
  clientToServerKey : Key
  serverToClientKey : Key
  deriving DecidableEq

namespace ConnectToken

/-- Go's `connectToken{}`. -/
def empty : ConnectToken :=
  ⟨0, 0, 0, .zero _, .zero _, 0, 0, noAddresses, .zero _, .zero _⟩

/-- `connectToken.write` into a zeroed buffer of `ConnectTokenBytes`. -/
def write (token : ConnectToken) : Go (FixedBytes ConnectTokenBytes) :=
  -- the loop over the addresses panics past the end of their array
  if token.serverAddresses.length < token.numServerAddresses.toNat then none
  else do
    let addresses ← writeAddresses (token.serverAddresses.take token.numServerAddresses.toNat)
    let body := versionInfo.bytes ++ uint64Bytes token.protocolID ++
      uint64Bytes token.createTimestamp ++ uint64Bytes token.expireTimestamp ++
      token.nonce.bytes ++ token.privateData.bytes ++ uint32Bytes token.timeoutSeconds.toUInt32 ++
      uint32Bytes (Int32.ofInt token.numServerAddresses).toUInt32 ++ addresses ++
      token.clientToServerKey.bytes ++ token.serverToClientKey.bytes
    if body.length ≤ ConnectTokenBytes then return .copyFrom ConnectTokenBytes body
    else none

/-- `token.read(buffer)`: the token as far as the read got, over its old value, and whether it was
accepted. -/
def read (token : ConnectToken) (buffer : Bytes) : Go (ConnectToken × Bool) :=
  if buffer.length ≠ ConnectTokenBytes then some (token, false)
  else do
    let (packetVersionInfo, rest) ← readBytes versionInfoBytes buffer
    if packetVersionInfo ≠ versionInfo then return (token, false)
    else
      let (protocolID, rest) ← readUint64 rest
      let (createTimestamp, rest) ← readUint64 rest
      let (expireTimestamp, rest) ← readUint64 rest
      let token := { token with
        protocolID := protocolID
        createTimestamp := createTimestamp
        expireTimestamp := expireTimestamp }
      if createTimestamp > expireTimestamp then return (token, false)
      else
        let (nonce, rest) ← readBytes connectTokenNonceBytes rest
        let (privateData, rest) ← readBytes connectTokenPrivateBytes rest
        let (timeout, rest) ← readUint32 rest
        let (count, rest) ← readUint32 rest
        let token := { token with
          nonce := nonce
          privateData := privateData
          timeoutSeconds := timeout.toInt32
          numServerAddresses := count.toInt32.toInt }
        if token.numServerAddresses ≤ 0 ∨ (MaxServersPerConnect : Int) < token.numServerAddresses then
          return (token, false)
        else
          let (addresses, good, rest) ← readAddresses count.toNat token.serverAddresses rest
          let token := { token with serverAddresses := addresses }
          if !good then return (token, false)
          else
            let (clientToServerKey, rest) ← readBytes KeyBytes rest
            let (serverToClientKey, _) ← readBytes KeyBytes rest
            return ({ token with
              clientToServerKey := clientToServerKey
              serverToClientKey := serverToClientKey }, true)

end ConnectToken

end Netcode
