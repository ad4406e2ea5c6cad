/-
**A datagram over checked arrays.**

The functions a datagram goes through on the server, with every access to an array of slots, mappings
or history entries checked against the size of the array: `none` is Go's run-time panic for an index
out of range. The index `-1` is `none`, as an index it panics. The source keeps one array per field,
all of one size; here a cell holds all its fields.

The packet is read by the reader in place. What touches none of these arrays (sending a global packet,
comparing a token's addresses) is the function of the model.
-/

import Netcode.Codec.Reader
import Netcode.Model.Server

namespace Netcode.Checked

/-! ### The arrays -/

def mappingAt (m : EncryptionManager) (index : Nat) : Go EncryptionMapping :=
  Bounded.get maxEncryptionMappings m.mapping index

def setMapping (m : EncryptionManager) (index : Nat) (mapping : EncryptionMapping) :
    Go EncryptionManager := do
  let cells ← Bounded.set maxEncryptionMappings m.mapping index mapping
  return { m with mapping := cells }

def entryAt (entries : ConnectTokenEntries) (index : Nat) : Go ConnectTokenEntry :=
  Bounded.get maxConnectTokenEntries entries index

def setEntry (entries : ConnectTokenEntries) (index : Nat) (entry : ConnectTokenEntry) :
    Go ConnectTokenEntries :=
  Bounded.set maxConnectTokenEntries entries index entry

def slotAt (s : Server) (i : Nat) : Go ClientSlot := Bounded.get MaxClients s.clients i

def setSlot (s : Server) (i : Nat) (slot : ClientSlot) : Go Server := do
  let cells ← Bounded.set MaxClients s.clients i slot
  return { s with clients := cells }

/-! ### The encryption mappings -/

section Mappings

variable (env : Platform)

def lookup (m : EncryptionManager) (address : Address) (time : ℚ) : Go (Option Nat) :=
  (List.range m.numEncryptionMappings).findM? fun i => do
    let mapping ← mappingAt m i
    return mapping.address.Equal address && !mapping.expired env time

def reusable (m : EncryptionManager) (time : ℚ) : Go (Option Nat) :=
  (List.range maxEncryptionMappings).findM? fun i => do
    let mapping ← mappingAt m i
    return mapping.address.type = AddressNone ||
      (mapping.expired env time && mapping.clientIndex = none)

def addEncryptionMapping (m : EncryptionManager) (address : Address) (sendKey receiveKey : Key)
    (time expireTime : ℚ) (timeout : Int32) (connectTokenEntryIndex : Nat) :
    Go (Option EncryptionManager) := do
  match ← lookup env m address time with
  | some i =>
    let mapping ← mappingAt m i
    let m ← setMapping m i { mapping with
      timeout := timeout
      expireTime := expireTime
      lastAccessTime := time
      connectTokenEntryIndex := some connectTokenEntryIndex
      sendKey := sendKey
      receiveKey := receiveKey }
    return some m
  | none =>
    match ← reusable env m time with
    | some i =>
      let mapping ← mappingAt m i
      let m ← setMapping m i { mapping with
        timeout := timeout
        address := address
        expireTime := expireTime
        lastAccessTime := time
        connectTokenEntryIndex := some connectTokenEntryIndex
        sendKey := sendKey
        receiveKey := receiveKey }
      return some { m with numEncryptionMappings := max m.numEncryptionMappings (i + 1) }
    | none => return none

/-- The trimming loop of `removeEncryptionMapping`, on the first `count` mappings. -/
def trim (time : ℚ) : (count : Nat) → EncryptionManager → Go EncryptionManager
  | 0, m => some { m with numEncryptionMappings := 0 }
  | count + 1, m => do
    let mapping ← mappingAt m count
    if !mapping.expired env time || mapping.clientIndex ≠ none then
      return { m with numEncryptionMappings := count + 1 }
    else
      let m ← setMapping m count mapping.dropped
      trim time count m

def removeEncryptionMapping (m : EncryptionManager) (address : Address) (time : ℚ) :
    Go EncryptionManager := do
  let found ← (List.range m.numEncryptionMappings).findM? fun i => do
    let mapping ← mappingAt m i
    return mapping.address.Equal address
  match found with
  | none => return m
  | some i =>
    let mapping ← mappingAt m i
    let m ← setMapping m i mapping.cleared
    if i + 1 = m.numEncryptionMappings then trim env time i m else return m

/-- `m.lastAccessTime[index] = time`. -/
def access (m : EncryptionManager) (index : Nat) (time : ℚ) : Go EncryptionManager := do
  let mapping ← mappingAt m index
  setMapping m index { mapping with lastAccessTime := time }

def findEncryptionMapping (m : EncryptionManager) (address : Address) (time : ℚ) :
    Go (Option Nat × EncryptionManager) := do
  match ← lookup env m address time with
  | some i =>
    let m ← access m i time
    return (some i, m)
  | none => return (none, m)

end Mappings

def touch (m : EncryptionManager) (index : Nat) (address : Address) (time : ℚ) :
    Go (Option EncryptionManager) := do
  let mapping ← mappingAt m index
  if !mapping.address.Equal address then return none
  else
    let m ← access m index time
    return some m

def setExpireTime (m : EncryptionManager) (index : Nat) (expireTime : ℚ) : Go EncryptionManager := do
  let mapping ← mappingAt m index
  setMapping m index { mapping with expireTime := expireTime }

/-- `m.clientIndex[index] = clientIndex`. -/
def setClientIndex (m : EncryptionManager) (index : Nat) (clientIndex : Option Nat) :
    Go EncryptionManager := do
  let mapping ← mappingAt m index
  setMapping m index { mapping with clientIndex := clientIndex }

/-- What a getter returns: `nothing` for the index `-1`, else a field of the mapping. -/
def getMapping {α : Type} (m : EncryptionManager) (index : Option Nat) (nothing : α)
    (field : EncryptionMapping → α) : Go α :=
  match index with
  | none => some nothing
  | some index => do
    let mapping ← mappingAt m index
    return field mapping

def getReceiveKey (m : EncryptionManager) (index : Option Nat) : Go (Option Key) :=
  getMapping m index none fun mapping => some mapping.receiveKey

def getTimeout (m : EncryptionManager) (index : Option Nat) : Go Int32 :=
  getMapping m index 0 EncryptionMapping.timeout

def getConnectTokenEntryIndex (m : EncryptionManager) (index : Option Nat) : Go (Option Nat) :=
  getMapping m index none EncryptionMapping.connectTokenEntryIndex

/-! ### The history of connect tokens -/

/-- The loop of `connectTokenEntriesFindOrAdd`: `matchingTokenIndex` and `freeTokenIndex`. -/
def scanEntries (entries : ConnectTokenEntries) (mac : Mac) (currentTimestamp : UInt64) :
    Go (Option Nat × Option Nat) :=
  (List.range maxConnectTokenEntries).foldlM (fun found i => do
    let entry ← entryAt entries i
    return (if entry.state ≠ .free && mac = entry.mac then some i else found.1,
      if found.2.isNone && (entry.state = .free || entry.expireTimestamp ≤ currentTimestamp) then some i
      else found.2)) (none, none)

def connectTokenEntriesFindOrAdd (entries : ConnectTokenEntries) (address : Address) (mac : Mac)
    (expireTimestamp currentTimestamp : UInt64) (time : ℚ) : Go (ConnectTokenEntries × Admission) := do
  let (matchingTokenIndex, freeTokenIndex) ← scanEntries entries mac currentTimestamp
  match matchingTokenIndex with
  | none =>
    match freeTokenIndex with
    | none => return (entries, .historyFull)
    | some index =>
      let entries ← setEntry entries index ⟨.pending, time, expireTimestamp, mac, address⟩
      return (entries, .entry index)
  | some index =>
    let entry ← entryAt entries index
    if entry.state = .pending ∧ entry.address.Equal address then return (entries, .entry index)
    else return (entries, .refused)

def connectTokenEntriesConsume (entries : ConnectTokenEntries) (index : Nat) :
    Go ConnectTokenEntries :=
  if index < maxConnectTokenEntries then do
    let entry ← entryAt entries index
    setEntry entries index { entry with state := .consumed }
  else some entries

/-! ### The server -/

def findClientIndexByID (s : Server) (clientID : UInt64) : Go (Option Nat) :=
  (List.range s.maxClients).findM? fun i => do
    let slot ← slotAt s i
    return slot.connected && slot.clientID = clientID

def findClientIndexByAddress (s : Server) (address : Address) : Go (Option Nat) :=
  (List.range s.maxClients).findM? fun i => do
    let slot ← slotAt s i
    return slot.connected && slot.address.Equal address

def findFreeClientIndex (s : Server) : Go (Option Nat) :=
  (List.range s.maxClients).findM? fun i => do
    let slot ← slotAt s i
    return !slot.connected

section Operations

variable (env : Platform) (config : ServerConfig)

def sendClientPacket (s : Server) (p : Packet) (i : Nat) : Go Server := do
  let slot ← slotAt s i
  let encryptionIndex ← slot.encryptionIndex
  match ← touch s.encryptionManager encryptionIndex slot.address s.time with
  | none => return s.record (.outOfDate i)
  | some manager =>
    let mapping ← mappingAt manager encryptionIndex
    let s ← setSlot { s with encryptionManager := manager } i { slot with
      sequence := slot.sequence + 1
      lastPacketSendTime := s.time }
    return { s with
      trace :=
        .sent slot.address (writePacket env p slot.sequence mapping.sendKey config.protocolID) ::
        .sealed (.client i p slot.sequence)
          (sealPacket env p slot.sequence mapping.sendKey config.protocolID) :: s.trace }

def resetClientSlot (s : Server) (i : Nat) : Go Server := do
  let slot ← slotAt s i
  let s ← setSlot s i (Server.clearedSlot slot)
  return { s with numConnectedClients := s.numConnectedClients - 1 }

/-- The end of `disconnectClientInternal`. -/
def releaseClient (s : Server) (i : Nat) : Go Server := do
  let slot ← slotAt s i
  let s ← setSlot s i { slot with replayProtection := .reset }
  let encryptionIndex ← slot.encryptionIndex
  let manager ← setClientIndex s.encryptionManager encryptionIndex none
  let manager ← removeEncryptionMapping env manager slot.address s.time
  resetClientSlot { s with
    encryptionManager := manager
    trace := .released i encryptionIndex :: s.trace } i

def disconnectClientInternal (s : Server) (i : Nat) (sendDisconnectPackets : Bool)
    (disconnectReason : DisconnectReason) : Go Server := do
  let slot ← slotAt s i
  let s ← setSlot s i { slot with disconnectReason := disconnectReason }
  let s ← Server.notify config s i false
  let s ← (if sendDisconnectPackets then
      (List.range numDisconnectPackets).foldlM
        (fun s _ => sendClientPacket env config s .connectionDisconnect i) s
    else some s)
  releaseClient env s i

/-- `processConnectionRequestPacket` for an entry of the history that admits the request. -/
def admitRequest (s : Server) (source : Address) (request : ConnectionRequest)
    (token : ConnectTokenPrivate) (connectTokenEntryIndex : Nat) : Go Server :=
  if s.numConnectedClients = s.maxClients then
    some (Server.sendGlobalPacket env config s .connectionDenied source token.serverToClientKey)
  else do
    match ← addEncryptionMapping env s.encryptionManager source token.serverToClientKey
        token.clientToServerKey s.time (Server.mappingExpireTime env s token) token.timeoutSeconds
        connectTokenEntryIndex with
    | none => return s
    | some manager =>
      return Server.sendChallenge env config { s with encryptionManager := manager } source request
        token

def processConnectionRequestPacket (s : Server) (source : Address) (request : ConnectionRequest)
    (reading : UInt64) : Go Server := do
  match ← ConnectTokenPrivate.read request.connectTokenData.bytes with
  | none => return s
  | some token =>
    if !s.serverAddressListed token then return s
    else if (← findClientIndexByAddress s source) ≠ none then return s
    else if (← findClientIndexByID s token.clientID) ≠ none then return s
    else
      let (entries, admission) ← connectTokenEntriesFindOrAdd s.connectTokenEntries source
        (Server.requestMac request) request.connectTokenExpireTimestamp reading s.time
      let s := { s with connectTokenEntries := entries, trace := .clock reading :: s.trace }
      match admission with
      | .historyFull => return s
      | .refused => return s
      | .entry index => admitRequest env config s source request token index

/-- `connectClient` up to its first packet. -/
def installClient (s : Server) (i : Nat) (address : Address) (clientID : UInt64)
    (encryptionIndex : Nat) (timeoutSeconds : Int32) (userData : UserData) : Go Server := do
  let manager ← setExpireTime s.encryptionManager encryptionIndex (-1)
  let manager ← setClientIndex manager encryptionIndex (some i)
  let slot ← slotAt s i
  let s ← setSlot s i { slot with
    connected := true
    timeout := timeoutSeconds
    encryptionIndex := some encryptionIndex
    clientID := clientID
    sequence := 0
    address := address
    disconnectReason := .none
    lastPacketSendTime := s.time
    lastPacketReceiveTime := s.time
    userData := userData }
  let entries ← (match ← getConnectTokenEntryIndex manager (some encryptionIndex) with
    | some index => connectTokenEntriesConsume s.connectTokenEntries index
    | none => some s.connectTokenEntries)
  let mapping ← mappingAt manager encryptionIndex
  return { s with
    numConnectedClients := s.numConnectedClients + 1
    encryptionManager := manager
    connectTokenEntries := entries
    trace := .installed i address encryptionIndex mapping.sendKey mapping.receiveKey :: s.trace }

def connectClient (s : Server) (i : Nat) (address : Address) (clientID : UInt64)
    (encryptionIndex : Nat) (timeoutSeconds : Int32) (userData : UserData) : Go Server := do
  let s ← installClient s i address clientID encryptionIndex timeoutSeconds userData
  let s ← sendClientPacket env config s (s.keepAlivePacket i) i
  Server.notify config s i true

def processConnectionResponsePacket (s : Server) (source : Address)
    (challengeTokenSequence : UInt64) (challengeTokenData : FixedBytes challengeTokenBytes)
    (encryptionIndex : Option Nat) : Go Server :=
  match decryptChallengeToken env challengeTokenData challengeTokenSequence s.challengeKey with
  | none => some s
  | some call => do
    let s := s.record (.opened .challengeToken call)
    match ← ChallengeToken.read (call.plaintext ++
        challengeTokenData.bytes.drop (challengeTokenBytes - MacBytes)) with
    | none => return s
    | some challenge =>
      match encryptionIndex with
      | none => return s
      | some e =>
        let mapping ← mappingAt s.encryptionManager e
        let s := s.record
          (.responded source challengeTokenSequence mapping.sendKey mapping.receiveKey)
        if (← findClientIndexByAddress s source) ≠ none then return s
        else if (← findClientIndexByID s challenge.clientID) ≠ none then return s
        else if s.numConnectedClients = s.maxClients then
          return Server.sendGlobalPacket env config s .connectionDenied source mapping.sendKey
        else
          let i ← (← findFreeClientIndex s)
          let timeoutSeconds ← getTimeout s.encryptionManager (some e)
          connectClient env config s i source challenge.clientID e timeoutSeconds challenge.userData

def confirmClient (s : Server) (i : Nat) : Go Server := do
  let slot ← slotAt s i
  setSlot s i { slot with lastPacketReceiveTime := s.time, confirmed := true }

/-- `push` on the ring of a slot's queue. -/
def push (q : PacketQueue) (packet : Bytes) (sequence : UInt64) : Go (PacketQueue × Bool) :=
  if q.numPackets = packetQueueSize then some (q, false)
  else do
    let index := (q.startIndex + q.numPackets) % packetQueueSize
    let packets ← Bounded.set packetQueueSize q.packets index (some packet)
    let sequences ← Bounded.set packetQueueSize q.sequences index sequence
    return ({ q with packets := packets, sequences := sequences, numPackets := q.numPackets + 1 }, true)

def pushPayload (s : Server) (i : Nat) (payload : Bytes) (sequence : UInt64) : Go Server := do
  let slot ← slotAt s i
  let (queue, accepted) ← push slot.packetQueue payload sequence
  let s ← setSlot s i { slot with packetQueue := queue }
  return if accepted then s.record (.queued i payload sequence) else s

def processPacketInternal (s : Server) (source : Address) (p : Packet) (sequence : UInt64)
    (encryptionIndex clientIndex : Option Nat) (reading : UInt64) : Go Server :=
  match p, clientIndex with
  | .connectionRequest request, _ =>
    if s.flags &&& serverFlagIgnoreConnectionRequestPackets = 0 then
      processConnectionRequestPacket env config s source request reading
    else some s
  | .connectionResponse challengeTokenSequence challengeTokenData, _ =>
    if s.flags &&& serverFlagIgnoreConnectionResponsePackets = 0 then
      processConnectionResponsePacket env config s source challengeTokenSequence challengeTokenData
        encryptionIndex
    else some s
  | .connectionKeepAlive _ _, some i => confirmClient s i
  | .connectionPayload payload, some i => do
    let s ← confirmClient s i
    pushPayload s i payload sequence
  | .connectionDisconnect, some i =>
    disconnectClientInternal env config s i false .clientDisconnect
  | _, _ => some s

def serverAllowedPackets : Go (Nat → Bool) := do
  let allowed ← Bounded.set connectionNumPackets (fun _ => false) 0 true
  let allowed ← Bounded.set connectionNumPackets allowed 3 true
  let allowed ← Bounded.set connectionNumPackets allowed 4 true
  let allowed ← Bounded.set connectionNumPackets allowed 5 true
  Bounded.set connectionNumPackets allowed 6 true

/-- The mapping a datagram is read with. -/
def locateMapping (s : Server) (source : Address) (clientIndex : Option Nat) :
    Go (Option Nat × Server) :=
  match clientIndex with
  | some i => do
    let slot ← slotAt s i
    return (slot.encryptionIndex, s)
  | none => do
    let (found, manager) ← findEncryptionMapping env s.encryptionManager source s.time
    return (found, { s with encryptionManager := manager })

/-- `&server.clientReplayProtection[clientIndex]`, or `nil` for a datagram from no client. -/
def replayWindow (s : Server) (clientIndex : Option Nat) : Go (Option ReplayProtection) :=
  match clientIndex with
  | some i => do
    let slot ← slotAt s i
    return some slot.replayProtection
  | none => some none

/-- What `readPacket` wrote through that pointer. -/
def setWindow (s : Server) (clientIndex : Option Nat) (window : Option ReplayProtection) : Go Server :=
  match clientIndex, window with
  | some i, some window => do
    let slot ← slotAt s i
    setSlot s i { slot with replayProtection := window }
  | _, _ => some s

def readAndProcessPacket (s : Server) (source : Address) (packetData : Bytes)
    (currentTimestamp : UInt64) (allowedPackets : Nat → Bool) (reading : UInt64) : Go Server := do
  let s := s.record (.datagram currentTimestamp source packetData)
  if !s.running then return s
  else if packetData.length ≤ 1 then return s
  else
    let clientIndex ← findClientIndexByAddress s source
    let (encryptionIndex, s) ← locateMapping env s source clientIndex
    let readPacketKey ← getReceiveKey s.encryptionManager encryptionIndex
    let first ← packetData[0]?
    if readPacketKey = none ∧ first ≠ 0 then return s
    else
      let replay ← replayWindow s clientIndex
      let outcome ← readPacket env config.protocolID currentTimestamp
        s.minConnectTokenExpireTimestamp allowedPackets packetData readPacketKey
        (some config.privateKey) replay
      let s ← setWindow s clientIndex outcome.replayProtection
      let s := s.recordReading source currentTimestamp outcome.opened outcome.packet
      match outcome.packet with
      | none => return s
      | some packet =>
        processPacketInternal env config s source packet outcome.sequence encryptionIndex clientIndex
          reading

def processPacket (s : Server) (source : Address) (packetData : Bytes)
    (currentTimestamp reading : UInt64) : Go Server := do
  let allowedPackets ← serverAllowedPackets
  readAndProcessPacket env config (s.record (.clock currentTimestamp)) source packetData
    currentTimestamp allowedPackets reading

end Operations

end Netcode.Checked
