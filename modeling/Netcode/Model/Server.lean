/-
**The server.**

`server.go`: the client slots, the connect token handshake, the packets of connected clients,
loopback clients, and the public calls. A call is a function from the state before it to the state
after it, or a Go run-time panic (`none`).

What the code takes from outside is an input of the call: the datagrams, the readings of the wall
clock (one for each `time.Now()` the source may reach), the bytes of `RandomBytes`. What it does to
the outside is kept in `trace`, newest first, together with the points of the code the properties
speak about (a token admitted, a client installed, a slot released). No function reads the trace.

The source keeps one array per field of a slot; here a slot is one record. A slot or mapping index
of `-1` is `none`. The two user callbacks are functions on the state, since they may call back into
the server; `ServerConfig.NonReentrant` is the assumption that they do not.
-/

import Netcode.Model.Packet
import Netcode.Model.TokenEntries
import Netcode.Model.Encryption

namespace Netcode

/-! ### State -/

inductive DisconnectReason where
  | none
  | timedOut
  | clientDisconnect
  | serverDisconnect
  deriving DecidableEq

/-- Which counter and which key a seal operation used. -/
inductive SealKind where
  | global (packet : Packet) (sequence : UInt64)
  | client (slot : Nat) (packet : Packet) (sequence : UInt64)
  | challengeToken (token : ChallengeToken) (sequence : UInt64)
  deriving DecidableEq

/-- What was opened: a private connect token, a packet, or an echoed challenge token. -/
inductive OpenKind where
  | connectToken
  | packet
  | challengeToken
  deriving DecidableEq

/-- One entry of the server's trace. -/
inductive Effect where
  /-- A reading of the wall clock. -/
  | clock (reading : UInt64)
  | started (maxClients : Nat) (challengeKey : Key) (reading : UInt64)
  | stopped
  /-- A datagram is looked at, with the reading its batch started with. -/
  | datagram (reading : UInt64) (source : Address) (data : Bytes)
  | opened (kind : OpenKind) (call : AeadCall)
  | sealed (kind : SealKind) (call : AeadCall)
  | sent (destination : Address) (data : Bytes)
  /-- `readPacket` returned a connection request. -/
  | requested (source : Address) (request : ConnectionRequest) (reading : UInt64) (call : AeadCall)
  /-- A challenge was issued for a request. -/
  | challenged (source : Address) (request : ConnectionRequest) (call : AeadCall)
  /-- A connection response is processed, opened with the keys of a mapping. -/
  | responded (source : Address) (challengeTokenSequence : UInt64) (sendKey receiveKey : Key)
  /-- `connectClient` ran. -/
  | installed (slot : Nat) (address : Address) (encryptionIndex : Nat) (sendKey receiveKey : Key)
  /-- A slot was given up, with its mapping. -/
  | released (slot encryptionIndex : Nat)
  /-- `sendClientPacket` failed its `touch` check. -/
  | outOfDate (slot : Nat)
  | submitted (slot : Nat) (payload : Bytes) (sequence : UInt64)
  | queued (slot : Nat) (payload : Bytes) (sequence : UInt64)
  | delivered (slot : Nat) (payload : Bytes) (sequence : UInt64)
  | sentLoopback (slot : Nat) (payload : Bytes) (sequence : UInt64)
  deriving DecidableEq

/-- A client slot. -/
structure ClientSlot where
  connected : Bool
  timeout : Int32
  loopback : Bool
  confirmed : Bool
  disconnectReason : DisconnectReason
  encryptionIndex : Option Nat
  clientID : UInt64
  sequence : UInt64
  lastPacketSendTime : ℚ
  lastPacketReceiveTime : ℚ
  userData : UserData
  replayProtection : ReplayProtection
  packetQueue : PacketQueue
  address : Address

structure Server where
  address : Address
  address2 : Address
  flags : UInt32
  time : ℚ
  running : Bool
  maxClients : Nat
  numConnectedClients : Int
  globalSequence : UInt64
  challengeSequence : UInt64
  challengeKey : Key
  clients : Nat → ClientSlot
  connectTokenEntries : ConnectTokenEntries
  encryptionManager : EncryptionManager
  minConnectTokenExpireTimestamp : UInt64
  trace : List Effect

structure ServerConfig where
  protocolID : UInt64
  privateKey : Key
  maxConnectTokenLifetime : Int64
  connectDisconnectCallback : Option (Nat → Bool → Server → Go Server)
  sendLoopbackPacketCallback : Option (Nat → Bytes → UInt64 → Server → Go Server)

def DefaultMaxConnectTokenLifetime : UInt64 := 30

/-- `MaxConnectTokenLifetime` as `NewServerDual` leaves it. -/
def ServerConfig.connectTokenLifetime (config : ServerConfig) : UInt64 :=
  if config.maxConnectTokenLifetime ≤ 0 then DefaultMaxConnectTokenLifetime
  else config.maxConnectTokenLifetime.toUInt64

/-- **The callbacks do not call back into the server.** -/
structure ServerConfig.NonReentrant (config : ServerConfig) : Prop where
  connectDisconnect : ∀ callback, config.connectDisconnectCallback = some callback →
    ∀ slot connected s, callback slot connected s = some s
  sendLoopback : ∀ callback, config.sendLoopbackPacketCallback = some callback →
    ∀ slot payload sequence s, callback slot payload sequence s = some s

def serverFlagIgnoreConnectionRequestPackets : UInt32 := 1
def serverFlagIgnoreConnectionResponsePackets : UInt32 := 2

/-- `1 << 63`, where the sequence numbers of global packets start. -/
def globalSequenceStart : UInt64 := 0x8000000000000000

/-- A slot of a server that has just been created. -/
def ClientSlot.new : ClientSlot :=
  { connected := false
    timeout := 0
    loopback := false
    confirmed := false
    disconnectReason := .none
    encryptionIndex := none
    clientID := 0
    sequence := 0
    lastPacketSendTime := 0
    lastPacketReceiveTime := 0
    userData := .zero _
    replayProtection := .reset
    packetQueue := .clear
    address := Address.none }

namespace Server

/-- `NewServerDual`, on parsed addresses; `NewServer` has no second one. -/
def new (address address2 : Address) (time : ℚ) : Server :=
  { address := address
    address2 := address2
    flags := 0
    time := time
    running := false
    maxClients := 0
    numConnectedClients := 0
    globalSequence := globalSequenceStart
    challengeSequence := 0
    challengeKey := .zero _
    clients := fun _ => .new
    connectTokenEntries := connectTokenEntriesReset
    encryptionManager := .reset
    minConnectTokenExpireTimestamp := 0
    trace := [] }

def record (s : Server) (effect : Effect) : Server := { s with trace := effect :: s.trace }

def setClient (s : Server) (i : Nat) (slot : ClientSlot) : Server :=
  { s with clients := Function.update s.clients i slot }

/-- `for i := 0; i < server.maxClients; i++`. The bound is read again before every turn, since the
body may call back into the server; once a turn is past it the state no longer changes. -/
def forEachSlot (body : Server → Nat → Go Server) (s : Server) : Go Server :=
  (List.range MaxClients).foldlM (fun s i => if i < s.maxClients then body s i else some s) s

/-- The check of a slot number that the public calls share. -/
def validSlot (s : Server) (clientIndex : Int) : Option Nat :=
  if s.running ∧ 0 ≤ clientIndex ∧ clientIndex < s.maxClients then some clientIndex.toNat else none

def findClientIndexByID (s : Server) (clientID : UInt64) : Option Nat :=
  (List.range s.maxClients).find? fun i =>
    (s.clients i).connected && (s.clients i).clientID = clientID

def findClientIndexByAddress (s : Server) (address : Address) : Option Nat :=
  (List.range s.maxClients).find? fun i =>
    (s.clients i).connected && (s.clients i).address.Equal address

def findFreeClientIndex (s : Server) : Option Nat :=
  (List.range s.maxClients).find? fun i => !(s.clients i).connected

section Operations

variable (env : Platform) (config : ServerConfig)

/-! ### Sending -/

def sendGlobalPacket (s : Server) (p : Packet) (destination : Address) (packetKey : Key) : Server :=
  { s with
    globalSequence := s.globalSequence + 1
    trace :=
      .sent destination (writePacket env p s.globalSequence packetKey config.protocolID) ::
      .sealed (.global p s.globalSequence)
        (sealPacket env p s.globalSequence packetKey config.protocolID) :: s.trace }

/-- The part of `sendClientPacket` behind its `touch` check, with the mapping's send key. -/
def writeToClient (s : Server) (p : Packet) (i : Nat) (packetKey : Key) : Server :=
  let slot := s.clients i
  { s with
    clients := Function.update s.clients i { slot with
      sequence := slot.sequence + 1
      lastPacketSendTime := s.time }
    trace :=
      .sent slot.address (writePacket env p slot.sequence packetKey config.protocolID) ::
      .sealed (.client i p slot.sequence)
        (sealPacket env p slot.sequence packetKey config.protocolID) :: s.trace }

/-- `sendClientPacket`; a slot without a mapping makes `touch` index its arrays with `-1`. -/
def sendClientPacket (s : Server) (p : Packet) (i : Nat) : Go Server := do
  let encryptionIndex ← (s.clients i).encryptionIndex
  match s.encryptionManager.touch encryptionIndex (s.clients i).address s.time with
  | none => return s.record (.outOfDate i)
  | some manager =>
    let s := { s with encryptionManager := manager }
    return writeToClient env config s p i (manager.mapping encryptionIndex).sendKey

/-- `packet := &connectionKeepAlive{...}` for a slot. -/
def keepAlivePacket (s : Server) (i : Nat) : Packet :=
  .connectionKeepAlive (Int32.ofNat i) (Int32.ofNat s.maxClients)

/-! ### Disconnecting -/

/-- Call `ConnectDisconnectCallback` if it is set. -/
def notify (s : Server) (i : Nat) (connected : Bool) : Go Server :=
  match config.connectDisconnectCallback with
  | some callback => callback i connected s
  | none => some s

/-- The slot after `resetClientSlot`. -/
def clearedSlot (slot : ClientSlot) : ClientSlot :=
  { slot with
    packetQueue := .clear
    connected := false
    loopback := false
    confirmed := false
    clientID := 0
    sequence := 0
    lastPacketSendTime := 0
    lastPacketReceiveTime := 0
    address := Address.none
    encryptionIndex := none
    userData := .zero _ }

def resetClientSlot (s : Server) (i : Nat) : Server :=
  { s.setClient i (clearedSlot (s.clients i)) with numConnectedClients := s.numConnectedClients - 1 }

/-- The end of `disconnectClientInternal`, for a slot whose mapping is `encryptionIndex`. -/
def releaseClient (s : Server) (i encryptionIndex : Nat) : Server :=
  let address := (s.clients i).address
  let manager := (s.encryptionManager.setClientIndex encryptionIndex none).removeEncryptionMapping
    env address s.time
  let s := s.setClient i { s.clients i with replayProtection := .reset }
  resetClientSlot { s with
    encryptionManager := manager
    trace := .released i encryptionIndex :: s.trace } i

def disconnectClientInternal (s : Server) (i : Nat) (sendDisconnectPackets : Bool)
    (disconnectReason : DisconnectReason) : Go Server := do
  let s := s.setClient i { s.clients i with disconnectReason := disconnectReason }
  let s ← notify config s i false
  let s ← (if sendDisconnectPackets then
      (List.range numDisconnectPackets).foldlM
        (fun s _ => sendClientPacket env config s .connectionDisconnect i) s
    else some s)
  let encryptionIndex ← (s.clients i).encryptionIndex
  return releaseClient env s i encryptionIndex

def disconnectClient (s : Server) (clientIndex : Int) : Go Server :=
  match s.validSlot clientIndex with
  | none => some s
  | some i =>
    if !(s.clients i).connected then some s
    else if (s.clients i).loopback then some s
    else disconnectClientInternal env config s i true .serverDisconnect

def disconnectAllClients (s : Server) : Go Server :=
  if !s.running then some s
  else s.forEachSlot fun s i =>
    if (s.clients i).connected && !(s.clients i).loopback then
      disconnectClientInternal env config s i true .serverDisconnect
    else some s

def disconnectLoopbackClient (s : Server) (clientIndex : Int) : Go Server :=
  match s.validSlot clientIndex with
  | none => some s
  | some i =>
    if !(s.clients i).connected || !(s.clients i).loopback then some s
    else do
      let s := s.setClient i { s.clients i with disconnectReason := .serverDisconnect }
      let s ← notify config s i false
      return resetClientSlot s i

/-! ### Starting and stopping -/

/-- The end of `Stop`, once every client is gone. -/
def resetServer (s : Server) : Server :=
  { s with
    running := false
    maxClients := 0
    numConnectedClients := 0
    globalSequence := globalSequenceStart
    challengeSequence := 0
    challengeKey := .zero _
    connectTokenEntries := connectTokenEntriesReset
    encryptionManager := .reset
    trace := .stopped :: s.trace }

def stop (s : Server) : Go Server :=
  if !s.running then some s
  else do
    let s ← disconnectAllClients env config s
    let s ← s.forEachSlot fun s i =>
      if (s.clients i).connected && (s.clients i).loopback then disconnectLoopbackClient config s i
      else some s
    return resetServer s

/-- The part of `Start` behind its checks. -/
def startServer (s : Server) (maxClients : Nat) (challengeKey : Key) (reading : UInt64) : Server :=
  { s with
    running := true
    maxClients := maxClients
    numConnectedClients := 0
    globalSequence := globalSequenceStart
    challengeSequence := 0
    challengeKey := challengeKey
    minConnectTokenExpireTimestamp := reading + config.connectTokenLifetime
    clients := fun i => { s.clients i with
      packetQueue := if i < maxClients then .clear else (s.clients i).packetQueue
      disconnectReason := if i < MaxClients then .none else (s.clients i).disconnectReason }
    trace := .started maxClients challengeKey reading :: .clock reading :: s.trace }

/-- `Start`, with the bytes `RandomBytes` gives and its reading of the clock. -/
def start (s : Server) (maxClients : Int) (challengeKey : Key) (reading : UInt64) : Go Server :=
  if maxClients ≤ 0 ∨ (MaxClients : Int) < maxClients then some s
  else do
    let s ← (if s.running then stop env config s else some s)
    return startServer config s maxClients.toNat challengeKey reading

/-! ### The handshake -/

/-- `foundServerAddress`: the token lists one of the server's addresses. -/
def serverAddressListed (s : Server) (token : ConnectTokenPrivate) : Bool :=
  token.serverAddresses.any fun listed =>
    s.address.Equal listed || (s.address2.type ≠ AddressNone && s.address2.Equal listed)

/-- The MAC of the private connect token a request carries. -/
def requestMac (request : ConnectionRequest) : Mac :=
  .copyFrom MacBytes (request.connectTokenData.bytes.drop (connectTokenPrivateBytes - MacBytes))

/-- The end of `processConnectionRequestPacket`: seal a challenge token and send it. -/
def sendChallenge (s : Server) (source : Address) (request : ConnectionRequest)
    (token : ConnectTokenPrivate) : Server :=
  let challenge : ChallengeToken := ⟨token.clientID, token.userData⟩
  let call := encryptChallengeToken env challenge.write s.challengeSequence s.challengeKey
  let packet := Packet.connectionChallenge s.challengeSequence
    (.copyFrom challengeTokenBytes call.ciphertext)
  sendGlobalPacket env config
    { s with
      challengeSequence := s.challengeSequence + 1
      trace := .challenged source request call ::
        .sealed (.challengeToken challenge s.challengeSequence) call :: s.trace }
    packet source token.serverToClientKey

/-- The absolute time until which a mapping waits for its client. -/
def mappingExpireTime (s : Server) (token : ConnectTokenPrivate) : ℚ :=
  if 0 ≤ token.timeoutSeconds then env.float64 (s.time + token.timeoutSeconds.toInt) else -1

/-- `processConnectionRequestPacket` for an entry of the history that admits the request. -/
def admitRequest (s : Server) (source : Address) (request : ConnectionRequest)
    (token : ConnectTokenPrivate) (connectTokenEntryIndex : Nat) : Server :=
  if s.numConnectedClients = s.maxClients then
    sendGlobalPacket env config s .connectionDenied source token.serverToClientKey
  else
    match s.encryptionManager.addEncryptionMapping env source token.serverToClientKey
        token.clientToServerKey s.time (mappingExpireTime env s token) token.timeoutSeconds
        connectTokenEntryIndex with
    | none => s
    | some manager =>
      sendChallenge env config { s with encryptionManager := manager } source request token

/-- The history's answer to a request. -/
@[irreducible] def consult (s : Server) (source : Address) (request : ConnectionRequest)
    (reading : UInt64) : ConnectTokenEntries × Admission :=
  connectTokenEntriesFindOrAdd s.connectTokenEntries source (requestMac request)
    request.connectTokenExpireTimestamp reading s.time

/-- The server after it consulted the history, with a reading of the clock. -/
def noteRequest (s : Server) (source : Address) (request : ConnectionRequest) (reading : UInt64) :
    Server :=
  { s with
    connectTokenEntries := (consult s source request reading).1
    trace := .clock reading :: s.trace }

/-- `processConnectionRequestPacket`, with its own reading of the clock. -/
def processConnectionRequestPacket (s : Server) (source : Address) (request : ConnectionRequest)
    (reading : UInt64) : Go Server := do
  match ← ConnectTokenPrivate.read request.connectTokenData.bytes with
  | none => return s
  | some token =>
    if !s.serverAddressListed token then return s
    else if s.findClientIndexByAddress source ≠ none then return s
    else if s.findClientIndexByID token.clientID ≠ none then return s
    else
      match (consult s source request reading).2 with
      | .historyFull => return noteRequest s source request reading
      | .refused => return noteRequest s source request reading
      | .entry index =>
        return admitRequest env config (noteRequest s source request reading) source request token
          index

/-- `connectClient` up to its first packet. -/
def installClient (s : Server) (i : Nat) (address : Address) (clientID : UInt64)
    (encryptionIndex : Nat) (timeoutSeconds : Int32) (userData : UserData) : Server :=
  let manager := (s.encryptionManager.setExpireTime encryptionIndex (-1)).setClientIndex
    encryptionIndex (some i)
  { s with
    numConnectedClients := s.numConnectedClients + 1
    encryptionManager := manager
    clients := Function.update s.clients i { s.clients i with
      connected := true
      timeout := timeoutSeconds
      encryptionIndex := some encryptionIndex
      clientID := clientID
      sequence := 0
      address := address
      disconnectReason := .none
      lastPacketSendTime := s.time
      lastPacketReceiveTime := s.time
      userData := userData }
    connectTokenEntries :=
      match manager.getConnectTokenEntryIndex (some encryptionIndex) with
      | some index => connectTokenEntriesConsume s.connectTokenEntries index
      | none => s.connectTokenEntries
    trace := .installed i address encryptionIndex (manager.mapping encryptionIndex).sendKey
      (manager.mapping encryptionIndex).receiveKey :: s.trace }

def connectClient (s : Server) (i : Nat) (address : Address) (clientID : UInt64)
    (encryptionIndex : Nat) (timeoutSeconds : Int32) (userData : UserData) : Go Server := do
  let s := installClient s i address clientID encryptionIndex timeoutSeconds userData
  let s ← sendClientPacket env config s (s.keepAlivePacket i) i
  notify config s i true

/-- `processConnectionResponsePacket`. With fewer clients than slots `findFreeClientIndex` finds
one; if it returned `-1`, `connectClient` would index its arrays with it. -/
def processConnectionResponsePacket (s : Server) (source : Address)
    (challengeTokenSequence : UInt64) (challengeTokenData : FixedBytes challengeTokenBytes)
    (encryptionIndex : Option Nat) : Go Server :=
  match decryptChallengeToken env challengeTokenData challengeTokenSequence s.challengeKey with
  | none => some s
  | some call => do
    let s := s.record (.opened .challengeToken call)
    -- the challenge token is opened in place
    match ← ChallengeToken.read (call.plaintext ++
        challengeTokenData.bytes.drop (challengeTokenBytes - MacBytes)) with
    | none => return s
    | some challenge =>
      match encryptionIndex with
      | none => return s
      | some e =>
        let mapping := s.encryptionManager.mapping e
        let s := s.record
          (.responded source challengeTokenSequence mapping.sendKey mapping.receiveKey)
        if s.findClientIndexByAddress source ≠ none then return s
        else if s.findClientIndexByID challenge.clientID ≠ none then return s
        else if s.numConnectedClients = s.maxClients then
          return sendGlobalPacket env config s .connectionDenied source mapping.sendKey
        else
          let i ← s.findFreeClientIndex
          connectClient env config s i source challenge.clientID e mapping.timeout
            challenge.userData

/-! ### Packets -/

/-- The client in a slot was heard from. -/
def confirmClient (s : Server) (i : Nat) : Server :=
  s.setClient i { s.clients i with lastPacketReceiveTime := s.time, confirmed := true }

/-- Push a payload onto a slot's queue; a full queue drops it. -/
def pushPayload (s : Server) (i : Nat) (payload : Bytes) (sequence : UInt64) : Server :=
  let (queue, accepted) := (s.clients i).packetQueue.push payload sequence
  let s := s.setClient i { s.clients i with packetQueue := queue }
  if accepted then s.record (.queued i payload sequence) else s

def processPacketInternal (s : Server) (source : Address) (p : Packet) (sequence : UInt64)
    (encryptionIndex clientIndex : Option Nat) (reading : UInt64) : Go Server :=
  match p, clientIndex with
  | .connectionRequest request, _ =>
    if s.flags &&& serverFlagIgnoreConnectionRequestPackets = 0 then
      processConnectionRequestPacket env config s source request reading
    else some s
  | .connectionResponse challengeTokenSequence challengeTokenData, _ =>
    if s.flags &&& serverFlagIgnoreConnectionResponsePackets = 0 then
      processConnectionResponsePacket env config s source challengeTokenSequence challengeTokenData
        encryptionIndex
    else some s
  | .connectionKeepAlive _ _, some i => some (s.confirmClient i)
  | .connectionPayload payload, some i => some ((s.confirmClient i).pushPayload i payload sequence)
  | .connectionDisconnect, some i =>
    disconnectClientInternal env config s i false .clientDisconnect
  | _, _ => some s

def serverAllowedPackets : PacketType → Bool
  | .request | .response | .keepAlive | .payload | .disconnect => true
  | .denied | .challenge => false

/-- The replay window `readPacket` was given, after it. -/
def setWindow (s : Server) (clientIndex : Option Nat) (window : Option ReplayProtection) : Server :=
  match clientIndex, window with
  | some i, some window => s.setClient i { s.clients i with replayProtection := window }
  | _, _ => s

/-- What `readPacket` opened. -/
def recordReading (s : Server) (source : Address) (reading : UInt64) (opened : Option AeadCall)
    (packet : Option Packet) : Server :=
  match opened, packet with
  | some call, some (.connectionRequest request) =>
    (s.record (.opened .connectToken call)).record (.requested source request reading call)
  | some call, _ => s.record (.opened .packet call)
  | none, _ => s

/-- What `readPacket` did to the server: the replay window it advanced and what it opened. -/
def applyReading (s : Server) (source : Address) (reading : UInt64) (clientIndex : Option Nat)
    (outcome : ReadOutcome) : Server :=
  (s.setWindow clientIndex outcome.replayProtection).recordReading source reading outcome.opened
    outcome.packet

/-- The mapping a datagram is read with: the slot's own for a connected client, else the live one
of the address, which is refreshed. -/
def locateMapping (s : Server) (source : Address) (clientIndex : Option Nat) :
    Option Nat × Server :=
  match clientIndex with
  | some i => ((s.clients i).encryptionIndex, s)
  | none =>
    let (found, manager) := s.encryptionManager.findEncryptionMapping env source s.time
    (found, { s with encryptionManager := manager })

/-- `readAndProcessPacket`. `currentTimestamp` is the reading its batch started with, `reading` the
one a connection request takes. -/
def readAndProcessPacket (s : Server) (source : Address) (packetData : Bytes)
    (currentTimestamp reading : UInt64) : Go Server :=
  let s := s.record (.datagram currentTimestamp source packetData)
  if !s.running then some s
  else if packetData.length ≤ 1 then some s
  else
    let clientIndex := s.findClientIndexByAddress source
    let (encryptionIndex, s) := locateMapping env s source clientIndex
    let readPacketKey := s.encryptionManager.getReceiveKey encryptionIndex
    if readPacketKey = none ∧ packetData.head? ≠ some 0 then some s
    else do
      let outcome ← readPacket env config.protocolID currentTimestamp
        s.minConnectTokenExpireTimestamp serverAllowedPackets packetData readPacketKey
        (some config.privateKey) (clientIndex.map fun i => (s.clients i).replayProtection)
      let s := s.applyReading source currentTimestamp clientIndex outcome
      match outcome.packet with
      | none => return s
      | some packet =>
        processPacketInternal env config s source packet outcome.sequence encryptionIndex
          clientIndex reading

/-- `ProcessPacket`: one datagram with a reading of its own. -/
def processPacket (s : Server) (source : Address) (packetData : Bytes)
    (currentTimestamp reading : UInt64) : Go Server :=
  readAndProcessPacket env config (s.record (.clock currentTimestamp)) source packetData
    currentTimestamp reading

/-- A datagram of a batch, with the reading a connection request in it would take. -/
structure Datagram where
  source : Address
  data : Bytes
  reading : UInt64

/-- `receivePackets`: one reading, then every datagram of the batch. -/
def receivePackets (s : Server) (currentTimestamp : UInt64) (batch : List Datagram) : Go Server :=
  batch.foldlM
    (fun s d => readAndProcessPacket env config s d.source d.data currentTimestamp d.reading)
    (s.record (.clock currentTimestamp))

/-! ### Updating -/

def sendPackets (s : Server) : Go Server :=
  if !s.running then some s
  else s.forEachSlot fun s i =>
    if (s.clients i).connected && !(s.clients i).loopback &&
        env.float64 ((s.clients i).lastPacketSendTime + env.float64 packetSendInterval) ≤ s.time then
      sendClientPacket env config s (s.keepAlivePacket i) i
    else some s

def checkForTimeouts (s : Server) : Go Server :=
  if !s.running then some s
  else s.forEachSlot fun s i =>
    if !(s.clients i).connected then some s
    else if (s.clients i).timeout ≤ 0 then some s
    else if (s.clients i).loopback then some s
    else if env.float64 ((s.clients i).lastPacketReceiveTime + (s.clients i).timeout.toInt)
        ≤ s.time then
      disconnectClientInternal env config s i false .timedOut
    else some s

def update (s : Server) (time : ℚ) (currentTimestamp : UInt64) (batch : List Datagram) :
    Go Server := do
  let s ← receivePackets env config { s with time := time } currentTimestamp batch
  let s ← sendPackets env config s
  checkForTimeouts env config s

/-! ### Payloads -/

/-- `SendPacket` to a client on the network. -/
def sendPayload (s : Server) (i : Nat) (packetData : Bytes) : Go Server := do
  let s ← (if !(s.clients i).confirmed then
      sendClientPacket env config s (s.keepAlivePacket i) i
    else some s)
  sendClientPacket env config (s.record (.submitted i packetData (s.clients i).sequence))
    (.connectionPayload packetData) i

/-- `SendPacket`; without a `SendLoopbackPacketCallback` the call of a nil function panics. -/
def sendPacket (s : Server) (clientIndex : Int) (packetData : Bytes) : Go Server :=
  if packetData.length ≤ 0 ∨ MaxPacketSize < packetData.length then some s
  else match s.validSlot clientIndex with
    | none => some s
    | some i =>
      if !(s.clients i).connected then some s
      else if !(s.clients i).loopback then sendPayload env config s i packetData
      else do
        let callback ← config.sendLoopbackPacketCallback
        let s ← callback i packetData (s.clients i).sequence
          (s.record (.sentLoopback i packetData (s.clients i).sequence))
        return s.setClient i { s.clients i with
          sequence := (s.clients i).sequence + 1
          lastPacketSendTime := s.time }

/-- `ReceivePacket`; the trace has what it returns. -/
def receivePacket (s : Server) (clientIndex : Int) : Server :=
  match s.validSlot clientIndex with
  | none => s
  | some i =>
    if !(s.clients i).connected then s
    else
      let (queue, packet, sequence) := (s.clients i).packetQueue.pop
      let s := s.setClient i { s.clients i with packetQueue := queue }
      match packet with
      | some payload => s.record (.delivered i payload sequence)
      | none => s

/-! ### Loopback clients -/

def connectLoopbackClient (s : Server) (clientIndex : Int) (clientID : UInt64) (userData : Bytes) :
    Go Server :=
  match s.validSlot clientIndex with
  | none => some s
  | some i =>
    if (s.clients i).connected then some s
    else
      let s := { s.setClient i { s.clients i with
          loopback := true
          connected := true
          confirmed := true
          encryptionIndex := none
          clientID := clientID
          sequence := 0
          disconnectReason := .none
          address := Address.none
          lastPacketSendTime := s.time
          lastPacketReceiveTime := s.time
          userData := .copyFrom UserDataBytes userData } with
        numConnectedClients := s.numConnectedClients + 1 }
      notify config s i true

def processLoopbackPacket (s : Server) (clientIndex : Int) (packetData : Bytes)
    (packetSequence : UInt64) : Server :=
  match s.validSlot clientIndex with
  | none => s
  | some i =>
    if !(s.clients i).connected || !(s.clients i).loopback then s
    else if packetData.length ≤ 0 ∨ MaxPacketSize < packetData.length then s
    else (s.setClient i { s.clients i with lastPacketReceiveTime := s.time }).pushPayload i
      packetData packetSequence

end Operations

/-! ### Runs -/

/-- The public calls that change the server, with what each takes from outside. -/
inductive Call where
  | start (maxClients : Int) (challengeKey : Key) (reading : UInt64)
  | stop
  | processPacket (source : Address) (packetData : Bytes) (currentTimestamp reading : UInt64)
  | update (time : ℚ) (currentTimestamp : UInt64) (batch : List Datagram)
  | sendPacket (clientIndex : Int) (packetData : Bytes)
  | receivePacket (clientIndex : Int)
  | disconnectClient (clientIndex : Int)
  | disconnectAllClients
  | connectLoopbackClient (clientIndex : Int) (clientID : UInt64) (userData : Bytes)
  | disconnectLoopbackClient (clientIndex : Int)
  | processLoopbackPacket (clientIndex : Int) (packetData : Bytes) (packetSequence : UInt64)

def step (env : Platform) (config : ServerConfig) (s : Server) : Call → Go Server
  | .start maxClients challengeKey reading => start env config s maxClients challengeKey reading
  | .stop => stop env config s
  | .processPacket source data currentTimestamp reading =>
    processPacket env config s source data currentTimestamp reading
  | .update time currentTimestamp batch => update env config s time currentTimestamp batch
  | .sendPacket clientIndex data => sendPacket env config s clientIndex data
  | .receivePacket clientIndex => some (receivePacket s clientIndex)
  | .disconnectClient clientIndex => disconnectClient env config s clientIndex
  | .disconnectAllClients => disconnectAllClients env config s
  | .connectLoopbackClient clientIndex clientID userData =>
    connectLoopbackClient config s clientIndex clientID userData
  | .disconnectLoopbackClient clientIndex => disconnectLoopbackClient config s clientIndex
  | .processLoopbackPacket clientIndex data sequence =>
    some (processLoopbackPacket s clientIndex data sequence)

/-- The time given to `Update` is a `float64` and does not decrease. -/
def Forward (env : Platform) (s : Server) : Call → Prop
  | .update time _ _ => s.time ≤ time ∧ env.IsFloat64 time
  | _ => True

/-- **A run**: the calls made on a new server, newest first, and the state they lead to. -/
inductive Run (env : Platform) (config : ServerConfig) : List Call → Server → Prop
  | new (address address2 : Address) (time : ℚ) (isFloat : env.IsFloat64 time) :
      Run env config [] (new address address2 time)
  | step {calls : List Call} {s s' : Server} (run : Run env config calls s) (call : Call)
      (forward : Forward env s call)
      (done : step env config s call = some s') : Run env config (call :: calls) s'

end Server

end Netcode
