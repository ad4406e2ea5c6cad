/-
**The client.**

`client.go`: the connection state machine of a client, from `Connect` over request and response to
connected, with the fallback to the token's next server, timeouts, payloads and loopback mode. As for
the server, a call is a function from the state before it to the state after it, or a Go run-time
panic (`none`); datagrams and clock readings are inputs of the call, and `trace` keeps what the
client does, newest first. No function reads the trace.

Sockets and the client's own address are left out: they only say where bytes go.
-/

import Netcode.Model.Packet

namespace Netcode

/-! ### State -/

/-- The client states; `code` is the number the source gives each. -/
inductive ClientState where
  | connectTokenExpired
  | invalidConnectToken
  | connectionTimedOut
  | connectionResponseTimedOut
  | connectionRequestTimedOut
  | connectionDenied
  | disconnected
  | sendingConnectionRequest
  | sendingConnectionResponse
  | connected
  deriving DecidableEq

def ClientState.code : ClientState → Int
  | .connectTokenExpired => -6
  | .invalidConnectToken => -5
  | .connectionTimedOut => -4
  | .connectionResponseTimedOut => -3
  | .connectionRequestTimedOut => -2
  | .connectionDenied => -1
  | .disconnected => 0
  | .sendingConnectionRequest => 1
  | .sendingConnectionResponse => 2
  | .connected => 3

/-- One entry of the client's trace. -/
inductive ClientEffect where
  /-- `Connect` accepted a token. -/
  | connecting (token : ConnectToken)
  /-- `setState`. -/
  | state (next : ClientState)
  /-- `readPacket` opened a datagram. -/
  | opened (source : Address) (call : AeadCall)
  | sealed (packet : Packet) (sequence : UInt64) (call : AeadCall)
  | sent (destination : Address) (data : Bytes)
  | submitted (payload : Bytes) (sequence : UInt64)
  | queued (payload : Bytes) (sequence : UInt64)
  | delivered (payload : Bytes) (sequence : UInt64)
  | sentLoopback (payload : Bytes) (sequence : UInt64)
  deriving DecidableEq

structure Client where
  state : ClientState
  time : ℚ
  connectStartTime : ℚ
  lastPacketSendTime : ℚ
  lastPacketReceiveTime : ℚ
  shouldDisconnect : Bool
  shouldDisconnectState : ClientState
  sequence : UInt64
  clientIndex : Int
  maxClients : Int
  serverAddressIndex : Nat
  serverAddress : Address
  connectToken : ConnectToken
  readPacketKey : Key
  writePacketKey : Key
  hasPacketKeys : Bool
  replayProtection : ReplayProtection
  packetReceiveQueue : PacketQueue
  challengeTokenSequence : UInt64
  challengeTokenData : FixedBytes challengeTokenBytes
  loopback : Bool
  trace : List ClientEffect

structure ClientConfig where
  stateChangeCallback : Option (ClientState → ClientState → Client → Go Client)
  sendLoopbackPacketCallback : Option (Int → Bytes → UInt64 → Client → Go Client)

/-- **The callbacks do not call back into the client.** -/
structure ClientConfig.NonReentrant (config : ClientConfig) : Prop where
  stateChange : ∀ callback, config.stateChangeCallback = some callback →
    ∀ previous current c, callback previous current c = some c
  sendLoopback : ∀ callback, config.sendLoopbackPacketCallback = some callback →
    ∀ clientIndex payload sequence c, callback clientIndex payload sequence c = some c

namespace Client

/-- `NewClientDual`, on parsed addresses. -/
def new (time : ℚ) : Client :=
  { state := .disconnected
    time := time
    connectStartTime := 0
    lastPacketSendTime := -1000
    lastPacketReceiveTime := -1000
    shouldDisconnect := false
    shouldDisconnectState := .disconnected
    sequence := 0
    clientIndex := 0
    maxClients := 0
    serverAddressIndex := 0
    serverAddress := Address.none
    connectToken := .empty
    readPacketKey := .zero _
    writePacketKey := .zero _
    hasPacketKeys := false
    replayProtection := .reset
    packetReceiveQueue := .clear
    challengeTokenSequence := 0
    challengeTokenData := .zero _
    loopback := false
    trace := [] }

section Operations

variable (env : Platform) (config : ClientConfig)

/-- `setState`: the callback sees the client before the change. -/
def setState (c : Client) (clientState : ClientState) : Go Client := do
  let c ← (match config.stateChangeCallback with
    | some callback => callback c.state clientState c
    | none => some c)
  return { c with state := clientState, trace := .state clientState :: c.trace }

def resetBeforeNextConnect (c : Client) : Client :=
  { c with
    connectStartTime := c.time
    lastPacketSendTime := env.float64 (c.time - 1)
    lastPacketReceiveTime := c.time
    shouldDisconnect := false
    shouldDisconnectState := .disconnected
    challengeTokenSequence := 0
    challengeTokenData := .zero _
    replayProtection := .reset }

/-- `resetConnectionData` up to its `setState`. -/
def clearConnection (c : Client) : Client :=
  { c with
    sequence := 0
    loopback := false
    clientIndex := 0
    maxClients := 0
    connectStartTime := 0
    serverAddressIndex := 0
    serverAddress := Address.none
    connectToken := .empty
    readPacketKey := .zero _
    writePacketKey := .zero _
    hasPacketKeys := false }

def resetConnectionData (c : Client) (clientState : ClientState) : Go Client := do
  let c ← setState config (clearConnection c) clientState
  return { resetBeforeNextConnect env c with packetReceiveQueue := .clear }

/-! ### Sending -/

/-- The AEAD call of a packet, which a connection request does not have. -/
def sealing (p : Packet) (sequence : UInt64) (writePacketKey : Key) (protocolID : UInt64) :
    List ClientEffect :=
  match p with
  | .connectionRequest _ => []
  | p => [.sealed p sequence (sealPacket env p sequence writePacketKey protocolID)]

/-- `sendPacketToServerInternal`; a connection request takes a sequence number like any packet. -/
def sendPacketToServerInternal (c : Client) (p : Packet) : Client :=
  { c with
    sequence := c.sequence + 1
    lastPacketSendTime := c.time
    trace := .sent c.serverAddress
        (writePacket env p c.sequence c.writePacketKey c.connectToken.protocolID) ::
      sealing env p c.sequence c.writePacketKey c.connectToken.protocolID ++ c.trace }

/-- The request made from the connect token. -/
def requestPacket (c : Client) : Packet :=
  .connectionRequest
    { versionInfo := versionInfo
      protocolID := c.connectToken.protocolID
      connectTokenExpireTimestamp := c.connectToken.expireTimestamp
      connectTokenNonce := c.connectToken.nonce
      connectTokenData := c.connectToken.privateData }

def sendPackets (c : Client) : Client :=
  if c.time ≤ env.float64 (c.lastPacketSendTime + env.float64 packetSendInterval) then c
  else match c.state with
    | .sendingConnectionRequest => sendPacketToServerInternal env c c.requestPacket
    | .sendingConnectionResponse =>
      sendPacketToServerInternal env c
        (.connectionResponse c.challengeTokenSequence c.challengeTokenData)
    | .connected => sendPacketToServerInternal env c (.connectionKeepAlive 0 0)
    | _ => c

/-! ### Connecting and disconnecting -/

def disconnectInternal (c : Client) (destinationState : ClientState)
    (sendDisconnectPackets : Bool) : Go Client :=
  if c.state.code ≤ ClientState.disconnected.code ∨ c.state = destinationState then some c
  else
    let c := if !c.loopback && sendDisconnectPackets then
        (List.range numDisconnectPackets).foldl
          (fun c _ => sendPacketToServerInternal env c .connectionDisconnect) c
      else c
    resetConnectionData env config c destinationState

def disconnect (c : Client) : Go Client := disconnectInternal env config c .disconnected true

/-- `Connect` once the token was read: its keys, and its first server. -/
def beginConnect (c : Client) (token : ConnectToken) (serverAddress : Address) : Client :=
  resetBeforeNextConnect env { c with
    serverAddressIndex := 0
    serverAddress := serverAddress
    readPacketKey := token.serverToClientKey
    writePacketKey := token.clientToServerKey
    hasPacketKeys := true
    trace := .connecting token :: c.trace }

def connect (c : Client) (connectTokenData : Bytes) : Go Client := do
  let c ← disconnect env config c
  let (token, good) ← c.connectToken.read connectTokenData
  let c := { c with connectToken := token }
  if !good then setState config c .invalidConnectToken
  else
    let serverAddress ← token.serverAddresses[0]?
    setState config (beginConnect env c token serverAddress) .sendingConnectionRequest

/-- `connectToNextServer`; `none` is its `false`. -/
def connectToNextServer (c : Client) : Go (Option Client) :=
  if c.connectToken.numServerAddresses ≤ c.serverAddressIndex + 1 then some none
  else do
    let serverAddress ← c.connectToken.serverAddresses[c.serverAddressIndex + 1]?
    let c ← setState config (resetBeforeNextConnect env { c with
      serverAddressIndex := c.serverAddressIndex + 1
      serverAddress := serverAddress }) .sendingConnectionRequest
    return some c

/-! ### Packets -/

/-- Push a payload onto the receive queue; a full queue drops it. -/
def pushPayload (c : Client) (payload : Bytes) (sequence : UInt64) : Client :=
  let (queue, accepted) := c.packetReceiveQueue.push payload sequence
  { c with
    packetReceiveQueue := queue
    trace := if accepted then .queued payload sequence :: c.trace else c.trace }

def processPacketInternal (c : Client) (source : Address) (p : Packet) (sequence : UInt64) :
    Go Client :=
  match p with
  | .connectionDenied =>
    if (c.state = .sendingConnectionRequest ∨ c.state = .sendingConnectionResponse) ∧
        source.Equal c.serverAddress then
      some { c with
        shouldDisconnect := true
        shouldDisconnectState := .connectionDenied
        lastPacketReceiveTime := c.time }
    else some c
  | .connectionChallenge challengeTokenSequence challengeTokenData =>
    if c.state = .sendingConnectionRequest ∧ source.Equal c.serverAddress then
      setState config { c with
        challengeTokenSequence := challengeTokenSequence
        challengeTokenData := challengeTokenData
        lastPacketReceiveTime := c.time } .sendingConnectionResponse
    else some c
  | .connectionKeepAlive clientIndex maxClients =>
    if source.Equal c.serverAddress then
      match c.state with
      | .connected => some { c with lastPacketReceiveTime := c.time }
      | .sendingConnectionResponse =>
        setState config { c with
          lastPacketReceiveTime := c.time
          clientIndex := clientIndex.toInt
          maxClients := maxClients.toInt } .connected
      | _ => some c
    else some c
  | .connectionPayload payload =>
    if c.state = .connected ∧ source.Equal c.serverAddress then
      some { c.pushPayload payload sequence with lastPacketReceiveTime := c.time }
    else some c
  | .connectionDisconnect =>
    if c.state = .connected ∧ source.Equal c.serverAddress then
      some { c with
        shouldDisconnect := true
        shouldDisconnectState := .disconnected
        lastPacketReceiveTime := c.time }
    else some c
  | _ => some c

def clientAllowedPackets : PacketType → Bool
  | .denied | .challenge | .keepAlive | .payload | .disconnect => true
  | .request | .response => false

/-- What `readPacket` did to the client: the replay window it advanced and what it opened. -/
def applyReading (c : Client) (source : Address) (outcome : ReadOutcome) : Client :=
  { c with
    replayProtection := outcome.replayProtection.getD c.replayProtection
    trace := match outcome.opened with
      | some call => .opened source call :: c.trace
      | none => c.trace }

/-- `ProcessPacket`, with its reading of the clock. -/
def processPacket (c : Client) (source : Address) (packetData : Bytes) (currentTimestamp : UInt64) :
    Go Client := do
  let readPacketKey := if c.hasPacketKeys then some c.readPacketKey else none
  let outcome ← readPacket env c.connectToken.protocolID currentTimestamp 0 clientAllowedPackets
    packetData readPacketKey none (some c.replayProtection)
  let c := c.applyReading source outcome
  match outcome.packet with
  | none => return c
  | some packet => processPacketInternal config c source packet outcome.sequence

/-- A datagram the client receives, with the reading of the clock it is processed at. -/
structure Datagram where
  source : Address
  data : Bytes
  currentTimestamp : UInt64

def receivePackets (c : Client) (batch : List Datagram) : Go Client :=
  batch.foldlM (fun c d => processPacket env config c d.source d.data d.currentTimestamp) c

/-! ### Updating -/

/-- The client gives up on this server: the next one, or the end of the connection process. -/
def connectToNextServerOrDisconnect (c : Client) (destinationState : ClientState) : Go Client := do
  match ← connectToNextServer env config c with
  | some c => return c
  | none => disconnectInternal env config c destinationState false

/-- Nothing was heard from the server for longer than the token's timeout. -/
def timedOut (c : Client) : Bool :=
  0 < c.connectToken.timeoutSeconds &&
    env.float64 (c.lastPacketReceiveTime + c.connectToken.timeoutSeconds.toInt) < c.time

/-- `Update` behind the packets it receives and sends. -/
def checkTimeouts (c : Client) : Go Client :=
  if ClientState.disconnected.code < c.state.code ∧ c.state.code < ClientState.connected.code ∧
      env.float64 (c.connectToken.expireTimestamp - c.connectToken.createTimestamp).toNat ≤
        env.float64 (c.time - c.connectStartTime) then
    disconnectInternal env config c .connectTokenExpired false
  else if c.shouldDisconnect then
    connectToNextServerOrDisconnect env config c c.shouldDisconnectState
  else match c.state with
    | .sendingConnectionRequest =>
      if c.timedOut env then connectToNextServerOrDisconnect env config c .connectionRequestTimedOut
      else some c
    | .sendingConnectionResponse =>
      if c.timedOut env then connectToNextServerOrDisconnect env config c .connectionResponseTimedOut
      else some c
    | .connected =>
      if c.timedOut env then disconnectInternal env config c .connectionTimedOut false
      else some c
    | _ => some c

def update (c : Client) (time : ℚ) (batch : List Datagram) : Go Client :=
  let c := { c with time := time }
  if c.loopback then some c
  else do
    let c ← receivePackets env config c batch
    checkTimeouts env config (sendPackets env c)

/-! ### Payloads -/

/-- `SendPacket`; without a `SendLoopbackPacketCallback` the call of a nil function panics. -/
def sendPacket (c : Client) (packetData : Bytes) : Go Client :=
  if packetData.length ≤ 0 ∨ MaxPacketSize < packetData.length then some c
  else if c.state ≠ .connected then some c
  else if !c.loopback then
    some (sendPacketToServerInternal env
      { c with trace := .submitted packetData c.sequence :: c.trace } (.connectionPayload packetData))
  else do
    let callback ← config.sendLoopbackPacketCallback
    let c ← callback c.clientIndex packetData c.sequence
      { c with trace := .sentLoopback packetData c.sequence :: c.trace }
    return { c with sequence := c.sequence + 1 }

/-- `ReceivePacket`; the trace has what it returns. -/
def receivePacket (c : Client) : Client :=
  let (queue, packet, sequence) := c.packetReceiveQueue.pop
  { c with
    packetReceiveQueue := queue
    trace := match packet with
      | some payload => .delivered payload sequence :: c.trace
      | none => c.trace }

/-! ### Loopback -/

def connectLoopback (c : Client) (clientIndex maxClients : Int) : Client :=
  { c with
    state := .connected
    clientIndex := clientIndex
    maxClients := maxClients
    loopback := true }

def disconnectLoopback (c : Client) : Go Client := resetConnectionData env config c .disconnected

def processLoopbackPacket (c : Client) (packetData : Bytes) (packetSequence : UInt64) : Client :=
  if !c.loopback then c
  else if packetData.length ≤ 0 ∨ MaxPacketSize < packetData.length then c
  else c.pushPayload packetData packetSequence

def close (c : Client) : Go Client := do
  let c ← (if !c.loopback then disconnect env config c else disconnectLoopback env config c)
  return { c with packetReceiveQueue := .clear }

end Operations

/-! ### Runs -/

/-- The public calls that change the client, with what each takes from outside. -/
inductive Call where
  | connect (connectTokenData : Bytes)
  | update (time : ℚ) (batch : List Datagram)
  | processPacket (source : Address) (packetData : Bytes) (currentTimestamp : UInt64)
  | sendPacket (packetData : Bytes)
  | receivePacket
  | disconnect
  | connectLoopback (clientIndex maxClients : Int)
  | disconnectLoopback
  | processLoopbackPacket (packetData : Bytes) (packetSequence : UInt64)
  | close

def step (env : Platform) (config : ClientConfig) (c : Client) : Call → Go Client
  | .connect connectTokenData => connect env config c connectTokenData
  | .update time batch => update env config c time batch
  | .processPacket source packetData currentTimestamp =>
    processPacket env config c source packetData currentTimestamp
  | .sendPacket packetData => sendPacket env config c packetData
  | .receivePacket => some c.receivePacket
  | .disconnect => disconnect env config c
  | .connectLoopback clientIndex maxClients => some (c.connectLoopback clientIndex maxClients)
  | .disconnectLoopback => disconnectLoopback env config c
  | .processLoopbackPacket packetData packetSequence =>
    some (c.processLoopbackPacket packetData packetSequence)
  | .close => close env config c

/-- **A run**: the calls made on a new client, newest first, and the state they lead to. -/
inductive Run (env : Platform) (config : ClientConfig) : List Call → Client → Prop
  | new (time : ℚ) : Run env config [] (new time)
  | step {calls : List Call} {c c' : Client} (run : Run env config calls c) (call : Call)
      (done : step env config c call = some c') : Run env config (call :: calls) c'

end Client

end Netcode
