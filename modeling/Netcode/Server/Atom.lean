/-
**The atomic steps of the server.**

A public call does many things: `Update` reads a batch of datagrams, sends to every slot, times
slots out. Each of these is a few atomic steps, between which the tables of the server agree with
each other. `Micro` lists the steps with the checks the code makes before each of them and with
what the trace shows at that point; `Atom` adds the arrival of a datagram.

An invariant is proved once for each step here, and then holds along every call
(`Netcode.Server.Chain`).
-/

import Netcode.Lib.Trace
import Netcode.Model.Server

namespace Netcode

/-- A `Start` or a `Stop`. -/
def Effect.boundary : Effect → Bool
  | .started _ _ _ => true
  | .stopped => true
  | _ => false

/-- The trace since the last `Start` or `Stop`. -/
def thisRun (trace : List Effect) : List Effect := trace.takeWhile fun effect => !effect.boundary

theorem thisRun_cons {effect : Effect} (inside : effect.boundary = false) (trace : List Effect) :
    thisRun (effect :: trace) = effect :: thisRun trace := by
  simp [thisRun, inside]

theorem thisRun_boundary {effect : Effect} (boundary : effect.boundary = true)
    (trace : List Effect) : thisRun (effect :: trace) = [] := by
  simp [thisRun, boundary]

theorem mem_of_mem_thisRun {effect : Effect} {trace : List Effect}
    (member : effect ∈ thisRun trace) : effect ∈ trace :=
  (List.takeWhile_sublist _).subset member

namespace Server

section Steps

variable (env : Platform) (config : ServerConfig)

/-- The mapping a datagram from `source` is read with. -/
def Located (s : Server) (source : Address) (clientIndex : Option Nat) (e : Nat) : Prop :=
  s.findClientIndexByAddress source = clientIndex ∧
    match clientIndex with
    | some i => (s.clients i).encryptionIndex = some e
    | none => s.encryptionManager.lookup env source s.time = some e

/-- A packet was just opened with the receive key of a mapping. -/
structure PacketOpened (s : Server) (source : Address) (e : Nat) (packet : Packet)
    (sequence : UInt64) (call : AeadCall) : Prop where
  head : ∃ reading data earlier,
    s.trace = .opened .packet call :: .datagram reading source data :: earlier
  key : call.key = (s.encryptionManager.mapping e).receiveKey
  nonce : call.nonce = packetNonce sequence
  decodes : ∃ prefixByte type,
    call.additional = packetAdditionalData config.protocolID prefixByte ∧
      PacketType.ofCode (prefixByte &&& 0xF) = some type ∧
      decodePacket type call.plaintext = some (some packet)

/-- A connection request was just read, and passes the checks before the history. -/
structure Asking (s : Server) (source : Address) (request : ConnectionRequest)
    (token : ConnectTokenPrivate) : Prop where
  running : s.running = true
  head : ∃ reading call earlier, s.trace = .requested source request reading call :: earlier
  reads : ConnectTokenPrivate.read request.connectTokenData.bytes = some (some token)
  listed : s.serverAddressListed token = true
  strangerAddress : s.findClientIndexByAddress source = none
  strangerID : s.findClientIndexByID token.clientID = none

/-- A connection request of this run with a token for this server. -/
structure Presented (s : Server) (source : Address) (request : ConnectionRequest)
    (token : ConnectTokenPrivate) : Prop where
  requested : ∃ reading call, .requested source request reading call ∈ thisRun s.trace
  reads : ConnectTokenPrivate.read request.connectTokenData.bytes = some (some token)
  listed : s.serverAddressListed token = true

/-- A connection response was just processed up to the choice of a slot. -/
structure Responding (s : Server) (source : Address) (e : Nat) (challenge : ChallengeToken)
    (challengeTokenSequence : UInt64) (call : AeadCall) : Prop where
  running : s.running = true
  head : ∃ packetCall reading data earlier,
    s.trace = .responded source challengeTokenSequence (s.encryptionManager.mapping e).sendKey
        (s.encryptionManager.mapping e).receiveKey :: .opened .challengeToken call ::
        .opened .packet packetCall :: .datagram reading source data :: earlier ∧
      packetCall.key = (s.encryptionManager.mapping e).receiveKey
  opens : ∃ data, decryptChallengeToken env data challengeTokenSequence s.challengeKey = some call ∧
    ChallengeToken.read (call.plaintext ++ data.bytes.drop (challengeTokenBytes - MacBytes)) =
      some (some challenge)

/-- The packets a connected client is sent, and what is noted before. -/
inductive SendsTo (s : Server) (i : Nat) : Packet → List Effect → Prop
  | keepAlive : SendsTo s i (s.keepAlivePacket i) []
  | disconnect : SendsTo s i .connectionDisconnect []
  | payload (payload : Bytes) :
      SendsTo s i (.connectionPayload payload) [.submitted i payload (s.clients i).sequence]

/-- **A step that changes one slot and no table**: the slot after it and what the trace shows. -/
inductive LocalChange (s : Server) (i : Nat) : ClientSlot → List Effect → Prop
  | reason (reason : DisconnectReason) :
      LocalChange s i { s.clients i with disconnectReason := reason } []
  | hear : LocalChange s i
      { s.clients i with lastPacketReceiveTime := s.time, confirmed := true } []
  | hearLoopback (loopback : (s.clients i).loopback = true) :
      LocalChange s i { s.clients i with lastPacketReceiveTime := s.time } []
  | push (payload : Bytes) (sequence : UInt64)
      (origin : (s.clients i).loopback = true ∨ ∃ source e call,
        s.findClientIndexByAddress source = some i ∧ (s.clients i).encryptionIndex = some e ∧
          PacketOpened config s source e (.connectionPayload payload) sequence call) :
      LocalChange s i
        { s.clients i with packetQueue := ((s.clients i).packetQueue.push payload sequence).1 }
        (if ((s.clients i).packetQueue.push payload sequence).2 then [.queued i payload sequence]
          else [])
  | deliver (connected : (s.clients i).connected = true) :
      LocalChange s i { s.clients i with packetQueue := (s.clients i).packetQueue.pop.1 }
        (match (s.clients i).packetQueue.pop.2.1 with
          | some payload => [.delivered i payload (s.clients i).packetQueue.pop.2.2]
          | none => [])
  | sendLoopback (payload : Bytes) (connected : (s.clients i).connected = true)
      (loopback : (s.clients i).loopback = true) :
      LocalChange s i
        { s.clients i with
          sequence := (s.clients i).sequence + 1
          lastPacketSendTime := s.time }
        [.sentLoopback i payload (s.clients i).sequence]

/-- The slot of a loopback client that has just been connected. -/
def loopbackSlot (s : Server) (i : Nat) (clientID : UInt64) (userData : Bytes) : ClientSlot :=
  { s.clients i with
    loopback := true
    connected := true
    confirmed := true
    encryptionIndex := none
    clientID := clientID
    sequence := 0
    disconnectReason := .none
    address := Address.none
    lastPacketSendTime := s.time
    lastPacketReceiveTime := s.time
    userData := .copyFrom UserDataBytes userData }

/-- **One atomic step.** -/
inductive Micro : Server → Server → Prop
  | tick (s : Server) (time : ℚ) (forward : s.time ≤ time) (isFloat : env.IsFloat64 time) :
      Micro s { s with time := time }
  | clock (s : Server) (reading : UInt64) : Micro s (s.record (.clock reading))
  | refresh (s : Server) (source : Address) (e : Nat)
      (stranger : s.findClientIndexByAddress source = none)
      (found : s.encryptionManager.lookup env source s.time = some e) :
      Micro s { s with encryptionManager := s.encryptionManager.access e s.time }
  | openRequest (s : Server) (source : Address) (reading : UInt64) (data : Bytes)
      (request : ConnectionRequest) (call : AeadCall) (key : Option Key)
      (window : Option ReplayProtection) (running : s.running = true)
      (head : ∃ earlier, s.trace = .datagram reading source data :: earlier)
      (reads : ReadsAs env config.protocolID reading s.minConnectTokenExpireTimestamp
        serverAllowedPackets data key (some config.privateKey) window
        ⟨some (.connectionRequest request), 0, window, some call⟩) :
      Micro s ((s.record (.opened .connectToken call)).record
        (.requested source request reading call))
  | openPacket (s : Server) (source : Address) (reading : UInt64) (data : Bytes)
      (clientIndex : Option Nat) (e : Nat) (outcome : ReadOutcome) (call : AeadCall)
      (running : s.running = true)
      (head : ∃ earlier, s.trace = .datagram reading source data :: earlier)
      (located : Located env s source clientIndex e)
      (reads : ReadsAs env config.protocolID reading s.minConnectTokenExpireTimestamp
        serverAllowedPackets data (some (s.encryptionManager.mapping e).receiveKey)
        (some config.privateKey) (clientIndex.map fun i => (s.clients i).replayProtection) outcome)
      (isOpened : outcome.opened = some call)
      (notRequest : ∀ request, outcome.packet ≠ some (.connectionRequest request)) :
      Micro s (s.applyReading source reading clientIndex outcome)
  | respond (s : Server) (source : Address) (clientIndex : Option Nat) (e : Nat)
      (sequence challengeTokenSequence : UInt64) (data : FixedBytes challengeTokenBytes)
      (packetCall call : AeadCall) (located : Located env s source clientIndex e)
      (packet : PacketOpened config s source e (.connectionResponse challengeTokenSequence data)
        sequence packetCall)
      (opens : decryptChallengeToken env data challengeTokenSequence s.challengeKey = some call) :
      Micro s ((s.record (.opened .challengeToken call)).record
        (.responded source challengeTokenSequence (s.encryptionManager.mapping e).sendKey
          (s.encryptionManager.mapping e).receiveKey))
  | deny (s : Server) (destination : Address) (key : Key) (running : s.running = true)
      (owner : (∃ request token, Presented s destination request token ∧
          key = token.serverToClientKey) ∨
        ∃ e, s.encryptionManager.lookup env destination s.time = some e ∧
          key = (s.encryptionManager.mapping e).sendKey) :
      Micro s (sendGlobalPacket env config s .connectionDenied destination key)
  | ask (s : Server) (source : Address) (request : ConnectionRequest)
      (token : ConnectTokenPrivate) (reading : UInt64) (asking : Asking s source request token) :
      Micro s (noteRequest s source request reading)
  | grant (s : Server) (source : Address) (request : ConnectionRequest)
      (token : ConnectTokenPrivate) (reading : UInt64) (index : Nat) (manager : EncryptionManager)
      (asking : Asking s source request token)
      (admits : (consult s source request reading).2 = .entry index)
      (room : s.numConnectedClients ≠ s.maxClients)
      (added : s.encryptionManager.addEncryptionMapping env source token.serverToClientKey
        token.clientToServerKey s.time (mappingExpireTime env s token) token.timeoutSeconds index =
          some manager) :
      Micro s { noteRequest s source request reading with encryptionManager := manager }
  | issue (s : Server) (source : Address) (request : ConnectionRequest)
      (token : ConnectTokenPrivate) (running : s.running = true)
      (presented : Presented s source request token) :
      Micro s (sendChallenge env config s source request token)
  | install (s : Server) (source : Address) (e i : Nat) (challenge : ChallengeToken)
      (challengeTokenSequence : UInt64) (call : AeadCall)
      (responding : Responding env s source e challenge challengeTokenSequence call)
      (strangerAddress : s.findClientIndexByAddress source = none)
      (strangerID : s.findClientIndexByID challenge.clientID = none)
      (found : s.encryptionManager.lookup env source s.time = some e)
      (free : s.findFreeClientIndex = some i) :
      Micro s (installClient s i source challenge.clientID e
        (s.encryptionManager.mapping e).timeout challenge.userData)
  | send (s : Server) (p : Packet) (i e : Nat) (note : List Effect)
      (connected : (s.clients i).connected = true) (network : (s.clients i).loopback = false)
      (mapped : (s.clients i).encryptionIndex = some e) (kind : SendsTo s i p note) :
      Micro s (writeToClient env config
        { s with
          encryptionManager := s.encryptionManager.access e s.time
          trace := note ++ s.trace }
        p i (s.encryptionManager.mapping e).sendKey)
  | release (s : Server) (i e : Nat) (connected : (s.clients i).connected = true)
      (network : (s.clients i).loopback = false)
      (mapped : (s.clients i).encryptionIndex = some e) : Micro s (releaseClient env s i e)
  | change (s : Server) (i : Nat) (slot : ClientSlot) (effects : List Effect)
      (change : LocalChange config s i slot effects) :
      Micro s { s.setClient i slot with trace := effects ++ s.trace }
  | connectLoopback (s : Server) (i : Nat) (clientID : UInt64) (userData : Bytes)
      (small : i < s.maxClients) (free : (s.clients i).connected = false) :
      Micro s { s.setClient i (loopbackSlot s i clientID userData) with
        numConnectedClients := s.numConnectedClients + 1 }
  | disconnectLoopback (s : Server) (i : Nat) (connected : (s.clients i).connected = true)
      (loopback : (s.clients i).loopback = true) : Micro s (resetClientSlot s i)
  | reset (s : Server) (gone : ∀ i < s.maxClients, (s.clients i).connected = false) :
      Micro s (resetServer s)
  | start (s : Server) (maxClients : Nat) (challengeKey : Key) (reading : UInt64)
      (idle : s.running = false) (positive : 0 < maxClients) (small : maxClients ≤ MaxClients) :
      Micro s (startServer config s maxClients challengeKey reading)

/-- An atomic step, or the arrival of a datagram. -/
inductive Atom : Server → Server → Prop
  | arrive (s : Server) (reading : UInt64) (source : Address) (data : Bytes) :
      Atom s (s.record (.datagram reading source data))
  | micro {s s' : Server} (micro : Micro env config s s') : Atom s s'

end Steps

end Server

end Netcode
