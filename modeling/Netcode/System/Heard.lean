/-
**Genuine packets are heard.**

A replay window is moved by packets that open, and under the keys of a token nothing opens but what
the two parties sealed. So nobody else can make a party deaf: whatever the network has done before, a
packet of the client that the server has not opened yet is heard when it arrives, unless 256 or more
later packets of the client were sent before.

* `Client.Run.sealable`, `Client.Run.unusedTokens` — what a client seals in its one connection;
* `opened_by_server` — what moves the window of a slot was sealed by its client;
* `client_packets_heard` — **the first arrival of a packet of the client does what the packet is for**:
  a keep-alive keeps the client connected, a payload is queued, a disconnect packet frees the slot;
* `disconnect_packet_frees_slot` — **any one of the ten packets of `Disconnect` frees the slot**.
-/

import Netcode.Client.Outgoing
import Netcode.Server.Independence
import Netcode.Server.Windows
import Netcode.System.Delivery

namespace Netcode

open Trace

/-! ### What the client sealed -/

namespace Client

variable {env : Platform} {config : ClientConfig} {c c' : Client} {token : ConnectToken}

/-- What one step seals. -/
theorem SendStep.seals {p : Packet} {n : UInt64} {call : AeadCall} (step : SendStep env c c')
    (member : .sealed p n call ∈ c'.trace) : .sealed p n call ∈ c.trace ∨ p.Sealable := by
  cases step with
  | quiet new trace none =>
    rw [trace] at member
    rcases List.mem_append.mp member with isNew | old
    · cases List.all_eq_true.mp none _ isNew
    · exact .inl old
  | send q note sending kind =>
    rw [sendPacketToServerInternal_trace] at member
    rcases List.mem_append.mp member with isNew | old
    · right
      cases kind with
      | request => simp [sealing, requestPacket] at isNew
      | payload payload state nonempty small =>
        obtain ⟨rfl, -⟩ : p = .connectionPayload payload ∧ _ := by simpa [sealing] using isNew
        exact ⟨nonempty, small⟩
      | response | keepAlive | disconnect =>
        obtain ⟨rfl, -⟩ : p = _ ∧ _ := by simpa [sealing] using isNew
        trivial
    · exact .inl old
  | begin token trace =>
    rw [trace] at member
    exact .inl (by simpa using member)

/-- **The client seals only packets that fit.** -/
theorem Run.sealable {calls : List Call} (quiet : config.NonReentrant) (run : Run env config calls c) :
    ∀ p n call, .sealed p n call ∈ c.trace → p.Sealable :=
  (Run.along (fun _ => True)
    (fun c => c.LoopbackConnected ∧ ∀ p n call, .sealed p n call ∈ c.trace → p.Sealable) quiet
    (fun _ _ _ met => met)
    (fun time => ⟨fun loopback => (by cases loopback), fun _ _ _ member => by cases member⟩)
    (fun _ _ _ micro _ held => ⟨micro.loopbackConnected held.1, fun p n call member =>
      ((micro.sendStep held.1).seals member).elim (held.2 p n call) id⟩) run trivial).2

/-- **A client that connects once** takes up its token before it seals anything. -/
theorem Run.unusedTokens {calls : List Call} (quiet : config.NonReentrant)
    (single : token.numServerAddresses = 1) (run : Run env config calls c)
    (once : ConnectsOnce token c.trace) : UnusedTokens c.trace := by
  refine (Run.along (ConnectsOnce token) (fun c => c.LoopbackConnected ∧ FirstConnection env token c ∧
    UnusedTokens c.trace) quiet (fun _ _ suffix met => met.of_suffix suffix)
    (fun time => ⟨fun loopback => (by cases loopback), .new env token time, trivial⟩)
    (fun _ d d' micro met held => ⟨micro.loopbackConnected held.1,
      held.2.1.micro held.1 single micro met, ?_⟩) run once).2.2
  have takesNone : ∀ {new : List ClientEffect}, connections new = [] →
      UnusedTokens (new ++ d.trace) := by
    intro new none
    refine held.2.2.append fun effect member earlier taken isTaken => ?_
    rw [List.filterMap_eq_nil_iff.mp none effect member] at isTaken
    cases isTaken
  cases micro.sendStep held.1 with
  | quiet new trace none =>
    rw [trace]
    refine takesNone ?_
    have same := connections_unsent none []
    rwa [List.append_nil] at same
  | send p note sending kind =>
    rw [sendPacketToServerInternal_trace]
    refine takesNone ?_
    cases kind <;> rfl
  | begin taken trace =>
    rw [trace] at met ⊢
    obtain ⟨-, none⟩ := ConnectsOnce.first (met.of_suffix (List.suffix_cons _ _))
    refine ⟨fun token' isTaken => (by cases isTaken), fun token' isTaken used member => ?_, held.2.2⟩
    obtain ⟨effect, inTrace, isUsed⟩ := List.mem_filterMap.mp member
    split at isUsed
    · exact absurd inTrace ((held.2.1.idle none).2 _ _ _)
    · cases isUsed

/-- **A key and a number stand for one packet.** -/
theorem Nonces.same_call {p q : Packet} {n : UInt64} {call call' : AeadCall} (inv : Nonces c)
    (member : .sealed p n call ∈ c.trace) (member' : .sealed q n call' ∈ c.trace)
    (key : call.key = call'.key) : call = call' := by
  cases eq_of_read_once inv.unique member member' rfl (by rw [key])
  rfl

/-! ### Saying goodbye -/

/-- The packet number `j` of those `Disconnect` sends. -/
def farewell (env : Platform) (c : Client) (j : Nat) : List ClientEffect :=
  [.sent c.serverAddress (writePacket env .connectionDisconnect (c.sequence + .ofNat j) c.writePacketKey
      c.connectToken.protocolID),
    .sealed .connectionDisconnect (c.sequence + .ofNat j) (sealPacket env .connectionDisconnect
      (c.sequence + .ofNat j) c.writePacketKey c.connectToken.protocolID)]

/-- The packets of `Disconnect` take the next numbers. -/
theorem sendDisconnects_eq (env : Platform) (c : Client) (count : Nat) : ∃ last,
    (List.range count).foldl (fun c _ => sendPacketToServerInternal env c .connectionDisconnect) c =
      { c with
        sequence := c.sequence + .ofNat count
        lastPacketSendTime := last
        trace := (List.range count).reverse.flatMap (farewell env c) ++ c.trace } := by
  induction count with
  | zero => exact ⟨c.lastPacketSendTime, by simp⟩
  | succ count ih =>
    obtain ⟨last, soFar⟩ := ih
    refine ⟨c.time, ?_⟩
    rw [List.range_succ, List.foldl_append, soFar]
    simp [sendPacketToServerInternal, sealing, farewell, UInt64.ofNat_add, UInt64.add_assoc]

/-- **What `Disconnect` leaves**: the client is disconnected, and said goodbye ten times. -/
theorem disconnect_sending (quiet : config.NonReentrant) (sending : c.Sending)
    (leaves : disconnect env config c = some c') : c'.state = .disconnected ∧
      c'.trace = .state .disconnected ::
        ((List.range numDisconnectPackets).reverse.flatMap (farewell env c) ++ c.trace) := by
  have active : ¬ (c.state.code ≤ ClientState.disconnected.code ∨ c.state = .disconnected) := by
    rintro (low | same)
    · exact absurd sending.1 (not_lt.mpr low)
    · exact absurd sending.1 (by rw [Active, same]; exact lt_irrefl _)
  obtain ⟨last, sends⟩ := sendDisconnects_eq env c numDisconnectPackets
  unfold disconnect disconnectInternal at leaves
  rw [if_neg active, if_pos (by simp [sending.2]), sends, resetConnectionData_eq quiet] at leaves
  cases leaves
  exact ⟨rfl, rfl⟩

/-- The numbers of `Disconnect` come after all others, and are less than 256 apart. -/
theorem disconnect_recent (quiet : config.NonReentrant) (sending : c.Sending) (nonces : Nonces c)
    (first : FirstConnection env token c) (leaves : disconnect env config c = some c')
    (few : sendCount c'.trace < 2 ^ 64) {j : Nat} (one : j < numDisconnectPackets) {p : Packet}
    {m : UInt64} {call : AeadCall} (isSealed : .sealed p m call ∈ c'.trace) :
    m.toNat < 256 + (c.sequence + .ofNat j).toNat := by
  obtain ⟨-, trace⟩ := disconnect_sending quiet sending leaves
  have room : c.sequence.toNat + numDisconnectPackets < 2 ^ 64 := by
    have counted := nonces.counted sending.2
    have count : sendCount c'.trace = numDisconnectPackets + sendCount c.trace := by
      rw [trace, ← List.cons_append, sendCount, List.countP_append]
      rfl
    omega
  have number : ∀ k, k < numDisconnectPackets →
      (c.sequence + .ofNat k).toNat = c.sequence.toNat + k := by
    intro k less
    rw [UInt64.toNat_add, UInt64.toNat_ofNat', Nat.mod_eq_of_lt (show k < 2 ^ 64 by omega)]
    exact Nat.mod_eq_of_lt (by omega)
  rw [number j one]
  rw [trace] at isSealed
  simp only [List.mem_cons, List.mem_append, List.mem_flatMap, List.mem_reverse, List.mem_range,
    farewell] at isSealed
  rcases isSealed with isState | ⟨k, less, isSent | isNew | none⟩ | old
  · cases isState
  · cases isSent
  · cases isNew
    rw [number k less]
    have ten : numDisconnectPackets = 10 := rfl
    omega
  · cases none
  · have below := nonces.below sending (call.key, m)
      (List.mem_filterMap.mpr ⟨_, old, rfl⟩) (by
        rw [(first.seals p m call old).2.1, (first.holds sending).writeKey]
        rfl)
    change m.toNat < c.sequence.toNat at below
    omega

end Client

/-! ### What the server opened -/

section Heard

variable {env : Platform} {serverConfig : ServerConfig} {clientConfig : ClientConfig}
  {token : ConnectToken} {s : Server} {c : Client}

/-- **What moves the window of the client's slot was sealed by the client**: the server seals under
other keys, and its denials and challenges move no window. -/
theorem opened_by_server {call : AeadCall} {protocolID n : UInt64}
    (inv : Client.FirstConnection env token c) (explained : Always (Explained env serverConfig) s.trace)
    (authentic : ServerAuthentic token c.trace s.trace) (apart : KeysApart token s.trace)
    (isOpened : .opened .packet call ∈ s.trace) (key : call.key = token.clientToServerKey)
    (numbered : Numbered protocolID call n) : ∃ p, .sealed p n call ∈ c.trace := by
  obtain ⟨later, earlier, isTrace⟩ := List.append_of_mem isOpened
  have suffix : earlier <:+ s.trace := by
    rw [isTrace]
    exact (List.suffix_cons _ _).trans (List.suffix_append later _)
  rw [isTrace] at authentic
  rcases authentic.sealed (.inl key) with byServer | byClient
  · obtain ⟨kind, isSealed⟩ := mem_seals.mp byServer
    obtain ⟨later', earlier', rfl⟩ := List.append_of_mem isSealed
    have why := (explained.of_suffix suffix).at
    cases kind with
    | global p m =>
      obtain ⟨isSeal, kinds⟩ := why
      rw [isSeal] at numbered
      obtain ⟨-, protects⟩ := numbered.of_seal
      rcases kinds with rfl | ⟨⟨_, _, rfl⟩, -⟩
      · cases protects
      · cases protects
    | client i p m =>
      obtain ⟨isSeal, address, e, receiveKey, before, slots, isStart, -⟩ := why
      have installed : .installed i address e call.key receiveKey ∈ s.trace := by
        have member := (sessionStart_suffix i earlier').subset (isStart ▸ List.mem_cons_self)
        exact suffix.subset (List.mem_append_right _ (List.mem_cons_of_mem _ member))
      exact absurd key (apart.2 _ _ (keysPresented_of_installed explained installed))
    | challengeToken challenge m =>
      obtain ⟨-, prefixByte, type, additional, -⟩ := numbered
      rw [show call.additional = [] from why] at additional
      simp [packetAdditionalData] at additional
  · obtain ⟨p, m, isSealed⟩ := Client.mem_sealedCalls.mp byClient
    obtain ⟨-, isSeal, -⟩ := inv.seals p m call isSealed
    rw [isSeal] at numbered
    obtain ⟨rfl, -⟩ := numbered.of_seal
    exact ⟨p, isSealed⟩

/-- **What a packet of the client does to its slot.** -/
def HeardAs (s : Server) (i : Nat) (n : UInt64) (s' : Server) : Packet → Prop
  | .connectionKeepAlive _ _ => s'.clients i = { s.clients i with
      replayProtection := (s.clients i).replayProtection.advanceSequence n
      lastPacketReceiveTime := s.time
      confirmed := true }
  | .connectionPayload payload => s'.clients i = { s.clients i with
      replayProtection := (s.clients i).replayProtection.advanceSequence n
      lastPacketReceiveTime := s.time
      confirmed := true
      packetQueue := ((s.clients i).packetQueue.push payload n).1 }
  | .connectionDisconnect => (s'.clients i).connected = false ∧
      (s'.clients i).disconnectReason = .clientDisconnect ∧
      s'.numConnectedClients = s.numConnectedClients - 1
  | _ => False

/-- **A packet that opens and is fresh is heard**, and touches no other slot. -/
theorem Server.Serves.heard (quiet : serverConfig.NonReentrant) {i e : Nat}
    (serves : s.Serves i e) {p : Packet} {n : UInt64} (fits : p.Sealable)
    (protects : p.packetType.replayProtected = true)
    (fresh : (s.clients i).replayProtection.alreadyReceived n = false)
    (currentTimestamp reading : UInt64) :
    ∃ s', Server.processPacket env serverConfig s (s.clients i).address (writePacket env p n
        (s.encryptionManager.mapping e).receiveKey serverConfig.protocolID) currentTimestamp reading =
          some s' ∧ HeardAs s i n s' p ∧ ∀ j, j ≠ i → s'.clients j = s.clients j := by
  obtain ⟨servesT, -⟩ := serves.tick s.time (.clock currentTimestamp) rfl
  obtain ⟨s', returns, accounted⟩ := Server.readAndProcessPacket_slots env quiet servesT.ok
    (s.clients i).address (writePacket env p n (s.encryptionManager.mapping e).receiveKey
      serverConfig.protocolID) currentTimestamp reading
  have others := accounted.present i (servesT.found serves.usable)
  refine ⟨s', returns, ?_, others⟩
  cases p with
  | connectionRequest | connectionDenied | connectionChallenge | connectionResponse => cases protects
  | connectionKeepAlive clientIndex maxClients =>
    obtain ⟨-, line⟩ := (servesT.read quiet serves.usable returns).kept
      (@Server.read_written env (.connectionKeepAlive clientIndex maxClients) trivial rfl n _
        (s.line i e) rfl fresh)
    exact congrArg Line.slot line
  | connectionPayload payload =>
    obtain ⟨-, line⟩ := (servesT.read quiet serves.usable returns).kept
      (@Server.read_written env (.connectionPayload payload) fits rfl n _ (s.line i e) rfl fresh)
    exact congrArg Line.slot line
  | connectionDisconnect =>
    obtain ⟨trace, -, reads⟩ := @Server.Serves.written env serverConfig _ (s.clients i).address i e
      servesT serves.usable .connectionDisconnect trivial rfl n rfl fresh currentTimestamp reading
    have leaves := reads.symm.trans returns
    change Server.disconnectClientInternal env serverConfig _ i false .clientDisconnect = some s' at leaves
    rw [Server.disconnectClientInternal_silent env quiet
      (by simpa [Server.setClient] using servesT.mapped)] at leaves
    cases leaves
    refine ⟨?_, ?_, rfl⟩
    · rw [Server.releaseClient_slot]
      rfl
    · rw [Server.releaseClient_slot]
      simp [Server.clearedSlot, Server.setClient]

/-- **A packet of the client finds the window open**, if the server has not opened it yet and not 256
packets have been sent since. -/
theorem fresh_of_sealed (quietServer : serverConfig.NonReentrant)
    (quietClient : clientConfig.NonReentrant) (single : token.numServerAddresses = 1)
    (exchange : Exchange env serverConfig clientConfig token s c)
    (once : Client.ConnectsOnce token c.trace) (few : Client.sendCount c.trace < 2 ^ 64)
    (apart : KeysApart token s.trace) {p : Packet} {n : UInt64} {call : AeadCall}
    (isSealed : .sealed p n call ∈ c.trace) (unopened : .opened .packet call ∉ s.trace)
    (recent : ∀ q m other, .sealed q m other ∈ c.trace → m.toNat < 256 + n.toNat) {i e : Nat}
    (connected : (s.clients i).connected = true) (network : (s.clients i).loopback = false)
    (mapped : (s.clients i).encryptionIndex = some e)
    (isKey : (s.encryptionManager.mapping e).receiveKey = token.clientToServerKey) :
    (s.clients i).replayProtection.alreadyReceived n = false := by
  obtain ⟨serverCalls, serverRun⟩ := exchange.serverRun
  obtain ⟨clientCalls, clientRun⟩ := exchange.clientRun
  have inv := clientRun.firstConnection quietClient single once
  have nonces := clientRun.nonces quietClient (clientRun.unusedTokens quietClient single once) few
  obtain ⟨atServer, -⟩ := exchange.authentic quietServer quietClient
  have origin : ∀ other m, .opened .packet other ∈ s.trace →
      other.key = (s.encryptionManager.mapping e).receiveKey →
      Numbered serverConfig.protocolID other m → ∃ q, .sealed q m other ∈ c.trace :=
    fun other m isOpened key numbered => opened_by_server inv (serverRun.explained quietServer)
      atServer apart isOpened (key.trans isKey) numbered
  refine ((serverRun.windows quietServer).recorded i e ⟨connected, network⟩ mapped).fresh
    (fun other isOpened key numbered => ?_) (fun other m isOpened key numbered => ?_)
  · obtain ⟨q, isSealed'⟩ := origin other n isOpened key numbered
    have sameKey : call.key = other.key := by
      rw [key, isKey, (inv.seals p n call isSealed).2.1]
      rfl
    rw [nonces.same_call isSealed isSealed' sameKey] at unopened
    exact unopened isOpened
  · obtain ⟨q, isSealed'⟩ := origin other m isOpened key numbered
    exact recent q m other isSealed'

/-- **The packets of the client are heard.** In every exchange on an adversarial network: when a
keep-alive, a payload or a disconnect packet of the client arrives at the server that has given it a
slot, from the address of the slot and for the first time, it does what it is for; unless 256 or more
packets were sent after it. -/
theorem client_packets_heard (quietServer : serverConfig.NonReentrant)
    (quietClient : clientConfig.NonReentrant) (single : token.numServerAddresses = 1)
    (protocol : serverConfig.protocolID = token.protocolID)
    (exchange : Exchange env serverConfig clientConfig token s c)
    (once : Client.ConnectsOnce token c.trace) (few : Client.sendCount c.trace < 2 ^ 64)
    (apart : KeysApart token s.trace) {p : Packet} {n : UInt64} {call : AeadCall}
    (isSealed : .sealed p n call ∈ c.trace) (protects : p.packetType.replayProtected = true)
    (unopened : .opened .packet call ∉ s.trace)
    (recent : ∀ q m other, .sealed q m other ∈ c.trace → m.toNat < 256 + n.toNat) {i e : Nat}
    (connected : (s.clients i).connected = true) (network : (s.clients i).loopback = false)
    (mapped : (s.clients i).encryptionIndex = some e)
    (isKey : (s.encryptionManager.mapping e).receiveKey = token.clientToServerKey)
    (currentTimestamp reading : UInt64) :
    ∃ s', Server.processPacket env serverConfig s (s.clients i).address
        (writePacket env p n token.clientToServerKey token.protocolID) currentTimestamp reading =
          some s' ∧ HeardAs s i n s' p ∧ ∀ j, j ≠ i → s'.clients j = s.clients j := by
  obtain ⟨serverCalls, serverRun⟩ := exchange.serverRun
  obtain ⟨clientCalls, clientRun⟩ := exchange.clientRun
  have fresh := fresh_of_sealed quietServer quietClient single exchange once few apart isSealed unopened
    recent connected network mapped isKey
  rw [← isKey, ← protocol]
  exact Server.Serves.heard quietServer ⟨(serverRun.reached.ok quietServer).1, connected, network, mapped⟩
    (clientRun.sealable quietClient p n call isSealed) protects fresh currentTimestamp reading

/-- The reply of a client is queued when it arrives. -/
theorem client_packets_heard_reply : ∃ (s : Server) (c : Client),
    Exchange samplePlatform Sample.config Sample.clientConfig Sample.clientToken s c ∧
      ∃ s', Server.processPacket samplePlatform Sample.config s (s.clients 0).address
          (writePacket samplePlatform (.connectionPayload [4, 5]) 3 Sample.clientToken.clientToServerKey
            Sample.clientToken.protocolID) 1001 1001 = some s' ∧
        HeardAs s 0 3 s' (.connectionPayload [4, 5]) ∧ ∀ j, j ≠ 0 → s'.clients j = s.clients j := by
  have runs : (executeExchange samplePlatform Sample.config Sample.clientConfig Sample.clientToken
      Sample.server (.new 0) (Sample.connectsOverNetwork ++ [.inr (.sendPacket [4, 5])])).map
        (fun (s, c) => decide
        ((Client.ConnectsOnce Sample.clientToken c.trace ∧ Client.sendCount c.trace < 2 ^ 64 ∧
          KeysApart Sample.clientToken s.trace) ∧
        ((.sealed (.connectionPayload [4, 5]) 3 (sealPacket samplePlatform (.connectionPayload [4, 5]) 3
            Sample.clientToken.clientToServerKey Sample.clientToken.protocolID) ∈ c.trace) ∧
          (.opened .packet (sealPacket samplePlatform (.connectionPayload [4, 5]) 3
            Sample.clientToken.clientToServerKey Sample.clientToken.protocolID) ∉ s.trace) ∧
          ∀ used ∈ Client.seals c.trace, used.2.toNat < 256 + 3) ∧
        (s.clients 0).connected = true ∧ (s.clients 0).loopback = false ∧
          (s.clients 0).encryptionIndex = some 0 ∧
          (s.encryptionManager.mapping 0).receiveKey = Sample.clientToken.clientToServerKey)) =
      some true := by
    decide +kernel
  obtain ⟨⟨s, c⟩, done, facts⟩ := Option.map_eq_some_iff.mp runs
  obtain ⟨⟨once, few, apart⟩, ⟨isSealed, unopened, recent⟩, connected, network, mapped, isKey⟩ :=
    of_decide_eq_true facts
  have exchange := Sample.exchange_new.execute done
  exact ⟨s, c, exchange, client_packets_heard Sample.config_nonReentrant
    Sample.clientConfig_nonReentrant rfl rfl exchange once few apart isSealed rfl unopened
    (fun _ m other member => recent (other.key, m) (List.mem_filterMap.mpr ⟨_, member, rfl⟩)) connected
    network mapped isKey 1001 1001⟩

/-- **`Disconnect` frees the slot.** A client that is connecting or connected calls `Disconnect`, and has
then sent ten goodbyes. Packet `j` of them, whichever it is, frees the slot of the client when it arrives
for the first time, whatever became of the other nine and of all that the client has sent before, and no
other slot is touched. -/
theorem disconnect_packet_frees_slot (quietServer : serverConfig.NonReentrant)
    (quietClient : clientConfig.NonReentrant) (single : token.numServerAddresses = 1)
    (protocol : serverConfig.protocolID = token.protocolID) {c' : Client} {calls : List Client.Call}
    (run : Client.Run env clientConfig calls c) (sending : c.Sending)
    (leaves : Client.disconnect env clientConfig c = some c')
    (exchange : Exchange env serverConfig clientConfig token s c')
    (once : Client.ConnectsOnce token c'.trace) (few : Client.sendCount c'.trace < 2 ^ 64)
    (apart : KeysApart token s.trace) {j : Nat} (one : j < numDisconnectPackets)
    (unopened : .opened .packet (sealPacket env .connectionDisconnect (c.sequence + .ofNat j)
      token.clientToServerKey token.protocolID) ∉ s.trace) {i e : Nat}
    (connected : (s.clients i).connected = true) (network : (s.clients i).loopback = false)
    (mapped : (s.clients i).encryptionIndex = some e)
    (isKey : (s.encryptionManager.mapping e).receiveKey = token.clientToServerKey)
    (currentTimestamp reading : UInt64) :
    c'.state = .disconnected ∧
      (∀ k < numDisconnectPackets, .sent c.serverAddress (writePacket env .connectionDisconnect
        (c.sequence + .ofNat k) token.clientToServerKey token.protocolID) ∈ c'.trace) ∧
      ∃ s', Server.processPacket env serverConfig s (s.clients i).address
          (writePacket env .connectionDisconnect (c.sequence + .ofNat j) token.clientToServerKey
            token.protocolID) currentTimestamp reading = some s' ∧
        (s'.clients i).connected = false ∧ (s'.clients i).disconnectReason = .clientDisconnect ∧
        s'.numConnectedClients = s.numConnectedClients - 1 ∧
        ∀ k, k ≠ i → s'.clients k = s.clients k := by
  obtain ⟨isState, trace⟩ := Client.disconnect_sending quietClient sending leaves
  have before : c.trace <:+ c'.trace := by
    rw [trace]
    exact (List.suffix_append _ _).trans (List.suffix_cons _ _)
  have onceBefore := once.of_suffix before
  have first := run.firstConnection quietClient single onceBefore
  have nonces := run.nonces quietClient (run.unusedTokens quietClient single onceBefore)
    ((before.sublist.countP_le).trans_lt few)
  obtain ⟨isToken, -, writeKey⟩ := first.holds sending
  have said : ∀ k < numDisconnectPackets, ∀ effect ∈ Client.farewell env c k, effect ∈ c'.trace := by
    intro k less effect member
    rw [trace]
    exact List.mem_cons_of_mem _ (List.mem_append_left _ (List.mem_flatMap.mpr
      ⟨k, by simpa using less, member⟩))
  simp only [Client.farewell, isToken, writeKey] at said
  have fresh := fresh_of_sealed quietServer quietClient single exchange once few apart
    (said j one _ (List.mem_cons_of_mem _ List.mem_cons_self)) unopened
    (fun _ _ _ => Client.disconnect_recent quietClient sending nonces first leaves few one) connected
    network mapped isKey
  obtain ⟨serverCalls, serverRun⟩ := exchange.serverRun
  obtain ⟨s', returns, ⟨left, reason, count⟩, others⟩ := Server.Serves.heard quietServer
    ⟨(serverRun.reached.ok quietServer).1, connected, network, mapped⟩
    (p := .connectionDisconnect) trivial rfl fresh currentTimestamp reading
  rw [isKey, protocol] at returns
  exact ⟨isState, fun k less => said k less _ List.mem_cons_self, s', returns, left, reason, count,
    others⟩

/-- The last of the ten packets frees the slot if the others are lost. -/
theorem disconnect_packet_frees_slot_last : ∃ (s : Server) (c c' : Client),
    Exchange samplePlatform Sample.config Sample.clientConfig Sample.clientToken s c' ∧
      Client.disconnect samplePlatform Sample.clientConfig c = some c' ∧
      c'.state = .disconnected ∧
      (∀ k < numDisconnectPackets, .sent c.serverAddress (writePacket samplePlatform
        .connectionDisconnect (c.sequence + .ofNat k) Sample.clientToken.clientToServerKey
          Sample.clientToken.protocolID) ∈ c'.trace) ∧
      ∃ s', Server.processPacket samplePlatform Sample.config s (s.clients 0).address
          (writePacket samplePlatform .connectionDisconnect (c.sequence + .ofNat 9)
            Sample.clientToken.clientToServerKey Sample.clientToken.protocolID) 1001 1001 = some s' ∧
        (s'.clients 0).connected = false ∧ (s'.clients 0).disconnectReason = .clientDisconnect ∧
        s'.numConnectedClients = s.numConnectedClients - 1 ∧
        ∀ k, k ≠ 0 → s'.clients k = s.clients k := by
  have runs : (executeExchange samplePlatform Sample.config Sample.clientConfig Sample.clientToken
      Sample.server (.new 0) Sample.connectsOverNetwork).bind (fun (s, c) =>
        (Client.disconnect samplePlatform Sample.clientConfig c).map fun c' => decide
        ((ClientAuthentic Sample.clientToken s.trace c'.trace ∧
          Client.ConnectsOnce Sample.clientToken c'.trace ∧ Client.sendCount c'.trace < 2 ^ 64 ∧
          KeysApart Sample.clientToken s.trace) ∧ (c.state = .connected ∧ c.loopback = false) ∧
        .opened .packet (sealPacket samplePlatform .connectionDisconnect (c.sequence + .ofNat 9)
            Sample.clientToken.clientToServerKey Sample.clientToken.protocolID) ∉ s.trace ∧
        (s.clients 0).connected = true ∧ (s.clients 0).loopback = false ∧
          (s.clients 0).encryptionIndex = some 0 ∧
          (s.encryptionManager.mapping 0).receiveKey = Sample.clientToken.clientToServerKey)) =
      some true := by
    decide +kernel
  obtain ⟨⟨s, c⟩, done, leaves⟩ := Option.bind_eq_some_iff.mp runs
  obtain ⟨c', leaves, facts⟩ := Option.map_eq_some_iff.mp leaves
  obtain ⟨⟨authentic, once, few, apart⟩, ⟨isState, isNetwork⟩, unopened, connected, network, mapped,
    isKey⟩ := of_decide_eq_true facts
  have before := Sample.exchange_new.execute done
  have exchange := before.client .disconnect leaves authentic
  obtain ⟨calls, run⟩ := before.clientRun
  have sending : c.Sending := ⟨Client.active_of_state _ isState (by decide), isNetwork⟩
  exact ⟨s, c, c', exchange, leaves, disconnect_packet_frees_slot Sample.config_nonReentrant
    Sample.clientConfig_nonReentrant rfl rfl run sending leaves exchange once few apart
    (j := 9) (by decide) unopened connected network mapped isKey 1001 1001⟩

end Heard

end Netcode
