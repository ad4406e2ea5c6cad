/-
**Client and server agree on the connection.**

A client that is connected has been connected by the server it asked: on a network that does what it
likes with datagrams but cannot forge them, the keep-alive that connected the client was sealed by a
server that had given a slot to the keys of its token, and had done so for a response of this client.

* `connection_agreement` — **the agreement**: the client's slot number and slot count are those of the
  server, and behind them stand the client's response and the server's challenge.
-/

import Netcode.Client.Leave
import Netcode.System.Completeness
import Netcode.System.Network

namespace Netcode

open Trace

section Agreement

variable {env : Platform} {serverConfig : ServerConfig} {clientConfig : ClientConfig}
  {token : ConnectToken} {s : Server} {c : Client}

/-- A response that the client sealed was just processed: it opened with the keys of the token and
arrived from this address. -/
def ResponseFrom (token : ConnectToken) (client : List ClientEffect) (address : Address)
    (trace : List Effect) : Prop :=
  ∃ challengeSequence challengeCall responseCall reading data before challengeData n,
    trace = .responded address challengeSequence token.serverToClientKey token.clientToServerKey ::
        .opened .challengeToken challengeCall :: .opened .packet responseCall ::
        .datagram reading address data :: before ∧
      .sealed (.connectionResponse challengeSequence challengeData) n responseCall ∈ client

/-- The server has run `connectClient` on slot `i`, with the keys of the token and started with
`slots` slots, for a response of the client. -/
def InstalledFor (token : ConnectToken) (client : List ClientEffect) (i slots : Nat)
    (trace : List Effect) : Prop :=
  ∃ later address e before,
    trace = later ++ .installed i address e token.serverToClientKey token.clientToServerKey :: before ∧
      runSlots before = some slots ∧ ResponseFrom token client address before

/-- The client has answered a challenge that the server sealed for the token. -/
def AnsweredChallenge (token : ConnectToken) (server : List Effect) (trace : List ClientEffect) :
    Prop :=
  ∃ later source call before challengeSequence challengeData n,
    trace = later ++ .state .sendingConnectionResponse :: .opened source call :: before ∧
      call.key = token.serverToClientKey ∧
      .sealed (.global (.connectionChallenge challengeSequence challengeData) n) call ∈ server

/-- A response opened under the keys of the token is the client's: the server seals none. -/
theorem responseFrom_of_explained {trace : List Effect} {address : Address} {e i : Nat}
    {later before : List Effect} (inv : Client.FirstConnection env token c)
    (explained : Always (Explained env serverConfig) trace)
    (authentic : ServerAuthentic token c.trace trace)
    (isTrace : trace = later ++
      .installed i address e token.serverToClientKey token.clientToServerKey :: before) :
    ResponseFrom token c.trace address before := by
  subst isTrace
  obtain ⟨-, challengeSequence, before', rfl⟩ := explained.at
  have suffix := List.suffix_append later (.installed i address e token.serverToClientKey
    token.clientToServerKey :: .responded address challengeSequence token.serverToClientKey
    token.clientToServerKey :: before')
  obtain ⟨challengeCall, responseCall, reading, data, rest, n, challengeData, rfl, key, decodes⟩ :=
    (explained.of_suffix suffix).2.1
  refine ⟨challengeSequence, challengeCall, responseCall, reading, data, rest, challengeData, n, rfl,
    ?_⟩
  have opened := authentic.of_suffix suffix
  rcases ServerAuthentic.sealed (show ServerAuthentic token c.trace ([_, _, _] ++ _) from opened)
    (.inl key) with byServer | byClient
  · exact absurd decodes (not_sealed_response
      (explained.of_suffix (List.IsSuffix.trans ⟨[_, _, _, _], rfl⟩ suffix)) byServer)
  · exact inv.sealed_as_packet byClient decodes

/-- Before the client is connected it seals no packets of a server. -/
theorem sealed_by_server {later before : List ClientEffect} {source : Address} {call : AeadCall}
    {q : Packet} {n : UInt64} (inv : Client.FirstConnection env token c)
    (authentic : ClientAuthentic token s.trace c.trace)
    (isTrace : c.trace = later ++ .opened source call :: before)
    (responses : Client.OnlyResponses before) (key : call.key = token.serverToClientKey)
    (decodes : Decodes token.protocolID call q n)
    (notClients : q.packetType ≠ .response ∧ q.packetType ≠ .disconnect) :
    call ∈ seals s.trace := by
  have sealed : call ∈ seals s.trace ∨ call ∈ Client.sealedCalls before := by
    rw [isTrace] at authentic
    exact authentic.sealed (.inr key)
  refine sealed.resolve_right fun byClient => ?_
  obtain ⟨p, m, isSealed⟩ := Client.mem_sealedCalls.mp byClient
  have member : .sealed p m call ∈ c.trace := by
    rw [isTrace]
    exact List.mem_append_right _ (List.mem_cons_of_mem _ isSealed)
  obtain ⟨encrypted, isSeal, -⟩ := inv.seals p m call member
  rw [isSeal] at decodes
  obtain ⟨rfl, rfl⟩ := decodes.of_seal encrypted
  exact (responses _ _ _ isSealed).elim notClients.1 notClients.2

/-- **A keep-alive of the server speaks of a client it has installed**, with the keys of the token. -/
theorem installed_of_keepAlive {call : AeadCall} {clientIndex maxClients : Int32} {n : UInt64}
    (inv : Client.FirstConnection env token c)
    (explained : Always (Explained env serverConfig) s.trace)
    (authentic : ServerAuthentic token c.trace s.trace) (own : OwnKeys token s.trace)
    (sealed : call ∈ seals s.trace) (key : call.key = token.serverToClientKey)
    (decodes : Decodes token.protocolID call (.connectionKeepAlive clientIndex maxClients) n) :
    ∃ i slots : Nat, clientIndex.toInt = i ∧ maxClients.toInt = slots ∧
      InstalledFor token c.trace i slots s.trace := by
  obtain ⟨i, slots, address, e, receiveKey, later, earlier, before, -, -, ⟨later', isInstalled⟩,
    isSlots, small, most, packet⟩ :=
    sealed_by_slot explained sealed decodes (by simp [Packet.packetType])
  cases packet
  rw [key] at isInstalled
  -- the keys it was installed with are those of the token
  have member : .installed i address e token.serverToClientKey receiveKey ∈ s.trace := by
    rw [← isInstalled]
    exact List.mem_append_right _ List.mem_cons_self
  have isReceiveKey := own _ _ (keysPresented_of_installed explained member) rfl
  subst isReceiveKey
  exact ⟨i, slots, toInt_ofNat_slot (small.le.trans most), toInt_ofNat_slot most, later', address, e,
    before, isInstalled.symm, isSlots,
    responseFrom_of_explained inv explained authentic isInstalled.symm⟩

/-- A challenge that the server sealed was sent to an address. -/
theorem challenge_of_sealed {call : AeadCall} {challengeSequence n : UInt64}
    {challengeData : FixedBytes challengeTokenBytes}
    (explained : Always (Explained env serverConfig) s.trace) (sealed : call ∈ seals s.trace)
    (decodes : Decodes token.protocolID call
      (.connectionChallenge challengeSequence challengeData) n) :
    .sealed (.global (.connectionChallenge challengeSequence challengeData) n) call ∈ s.trace := by
  obtain ⟨later, kind, earlier, isTrace, why, rfl | ⟨i, rfl⟩⟩ :=
    sealed_as_packet explained sealed decodes
  · rw [isTrace]
    exact List.mem_append_right _ List.mem_cons_self
  · obtain ⟨-, _, _, _, _, slots, -, -, -, -, packet⟩ := why
    cases packet

/-- **A connected client was installed by the server**, in the slot it was told. -/
theorem installed_of_connected (inv : Client.FirstConnection env token c)
    (explained : Always (Explained env serverConfig) s.trace)
    (atServer : ServerAuthentic token c.trace s.trace)
    (atClient : ClientAuthentic token s.trace c.trace) (own : OwnKeys token s.trace)
    (connected : c.state = .connected) (network : c.loopback = false) :
    ∃ i slots : Nat, c.clientIndex = i ∧ c.maxClients = slots ∧
      InstalledFor token c.trace i slots s.trace := by
  obtain ⟨later, source, call, before, clientIndex, maxClients, n, isTrace, key, decodes, isIndex,
    isMax, -, responses⟩ := inv.established connected network
  have isOpened : c.trace = (later ++ [.state .connected]) ++ .opened source call :: before := by
    rw [isTrace, List.append_assoc]
    rfl
  have keepAlive : call ∈ seals s.trace :=
    sealed_by_server inv atClient isOpened responses key decodes (by simp [Packet.packetType])
  obtain ⟨i, slots, index, count, installed⟩ :=
    installed_of_keepAlive inv explained atServer own keepAlive key decodes
  exact ⟨i, slots, isIndex.trans index, isMax.trans count, installed⟩

/-- **A connected client has answered a challenge of the server.** -/
theorem answered_of_connected (inv : Client.FirstConnection env token c)
    (explained : Always (Explained env serverConfig) s.trace)
    (atClient : ClientAuthentic token s.trace c.trace)
    (connected : c.state = .connected) (network : c.loopback = false) :
    ∃ later before, c.trace = later ++ .state .connected :: before ∧
      AnsweredChallenge token s.trace before := by
  obtain ⟨later, source, call, before, clientIndex, maxClients, n, isTrace, key, decodes, isIndex,
    isMax, challenged, responses⟩ := inv.established connected network
  obtain ⟨later', source', call', before', challengeSequence, challengeData, m, rfl, key', decodes'⟩ :=
    challenged
  have isOpened : c.trace = (later ++ .state .connected :: .opened source call ::
      (later' ++ [.state .sendingConnectionResponse])) ++ .opened source' call' :: before' := by
    rw [isTrace]
    simp only [List.append_assoc, List.cons_append, List.nil_append]
  have challenge : call' ∈ seals s.trace := by
    refine sealed_by_server inv atClient isOpened (fun p n call member => ?_) key' decodes'
      (by simp [Packet.packetType])
    exact responses p n call
      (List.mem_append_right _ (List.mem_cons_of_mem _ (List.mem_cons_of_mem _ member)))
  exact ⟨later, _, isTrace, .opened source call :: later', source', call', before',
    challengeSequence, challengeData, m, rfl, key', challenge_of_sealed explained challenge decodes'⟩

/-- **Client and server agree on the connection.** Whatever the network does, a client that is
connected over it has slot number and slot count from a server that has installed the keys of its
token in that slot, while started with that many slots, for a response of this client. Before, the
client has answered a challenge that the server sealed for the token. -/
theorem connection_agreement (quietServer : serverConfig.NonReentrant)
    (quietClient : clientConfig.NonReentrant) (single : token.numServerAddresses = 1)
    (exchange : Exchange env serverConfig clientConfig token s c)
    (once : Client.ConnectsOnce token c.trace) (own : OwnKeys token s.trace)
    (connected : c.state = .connected) (network : c.loopback = false) :
    ∃ i slots : Nat, c.clientIndex = i ∧ c.maxClients = slots ∧
      InstalledFor token c.trace i slots s.trace ∧
      ∃ later before, c.trace = later ++ .state .connected :: before ∧
        AnsweredChallenge token s.trace before := by
  obtain ⟨serverCalls, serverRun⟩ := exchange.serverRun
  obtain ⟨clientCalls, clientRun⟩ := exchange.clientRun
  have inv := clientRun.firstConnection quietClient single once
  have explained := serverRun.explained quietServer
  obtain ⟨atServer, atClient⟩ := exchange.authentic quietServer quietClient
  obtain ⟨i, slots, index, count, installed⟩ :=
    installed_of_connected inv explained atServer atClient own connected network
  exact ⟨i, slots, index, count, installed,
    answered_of_connected inv explained atClient connected network⟩

end Agreement

namespace Sample

/-- The token of the client. -/
def clientToken : ConnectToken := publicToken first 1040 [serverAddress]

/-- A client connects to a server, on a network where every encrypted packet arrives twice. -/
def connectsOverNetwork : List (Server.Call ⊕ Client.Call) :=
  [.inl (.start 2 challengeKey 1000),
    .inr (.connect firstToken),
    .inr (.update 1 []),
    .inl (.processPacket firstAddress (request first 1040) 1001 1001),
    .inr (.update 2 [challenge, challenge]),
    .inl (.processPacket firstAddress (response first first 0 1) 1001 1001),
    .inl (.processPacket firstAddress (response first first 0 1) 1001 1001),
    .inr (.update 3 [arrives serverAddress (.connectionKeepAlive 0 2) 0,
      arrives serverAddress (.connectionKeepAlive 0 2) 0])]

end Sample

/-- The client is connected to the first of two slots. -/
theorem connection_agreement_first : ∃ (s : Server) (c : Client),
    Exchange samplePlatform Sample.config Sample.clientConfig Sample.clientToken s c ∧
      c.state = .connected ∧ c.loopback = false ∧ c.clientIndex = 0 ∧ c.maxClients = 2 ∧
      ∃ i slots : Nat, c.clientIndex = i ∧ c.maxClients = slots ∧
        InstalledFor Sample.clientToken c.trace i slots s.trace := by
  have runs : (executeExchange samplePlatform Sample.config Sample.clientConfig Sample.clientToken
      Sample.server (.new 0) Sample.connectsOverNetwork).map (fun (s, c) => decide
        (c.state = .connected ∧ c.loopback = false ∧ c.clientIndex = 0 ∧ c.maxClients = 2 ∧
          Client.ConnectsOnce Sample.clientToken c.trace ∧ OwnKeys Sample.clientToken s.trace)) =
        some true := by
    decide +kernel
  obtain ⟨⟨s, c⟩, done, facts⟩ := Option.map_eq_some_iff.mp runs
  obtain ⟨connected, network, index, count, once, own⟩ := of_decide_eq_true facts
  have start : Exchange samplePlatform Sample.config Sample.clientConfig Sample.clientToken
      Sample.server (.new 0) := .new _ _ _ _ rfl
  have exchange := start.execute done
  obtain ⟨i, slots, isIndex, isCount, installed, -⟩ :=
    connection_agreement Sample.config_nonReentrant Sample.clientConfig_nonReentrant rfl exchange once
      own connected network
  exact ⟨s, c, exchange, connected, network, index, count, i, slots, isIndex, isCount, installed⟩

end Netcode
