/-
**Payloads arrive as they were sent.**

Between a server and a client that connects once, on a network that does what it likes with datagrams
but cannot forge them, every payload that `ReceivePacket` returns was given to `SendPacket` on the
other side, under the number it is returned with; it is returned once, and payloads are returned in
the order in which they were accepted.

* `Faithful` — what is returned, against what was accepted and sent;
* `payloads_delivered` — **both directions**: from the client to the server in every run, from the
  server to the client in runs in which no token is installed twice;
* `payload_sent_twice` — an exchange in which the token is, and the server sends the same payload
  under the same number once more.
-/

import Netcode.Client.Inbox
import Netcode.Client.Outgoing
import Netcode.Server.Inboxes
import Netcode.Server.Outgoing
import Netcode.System.Agreement

namespace Netcode

open Trace

/-- **Faithful delivery.** Payloads are returned in the order in which they were accepted, no number
is accepted twice, and what was accepted was sent, once. -/
structure Faithful (accepted returned sent : List (Bytes × UInt64)) : Prop where
  inOrder : returned <:+ accepted
  once : (accepted.map Prod.snd).Nodup
  sent : ∀ entry ∈ accepted, sent.count entry = 1

/-- An inbox delivers faithfully what was sent under different numbers. -/
theorem Inbox.faithful {window : ReplayProtection} {queue : PacketQueue}
    {accepted returned sent : List (Bytes × UInt64)} (inbox : Inbox window queue accepted returned)
    (different : (sent.map Prod.snd).Nodup) (origin : ∀ entry ∈ accepted, entry ∈ sent)
    (below : ∀ entry ∈ accepted, entry.2 ≠ noSequence) : Faithful accepted returned sent where
  inOrder := inbox.inOrder
  once := by
    refine List.nodup_iff_count_le_one.mpr fun n => ?_
    by_cases last : n = noSequence
    · refine (List.count_eq_zero.mpr fun member => ?_).trans_le (Nat.zero_le _)
      obtain ⟨entry, isAccepted, isNumber⟩ := List.mem_map.mp member
      exact below entry isAccepted (isNumber.trans last)
    · exact inbox.once n last
  sent := fun entry member => List.count_eq_one_of_mem different.of_map (origin entry member)

section Delivery

variable {env : Platform} {serverConfig : ServerConfig} {clientConfig : ClientConfig}
  {token : ConnectToken} {s : Server} {c : Client}

/-- **A payload the server opened under the key of the token was sent by the client.** -/
theorem sent_by_client (inv : Client.FirstConnection env token c)
    (explained : Always (Explained env serverConfig) s.trace)
    (authentic : ServerAuthentic token c.trace s.trace) (apart : KeysApart token s.trace)
    {call : AeadCall} (isOpened : .opened .packet call ∈ s.trace)
    (key : call.key = token.clientToServerKey) {protocolID n : UInt64} {payload : Bytes}
    (decodes : Decodes protocolID call (.connectionPayload payload) n) :
    (payload, n) ∈ Client.sends c.trace := by
  obtain ⟨later, earlier, isTrace⟩ := List.append_of_mem isOpened
  have suffix : earlier <:+ s.trace := by
    rw [isTrace]
    exact (List.suffix_cons _ _).trans (List.suffix_append later _)
  rw [isTrace] at authentic
  rcases authentic.sealed (.inl key) with byServer | byClient
  · -- the server sends under other keys
    obtain ⟨i, slots, address, e, receiveKey, _, _, before, -, -, installed, -⟩ :=
      sealed_by_slot (explained.of_suffix suffix) byServer decodes (by simp [Packet.packetType])
    have member := (installed.trans suffix).subset List.mem_cons_self
    exact absurd key (apart.2 _ _ (keysPresented_of_installed explained member))
  · obtain ⟨-, -, submitted⟩ := inv.seals _ _ _ (inv.sealed_as_packet byClient decodes)
    exact List.mem_filterMap.mpr ⟨_, submitted payload rfl, rfl⟩

/-- **A payload the client opened under the key of the token was sent by the server**, to the client
it had installed with that key. -/
theorem sent_by_server (inv : Client.FirstConnection env token c)
    (explained : Always (Explained env serverConfig) s.trace)
    (authentic : ClientAuthentic token s.trace c.trace) (apart : KeysApart token s.trace)
    {source : Address} {call : AeadCall} (isOpened : .opened source call ∈ c.trace)
    (key : call.key = token.serverToClientKey) {protocolID n : UInt64} {payload : Bytes}
    (decodes : Decodes protocolID call (.connectionPayload payload) n) :
    ∃ i address e receiveKey, .installed i address e token.serverToClientKey receiveKey ∈ s.trace ∧
      .sealed (.client i (.connectionPayload payload) n) call ∈ s.trace ∧
      (payload, n) ∈ sendsUnder token.serverToClientKey i s.trace := by
  obtain ⟨later, earlier, isTrace⟩ := List.append_of_mem isOpened
  rw [isTrace] at authentic
  rcases authentic.sealed (.inr key) with byServer | byClient
  · obtain ⟨i, slots, address, e, receiveKey, later, earlier, before, isTrace, isStart, installed, -,
      -, -, packet⟩ := sealed_by_slot explained byServer decodes (by simp [Packet.packetType])
    rw [key] at isStart installed
    refine ⟨i, address, e, receiveKey, installed.subset List.mem_cons_self, ?_, ?_⟩
    · rw [isTrace]
      exact List.mem_append_right _ List.mem_cons_self
    · cases packet with
      | payload _ earlier' submitted =>
        subst submitted
        have isKey : slotKey i earlier' = some token.serverToClientKey := by
          have isStart' : sessionStart i earlier' = _ := isStart
          rw [slotKey, isStart']
          rfl
        rw [isTrace, ← List.singleton_append, ← List.append_assoc]
        exact mem_sendsUnder isKey
  · -- the client seals under the other key
    obtain ⟨p, m, isSealed⟩ := Client.mem_sealedCalls.mp byClient
    have member : .sealed p m call ∈ c.trace := by
      rw [isTrace]
      exact List.mem_append_right _ (List.mem_cons_of_mem _ isSealed)
    obtain ⟨-, isSeal, -⟩ := inv.seals p m call member
    rw [isSeal] at key
    exact absurd key.symm apart.1

/-- **From the client to the server.** -/
theorem server_receives_faithfully {calls : List Server.Call} (quiet : serverConfig.NonReentrant)
    (run : Server.Run env serverConfig calls s) (inv : Client.FirstConnection env token c)
    (outgoing : Client.Outgoing c) (few : Client.sendCount c.trace < 2 ^ 64)
    (authentic : ServerAuthentic token c.trace s.trace) (apart : KeysApart token s.trace) {i e : Nat}
    (connected : (s.clients i).connected = true) (network : (s.clients i).loopback = false)
    (mapped : (s.clients i).encryptionIndex = some e)
    (isKey : (s.encryptionManager.mapping e).receiveKey = token.clientToServerKey) :
    Faithful (accepted i s.trace) (returned i s.trace) (Client.sends c.trace) := by
  have slot := (run.inboxes quiet).slot i connected network
  have origin : ∀ entry ∈ accepted i s.trace, entry ∈ Client.sends c.trace := by
    intro entry member
    obtain ⟨call, isOpened, key, decodes⟩ := slot.origin e mapped entry member
    exact sent_by_client inv (run.explained quiet) authentic apart isOpened (key.trans isKey) decodes
  refine slot.inbox.faithful outgoing.once origin fun entry member last => ?_
  have bounded := outgoing.bounded entry (origin entry member)
  have top : noSequence.toNat = 2 ^ 64 - 1 := by decide
  rw [last, top] at bounded
  omega

/-- **From the server to the client**, if the key of the token is installed once. -/
theorem client_receives_faithfully {calls : List Server.Call} (quiet : serverConfig.NonReentrant)
    (run : Server.Run env serverConfig calls s) (inv : Client.FirstConnection env token c)
    (mailbox : Client.Mailbox c) (authentic : ClientAuthentic token s.trace c.trace)
    (apart : KeysApart token s.trace) (below : BelowLast s.trace)
    (once : InstalledOnce token.serverToClientKey s.trace) (connected : c.state = .connected)
    (network : c.loopback = false) {i e : Nat} {address : Address} {receiveKey : Key}
    (installed : .installed i address e token.serverToClientKey receiveKey ∈ s.trace) :
    Faithful (Client.accepted c.trace) (Client.returned c.trace)
      (sendsUnder token.serverToClientKey i s.trace) := by
  have receiving := mailbox.connected network connected
  have holds := inv.holds ⟨Client.active_of_state _ connected (by decide), network⟩
  have origin : ∀ entry ∈ Client.accepted c.trace,
      (∃ j call, .sealed (.client j (.connectionPayload entry.1) entry.2) call ∈ s.trace) ∧
        entry ∈ sendsUnder token.serverToClientKey i s.trace := by
    intro entry member
    obtain ⟨source, call, isOpened, key, decodes⟩ := receiving.origin entry member
    obtain ⟨j, address', e', receiveKey', installed', isSealed, isSent⟩ := sent_by_server inv
      (run.explained quiet) authentic apart isOpened (key.trans holds.readKey) decodes
    obtain rfl := once.slot installed installed'
    exact ⟨⟨j, call, isSealed⟩, isSent⟩
  refine receiving.inbox.faithful ((run.outgoing quiet once below).once i)
    (fun entry member => (origin entry member).2) fun entry member => ?_
  obtain ⟨j, call, isSealed⟩ := (origin entry member).1
  exact below.ne isSealed

/-- **Payloads are delivered intact, once and in order.** In every exchange between one run of a server
and a client that connects once, the payloads that `ReceivePacket` returns on the server are those the
client sent, for every slot that holds the keys of the client's token. A client that is not connected
has nothing to return; what a connected client returns are the payloads that the server sent to its
slot, if no request is accepted after its token was seen expired. -/
theorem payloads_delivered {issued : AeadCall → Prop} (quietServer : serverConfig.NonReentrant)
    (quietClient : clientConfig.NonReentrant) (single : token.numServerAddresses = 1)
    (exchange : Exchange env serverConfig clientConfig token s c)
    (once : Client.ConnectsOnce token c.trace) (oneRun : OneRun s.trace)
    (own : OwnKeys token s.trace) (apart : KeysApart token s.trace)
    (few : Client.sendCount c.trace < 2 ^ 64) (below : BelowLast s.trace)
    (distinct : DistinctTokens issued) (only : OnlyIssued issued s.trace) :
    (∀ i e, (s.clients i).connected = true → (s.clients i).loopback = false →
      (s.clients i).encryptionIndex = some e →
      (s.encryptionManager.mapping e).receiveKey = token.clientToServerKey →
      Faithful (accepted i s.trace) (returned i s.trace) (Client.sends c.trace)) ∧
    (c.loopback = false → c.state ≠ .connected → c.packetReceiveQueue.contents = []) ∧
    (FreshRequests s.trace → c.loopback = false → c.state = .connected →
      ∃ i : Nat, c.clientIndex = i ∧ Faithful (Client.accepted c.trace) (Client.returned c.trace)
        (sendsUnder token.serverToClientKey i s.trace)) := by
  obtain ⟨serverCalls, serverRun⟩ := exchange.serverRun
  obtain ⟨clientCalls, clientRun⟩ := exchange.clientRun
  have inv := clientRun.firstConnection quietClient single once
  have mailbox := clientRun.mailbox quietClient single once
  obtain ⟨atServer, atClient⟩ := exchange.authentic quietServer quietClient
  refine ⟨fun i e connected network mapped isKey => ?_, mailbox.vacant,
    fun fresh network connected => ?_⟩
  · exact server_receives_faithfully quietServer serverRun inv
      (clientRun.outgoing quietClient single once few) few atServer apart connected network mapped isKey
  · obtain ⟨i, slots, index, -, later, address, e, before, isTrace, -⟩ := installed_of_connected inv
      (serverRun.explained quietServer) atServer atClient own connected network
    have installsOnce := (serverRun.ledger quietServer distinct ⟨only, fresh⟩).once
    have installed : .installed i address e token.serverToClientKey token.clientToServerKey ∈
        s.trace := by
      rw [isTrace]
      exact List.mem_append_right _ List.mem_cons_self
    exact ⟨i, index, client_receives_faithfully quietServer serverRun inv mailbox atClient apart below
      (installsOnce.installedOnce (serverRun.installsRunning quietServer) oneRun _) connected network
      installed⟩

end Delivery

/-! ### A payload each way -/

namespace Sample

/-- What the server sends to the client. -/
def news : Bytes := [1, 2, 3]

/-- The first payload to the client, behind two keep-alives. -/
def newsArrives : Client.Datagram := arrives serverAddress (.connectionPayload news) 2

/-- The first payload of the client, behind its request, its response and two keep-alives. -/
def reply : Bytes :=
  writePacket samplePlatform (.connectionPayload [4, 5]) 4 first.clientToServerKey protocolID

/-- A payload each way, on a network where both arrive twice. -/
def exchangesPayloads : List (Server.Call ⊕ Client.Call) := connectsOverNetwork ++
  [.inl (.sendPacket 0 news),
    .inr (.update 4 [newsArrives, newsArrives]),
    .inr .receivePacket,
    .inr (.sendPacket [4, 5]),
    .inl (.processPacket firstAddress reply 1001 1001),
    .inl (.processPacket firstAddress reply 1001 1001),
    .inl (.receivePacket 0)]

/-- The token is installed again in a batch, and the server sends its payload again. -/
def sendsTwice : List (Server.Call ⊕ Client.Call) := connectsOverNetwork ++
  [.inl (.sendPacket 0 news),
    .inl (.disconnectClient 0),
    .inl (.update 1 1039 [⟨secondAddress, request second 1100, 1040⟩,
      ⟨firstAddress, request first 1040, 1040⟩,
      ⟨firstAddress, response first first 0 1, 1040⟩]),
    .inl (.sendPacket 0 news),
    .inr (.update 4 [newsArrives]),
    .inr .receivePacket]

/-- The two have not said anything yet. -/
theorem exchange_new : Exchange samplePlatform config clientConfig clientToken server (.new 0) :=
  .new _ _ _ _ rfl

end Sample

/-- Each payload arrives twice and is returned once. -/
theorem payloads_delivered_both_ways : ∃ (s : Server) (c : Client),
    Exchange samplePlatform Sample.config Sample.clientConfig Sample.clientToken s c ∧
      returned 0 s.trace = [([4, 5], 4)] ∧
      Faithful (accepted 0 s.trace) (returned 0 s.trace) (Client.sends c.trace) ∧
      Client.returned c.trace = [(Sample.news, 2)] ∧ ∃ i : Nat, c.clientIndex = i ∧
        Faithful (Client.accepted c.trace) (Client.returned c.trace)
          (sendsUnder Sample.clientToken.serverToClientKey i s.trace) := by
  have runs : (executeExchange samplePlatform Sample.config Sample.clientConfig Sample.clientToken
      Sample.server (.new 0) Sample.exchangesPayloads).map (fun (s, c) => decide
        ((Client.ConnectsOnce Sample.clientToken c.trace ∧ OneRun s.trace ∧
          OwnKeys Sample.clientToken s.trace ∧ KeysApart Sample.clientToken s.trace ∧
          Client.sendCount c.trace < 2 ^ 64 ∧ BelowLast s.trace ∧
          OnlyIssued (· ∈ Sample.issued) s.trace ∧ FreshRequests s.trace) ∧
        ((s.clients 0).connected = true ∧ (s.clients 0).loopback = false ∧
          (s.clients 0).encryptionIndex = some 0 ∧
          (s.encryptionManager.mapping 0).receiveKey = Sample.clientToken.clientToServerKey) ∧
        c.state = .connected ∧ c.loopback = false ∧
        returned 0 s.trace = [([4, 5], 4)] ∧ Client.returned c.trace = [(Sample.news, 2)])) =
      some true := by
    decide +kernel
  obtain ⟨⟨s, c⟩, done, facts⟩ := Option.map_eq_some_iff.mp runs
  obtain ⟨⟨once, oneRun, own, apart, few, below, only, fresh⟩,
    ⟨slotConnected, slotNetwork, mapped, isKey⟩, connected, network, atServer, atClient⟩ :=
    of_decide_eq_true facts
  have exchange := Sample.exchange_new.execute done
  obtain ⟨fromClient, -, fromServer⟩ := payloads_delivered Sample.config_nonReentrant
    Sample.clientConfig_nonReentrant rfl exchange once oneRun own apart few below
    Sample.issued_distinct only
  exact ⟨s, c, exchange, atServer, fromClient 0 0 slotConnected slotNetwork mapped isKey, atClient,
    fromServer fresh network connected⟩

/-- **The same payload is sent twice under the same number**: a batch installs the token again, and the
slot counts its packets from zero. The client returns a payload that matches both calls of
`SendPacket`. -/
theorem payload_sent_twice : ∃ (s : Server) (c : Client),
    Exchange samplePlatform Sample.config Sample.clientConfig Sample.clientToken s c ∧
      Client.ConnectsOnce Sample.clientToken c.trace ∧ OneRun s.trace ∧
      OwnKeys Sample.clientToken s.trace ∧ KeysApart Sample.clientToken s.trace ∧
      Client.sendCount c.trace < 2 ^ 64 ∧ BelowLast s.trace ∧
      OnlyIssued (· ∈ Sample.issued) s.trace ∧
      c.state = .connected ∧ c.loopback = false ∧ c.clientIndex = 0 ∧
      (Sample.news, 2) ∈ Client.returned c.trace ∧
      (sendsUnder Sample.clientToken.serverToClientKey 0 s.trace).count (Sample.news, 2) = 2 := by
  have runs : (executeExchange samplePlatform Sample.config Sample.clientConfig Sample.clientToken
      Sample.server (.new 0) Sample.sendsTwice).map (fun (s, c) => decide
        (Client.ConnectsOnce Sample.clientToken c.trace ∧ OneRun s.trace ∧
          OwnKeys Sample.clientToken s.trace ∧ KeysApart Sample.clientToken s.trace ∧
          Client.sendCount c.trace < 2 ^ 64 ∧ BelowLast s.trace ∧
          OnlyIssued (· ∈ Sample.issued) s.trace ∧
          c.state = .connected ∧ c.loopback = false ∧ c.clientIndex = 0 ∧
          (Sample.news, 2) ∈ Client.returned c.trace ∧
          (sendsUnder Sample.clientToken.serverToClientKey 0 s.trace).count (Sample.news, 2) = 2)) =
      some true := by
    decide +kernel
  obtain ⟨⟨s, c⟩, done, facts⟩ := Option.map_eq_some_iff.mp runs
  exact ⟨s, c, Sample.exchange_new.execute done, of_decide_eq_true facts⟩

end Netcode
