/-
**From the token to the last payload.**

A client that has just taken up a token and a server that can admit it are wired up as in
`Netcode.System.Link`. Two updates later the handshake is over: in the first one the request goes up
and the challenge comes down, in the second one the response goes up and the keep-alive comes down.
From then on the two are a duplex channel.

* `Answering` — the link between the two updates;
* `Link.asks`, `Answering.answers` — the two updates;
* `session_refines_channel` — **from `Connect` on, every sequence of operations that the channel
  answers for is answered alike**, and the client stays connected.
-/

import Mathlib.Tactic.Linarith
import Netcode.Client.Fresh
import Netcode.System.Completeness
import Netcode.System.Link

namespace Netcode

open Duplex Refinement

/-- What `Connect` starts with: the first number, and an empty queue. -/
theorem Client.connect_blank {env : Platform} {config : ClientConfig} {c first : Client} {data : Bytes}
    (quiet : config.NonReentrant) (prepared : c.Prepared)
    (connects : Client.connect env config c data = some first) :
    first.sequence = 0 ∧ first.packetReceiveQueue = .clear := by
  unfold Client.connect at connects
  obtain ⟨left, leaves, connects⟩ := Option.bind_eq_some_iff.mp connects
  obtain ⟨⟨token, good⟩, -, connects⟩ := Option.bind_eq_some_iff.mp connects
  obtain ⟨prepared, idle⟩ := Client.disconnect_prepared quiet prepared leaves
  have blank := prepared.blank idle
  dsimp only at connects
  split_ifs at connects
  · rw [Client.setState_eq quiet] at connects
    cases connects
    exact ⟨blank.sequence, blank.packetReceiveQueue⟩
  · obtain ⟨address, -, connects⟩ := Option.bind_eq_some_iff.mp connects
    rw [Client.setState_eq quiet] at connects
    cases connects
    exact ⟨blank.sequence, blank.packetReceiveQueue⟩

/-- **The link between the two updates of a handshake**: the server waits for the response to its
challenge, which the client has taken up. -/
structure Answering (w : Wiring) (h : Server.Handshake) (challengeSequence : UInt64) (start : ℚ)
    (now : Instant) (l : Link) : Prop where
  waiting : Server.Waiting w.env h l.server
  client : Client.Handshaking l.client.connectToken l.client.serverAddress start
    .sendingConnectionResponse l.client
  sequence : l.client.challengeTokenSequence = challengeSequence
  challenge : l.client.challengeTokenData =
    Server.challengeFor w.env h.token challengeSequence h.challengeKey
  server : w.serverAddress.Equal l.client.serverAddress = true
  protocol : l.client.connectToken.protocolID = w.config.protocolID
  upKey : h.token.clientToServerKey = l.client.writePacketKey
  downKey : h.token.serverToClientKey = l.client.readPacketKey
  source : h.source = w.clientAddress
  serverTime : l.server.time = now.time
  sentAt : l.client.lastPacketSendTime = now.time
  heardAt : l.client.lastPacketReceiveTime = now.time
  second : l.client.sequence = 1
  empty : l.client.packetReceiveQueue = .clear

section Handshake

variable {w : Wiring} {l : Link} {now next : Instant}

/-- One update of both sides, in which the client sends a datagram. -/
theorem Link.pass_eq {c c' : Client} {s : Server} {data : Bytes} {new : List Bytes}
    (updates : Client.update w.env w.clientConfig l.client now.time [] = some c)
    (sends : sentByClient c.trace = data :: sentByClient l.client.trace)
    (serves : Server.update w.env w.config l.server now.time now.clock
      [⟨w.clientAddress, data, now.clock⟩] = some s)
    (answers : sentTo w.clientAddress s.trace = new ++ sentTo w.clientAddress l.server.trace)
    (hears : new.reverse.foldlM (fun c data =>
      Client.processPacket w.env w.clientConfig c w.serverAddress data now.clock) c = some c') :
    l.step w (.pass now) = some (⟨s, c', now.clock⟩, none) := by
  have batch : sentSince (sentByClient l.client.trace) (sentByClient c.trace) = [data] := by
    rw [sends, ← List.singleton_append, sentSince_append, List.reverse_singleton]
  simp only [step, pass, updates, Option.bind_eq_bind, Option.bind_some, batch, List.map_cons,
    List.map_nil, serves, download, answers, sentSince_append, hears]
  rfl

/-- The client that has sent its response. -/
structure Responded (w : Wiring) (h : Server.Handshake) (now : Instant) (c : Client) : Prop where
  state : c.state = .sendingConnectionResponse
  network : c.loopback = false
  hasKeys : c.hasPacketKeys = true
  stays : c.shouldDisconnect = false
  window : c.replayProtection = .reset
  empty : c.packetReceiveQueue = .clear
  server : w.serverAddress.Equal c.serverAddress = true
  protocol : c.connectToken.protocolID = w.config.protocolID
  upKey : h.token.clientToServerKey = c.writePacketKey
  downKey : h.token.serverToClientKey = c.readPacketKey
  time : c.time = now.time
  sentAt : c.lastPacketSendTime = now.time
  sequence : c.sequence = 2

/-- The client's half of the second update: its response. -/
theorem Answering.responds {h : Server.Handshake} {challengeSequence : UInt64} {start : ℚ}
    (answering : Answering w h challengeSequence start now l)
    (due : Client.Due w.env now.time next.time)
    (lasts : Client.InLifetime w.env l.client.connectToken start next.time)
    (patient : 0 < l.client.connectToken.timeoutSeconds →
      next.time ≤ w.env.float64 (now.time + l.client.connectToken.timeoutSeconds.toInt)) :
    ∃ c, Client.update w.env w.clientConfig l.client next.time [] = some c ∧
      sentByClient c.trace = writePacket w.env (h.response w.env challengeSequence) l.client.sequence
        h.token.clientToServerKey w.config.protocolID :: sentByClient l.client.trace ∧
      Responded w h next c := by
  obtain ⟨state, network, -, hasKeys, -, -, -, isStart, window, stays⟩ := answering.client
  have isPacket : Packet.connectionResponse l.client.challengeTokenSequence
      l.client.challengeTokenData = h.response w.env challengeSequence := by
    rw [answering.sequence, answering.challenge]
    rfl
  refine ⟨_, Client.update_sends network stays (Client.sendPackets_due
    (by rw [answering.sentAt]; exact due) (.inr ⟨state, rfl⟩)) (by rw [isStart]; exact lasts)
    (by rw [answering.heardAt]; exact patient), ?_, state, network, hasKeys, stays, window,
    answering.empty, answering.server, answering.protocol, answering.upKey, answering.downKey, rfl, rfl,
    ?_⟩
  · rw [Client.sentByClient_send]
    dsimp only
    rw [isPacket, ← answering.upKey, answering.protocol]
  · show l.client.sequence + 1 = 2
    rw [answering.second]
    rfl

/-- **The first keep-alive connects the client**, and the two ends fit. -/
theorem Responded.connects {h : Server.Handshake} {c : Client} {s : Server} {budget : Nat}
    (quietClient : w.clientConfig.NonReentrant) (responded : Responded w h now c)
    (source : h.source = w.clientAddress) (serverTime : s.time = now.time)
    (isFloat : w.env.IsFloat64 now.time) (numbers : 2 * budget + 2 < 2 ^ 64) (i : Nat)
    (clock : UInt64) :
    ∃ data c', ((h.opening s).keepAlive w.env w.config.protocolID i).sent =
        data :: (h.opening s).sent ∧
      Client.processPacket w.env w.clientConfig c w.serverAddress data clock = some c' ∧
      c'.lastPacketSendTime = now.time ∧
      Matches { w with slot := i } now (fun _ => []) budget (2 * budget + 1)
        ((h.opening s).keepAlive w.env w.config.protocolID i) c' := by
  obtain ⟨trace, silent, connects⟩ := @Client.hear_keepAlive w.env w.clientConfig c w.serverAddress
    quietClient responded.state responded.hasKeys responded.server 0
    (by rw [responded.window]; rfl) (Int32.ofNat i) (Int32.ofNat h.maxClients) clock
  have clear : ∃ entries, PacketQueue.clear.Represents entries ∧ entries.map Prod.fst = [] :=
    ⟨[], PacketQueue.represents_clear, rfl⟩
  have few : c.sequence.toNat + budget < 2 ^ 64 := by
    rw [responded.sequence]
    show 2 + budget < 2 ^ 64
    omega
  have fresh : (c.replayProtection.advanceSequence 0).FreshFrom (0 + 1) := by
    rw [responded.window]
    exact (ReplayProtection.freshFrom_reset 0).advance (by decide)
  refine ⟨_, _, rfl, Eq.trans ?_ connects, responded.sentAt,
    { peer := source
      talks := ⟨rfl, responded.network, responded.hasKeys, responded.stays⟩
      server := responded.server
      protocol := responded.protocol
      upKey := responded.upKey
      downKey := responded.downKey
      serverTime := serverTime
      clientTime := responded.time
      isFloat := isFloat
      up := ⟨ReplayProtection.freshFrom_reset _, few, clear, responded.sentAt ▸ isFloat,
        (responded.sentAt.trans serverTime.symm).le⟩
      down := ⟨fresh, by show 1 + (2 * budget + 1) < 2 ^ 64; omega, by
          rw [responded.empty]
          exact clear, by
          show w.env.IsFloat64 s.time
          rw [serverTime]
          exact isFloat, (serverTime.trans responded.time.symm).le⟩ }⟩
  rw [← responded.downKey, responded.protocol]
  rfl

/-- **The second update**: the response goes up, the keep-alive comes down, and the session has
begun. -/
theorem Answering.answers {h : Server.Handshake} {challengeSequence : UInt64} {start : ℚ} {budget : Nat}
    (quiet : w.config.NonReentrant) (quietClient : w.clientConfig.NonReentrant)
    (answering : Answering w h challengeSequence start now l)
    (due : Client.Due w.env now.time next.time) (forward : now.time ≤ next.time)
    (isFloat : w.env.IsFloat64 next.time)
    (lasts : Client.InLifetime w.env l.client.connectToken start next.time)
    (patient : 0 < l.client.connectToken.timeoutSeconds →
      next.time ≤ w.env.float64 (now.time + l.client.connectToken.timeoutSeconds.toInt))
    (inTime : h.InTime w.env next.time) (resolves : next.time < w.env.float64 (next.time + 1))
    (numbers : 2 * budget + 2 < 2 ^ 64) :
    ∃ i l', l.step w (.pass next) = some (l', none) ∧
      Paired { w with slot := i } h.encryptionIndex l' ⟨fun _ => [], next, budget⟩ := by
  obtain ⟨c, updates, sends, responded⟩ := answering.responds due lasts patient
  -- the server opens a line to the client
  have waiting := answering.waiting.tick (by rw [answering.serverTime]; exact forward) inTime
    (.clock next.clock)
  obtain ⟨t, i, handled, servesT, lineT⟩ := waiting.opens quiet
    (fun destination data impossible => by cases impossible) l.client.sequence challengeSequence
    next.clock next.clock
  have heard : (t.line i h.encryptionIndex).Heard w.env := by
    rw [lineT]
    exact fun positive => resolves.trans_le
      (w.env.float64_mono (add_le_add_right (one_le_seconds positive) next.time))
  obtain ⟨s, finishes, -⟩ := (Server.stepwise_slots (.of_quiet w.env quiet)).sendAndCheck servesT.ok
  obtain ⟨serves, line⟩ := (servesT.sendAndCheck quiet finishes).kept (Line.check_upkeep heard)
  rw [lineT] at line
  have serverUpdates : Server.update w.env w.config l.server next.time next.clock
      [⟨w.clientAddress, writePacket w.env (h.response w.env challengeSequence) l.client.sequence
        h.token.clientToServerKey w.config.protocolID, next.clock⟩] = some s := by
    rw [Server.update_eq_handle, ← answering.source]
    exact (congrArg (fun result => Option.bind result fun s =>
      (Server.sendPackets w.env w.config s).bind (Server.checkForTimeouts w.env w.config))
        handled).trans finishes
  -- the client hears one keep-alive, or two
  obtain ⟨first, c₁, sent₁, hears₁, sentAt₁, begins⟩ := @Responded.connects w next h c
    ({ l.server with time := next.time }.record (.clock next.clock)) budget quietClient responded
    answering.source rfl isFloat numbers i next.clock
  obtain ⟨new, c', isSent, hears, sentAt, fit, recent⟩ := begins.downUpkeep i next.clock
  rw [← line] at isSent fit recent
  refine ⟨i, ⟨s, c', next.clock⟩, @Link.pass_eq w l next c c' s _ (new ++ [first]) updates sends
    serverUpdates ?_ ?_, serves, fit.fewer (Nat.le_refl _) (by dsimp only; omega), ?_, recent⟩
  · rw [sent₁] at isSent
    have isPeer : (s.clients i).address = w.clientAddress := fit.peer
    rw [← isPeer]
    refine (show sentTo (s.clients i).address s.trace = _ from isSent).trans ?_
    rw [List.append_assoc, isPeer, ← answering.source]
    rfl
  · rw [List.reverse_append, List.reverse_singleton, List.singleton_append, List.foldlM_cons, hears₁,
      Option.bind_eq_bind, Option.bind_some]
    exact hears
  · show next.time ≤ w.env.float64 (c'.lastPacketSendTime + _)
    rw [sentAt, sentAt₁]
    exact begins.recent

/-! ### From the token on -/

variable {netip : Netip} {random : TokenRandom} {unixTime : UnixTime}
  {publicServerAddresses internalServerAddresses : List Bytes} {expireSeconds timeoutSeconds : Int64}
  {clientID : UInt64} {userData data : Bytes} {internalAddresses : List Address}
  {calls : List Server.Call} {s : Server} {clientCalls : List Client.Call} {c first : Client}

/-- **The first update**: the request goes up, and the challenge comes down. -/
theorem Link.asks (quiet : w.config.NonReentrant) (quietClient : w.clientConfig.NonReentrant)
    (run : Server.Run w.env w.config calls s) (running : s.running = true)
    (clientRun : Client.Run w.env w.clientConfig clientCalls c)
    (generated : generateConnectToken w.env netip random unixTime publicServerAddresses
      internalServerAddresses expireSeconds timeoutSeconds clientID w.config.protocolID
      w.config.privateKey.bytes userData = some (.ok data))
    (parsed : internalServerAddresses.mapM (parseAddress netip) = .ok internalAddresses)
    (connects : Client.connect w.env w.clientConfig c data = some first)
    (isFloat : w.env.IsFloat64 now.time) (due : Client.Due w.env first.lastPacketSendTime now.time)
    (patient : 0 < first.connectToken.timeoutSeconds →
      now.time ≤ w.env.float64 (first.time + first.connectToken.timeoutSeconds.toInt))
    (lasts : Client.InLifetime w.env first.connectToken first.time now.time)
    (fromServer : w.serverAddress.Equal first.serverAddress = true) (forward : s.time ≤ now.time)
    (admits : s.CanAdmit w.env ⟨now.time, now.clock, now.clock⟩ w.clientAddress
      (generateConnectTokenPrivate clientID timeoutSeconds.toInt32 internalAddresses userData random)
      (expireTimestampOf unixTime.seconds expireSeconds) first.connectToken.mac) (clock : UInt64) :
    ∃ e l', Link.step w ⟨s, first, clock⟩ (.pass now) = some (l', none) ∧
      l'.client.connectToken = first.connectToken ∧
      Answering w ⟨w.clientAddress, generateConnectTokenPrivate clientID timeoutSeconds.toInt32
        internalAddresses userData random, now.time, e, s.challengeKey, s.maxClients⟩
        s.challengeSequence first.time now l' := by
  obtain ⟨handshaking, heard, isProtocol, isExpire, isClientKey, isServerKey, tokenData, sealedData,
    readsPrivate⟩ := connect_handshaking quietClient clientRun generated parsed connects
  obtain ⟨isFirst, empty⟩ := Client.connect_blank quietClient (clientRun.prepared quietClient) connects
  obtain ⟨state, network, -, hasKeys, readKey, writeKey, -, isStart, window, stays⟩ := handshaking
  -- the request
  have updates := @Client.update_sends w.env w.clientConfig first now.time first.requestPacket network
    stays (Client.sendPackets_due due (.inl ⟨state, rfl⟩)) (by rw [isStart]; exact lasts)
    (by rw [heard]; exact patient)
  have sends := Client.sentByClient_send w.env { first with time := now.time } first.requestPacket
  dsimp only at sends
  rw [isProtocol] at sends
  -- the challenge
  obtain ⟨front, macLength, opened⟩ := openedToken_bytes tokenData first.connectToken.privateData
  obtain ⟨t, e, handled, challenged, sameTime, waiting⟩ :=
    @Server.handle_request w.env w.config s _ w.clientAddress quiet run running
      ⟨now.time, now.clock, now.clock⟩ ⟨forward, isFloat⟩ _ _ _
      (writePacket w.env first.requestPacket first.sequence first.writePacketKey w.config.protocolID) _
      rfl
    (by
      simp only [Client.requestPacket, writePacket, List.cons_append, List.length_cons,
        List.length_append, FixedBytes.length_eq, connectTokenPrivateBytes]
      omega)
    (fun key window => readPacket_request first.sequence first.writePacketKey rfl rfl isProtocol
      (isExpire ▸ admits.unexpired) (isExpire ▸ admits.afterStart) sealedData)
    (by rw [opened]; exact readsPrivate _ macLength)
    (by
      unfold Server.requestMac
      dsimp only
      rw [opened, List.drop_left' front]
      exact admits)
  have replies := Server.readAndProcessPacket_reply quiet handled (run.reached.ok quiet).1 challenged
    (fun destination data impossible => by cases impossible)
  obtain ⟨s', finishes, chain⟩ := Server.sendAndCheck_upkeep w.env quiet waiting.ok
  have nothing := Server.Stranger.sendAndCheck quiet
    (.of_find waiting.ok waiting.strangerAddress) finishes
  obtain ⟨time, -, keeps⟩ := @Server.upkeep_chain w.env t s' _ chain
  have serverUpdates : Server.update w.env w.config s now.time now.clock
      [⟨w.clientAddress, writePacket w.env first.requestPacket first.sequence first.writePacketKey
        w.config.protocolID, now.clock⟩] = some s' := by
    rw [Server.update_eq_handle, handled, Option.bind_some, finishes]
  obtain ⟨trace, -, hears⟩ := @Client.hear_challenge w.env w.clientConfig
    (Client.sendPacketToServerInternal w.env { first with time := now.time } first.requestPacket)
    w.serverAddress quietClient state hasKeys fromServer s.challengeSequence s.globalSequence now.clock
    (Server.challengeFor w.env (generateConnectTokenPrivate clientID timeoutSeconds.toInt32
      internalAddresses userData random) s.challengeSequence s.challengeKey)
  have keys : first.readPacketKey = random.serverToClientKey ∧
      first.writePacketKey = random.clientToServerKey :=
    ⟨readKey.trans isServerKey, writeKey.trans isClientKey⟩
  have answered := @Link.pass_eq w ⟨s, first, clock⟩ now _ _ s' _ [_] updates sends serverUpdates
    (nothing.trans (sentTo_reply admits.usable replies))
    (by
      rw [List.reverse_singleton, List.foldlM_cons]
      refine (congrArg (fun result => Option.bind result _) (Eq.trans ?_ hears)).trans rfl
      dsimp only [Client.sendPacketToServerInternal]
      rw [keys.1, isProtocol]
      rfl)
  exact ⟨e, _, answered, rfl,
    { waiting := keeps waiting
      client := ⟨rfl, network, rfl, hasKeys, readKey, writeKey, rfl, isStart, window, stays⟩
      sequence := rfl
      challenge := rfl
      server := fromServer
      protocol := isProtocol
      upKey := keys.2.symm
      downKey := keys.1.symm
      source := rfl
      serverTime := time.trans sameTime
      sentAt := rfl
      heardAt := rfl
      second := by
        show first.sequence + 1 = 1
        rw [isFirst]
        rfl
      empty := empty }⟩

/-- **From `Connect` to the last payload.** Let a server be in any state a run reaches, and let a client
take up a token that the backend generated for it. If the server can admit the token and two updates
of both sides follow in time, the client is connected, and from then on the session is a duplex
channel: whatever the two applications send and receive, however often both sides are updated, and
whatever datagrams reach the server from other addresses, every operation that the channel answers for
returns what the channel returns, none fails, and the client stays connected. The channel answers as
long as the updates follow each other closely enough and the numbers do not run out. -/
theorem session_refines_channel (quiet : w.config.NonReentrant)
    (quietClient : w.clientConfig.NonReentrant) (run : Server.Run w.env w.config calls s)
    (running : s.running = true) (clientRun : Client.Run w.env w.clientConfig clientCalls c)
    (generated : generateConnectToken w.env netip random unixTime publicServerAddresses
      internalServerAddresses expireSeconds timeoutSeconds clientID w.config.protocolID
      w.config.privateKey.bytes userData = some (.ok data))
    (parsed : internalServerAddresses.mapM (parseAddress netip) = .ok internalAddresses)
    (connects : Client.connect w.env w.clientConfig c data = some first)
    (timely : first.Timely w.env now.time next.time next.time)
    (patient : 0 < first.connectToken.timeoutSeconds →
      next.time ≤ w.env.float64 (now.time + first.connectToken.timeoutSeconds.toInt))
    (inTime : 0 ≤ timeoutSeconds.toInt32 →
      next.time ≤ w.env.float64 (now.time + timeoutSeconds.toInt32.toInt))
    (resolves : next.time < w.env.float64 (next.time + 1))
    (fromServer : w.serverAddress.Equal first.serverAddress = true) (forward : s.time ≤ now.time)
    (admits : s.CanAdmit w.env ⟨now.time, now.clock, now.clock⟩ w.clientAddress
      (generateConnectTokenPrivate clientID timeoutSeconds.toInt32 internalAddresses userData random)
      (expireTimestampOf unixTime.seconds expireSeconds) first.connectToken.mac) (clock : UInt64) :
    ∃ i l₁ l₂, Link.step w ⟨s, first, clock⟩ (.pass now) = some (l₁, none) ∧
      Link.step w l₁ (.pass next) = some (l₂, none) ∧
      ∀ budget ops channel results, 2 * budget + 2 < 2 ^ 64 →
        Runs (Step w.terms) ⟨fun _ => [], next, budget⟩ ops channel results →
        ∃ l, runM (Link.step { w with slot := i }) l₂ ops = some (l, results) ∧
          l.client.state = .connected ∧ (l.server.clients i).connected = true ∧
          (l.server.clients i).address = w.clientAddress := by
  have lasts : Client.InLifetime w.env first.connectToken first.time now.time :=
    (w.env.float64_mono (sub_le_sub_right timely.forward _)).trans_lt timely.lasts
  obtain ⟨e, l₁, asks, sameToken, answering⟩ := Link.asks quiet quietClient run running clientRun
    generated parsed connects timely.isFloat₁ timely.asks timely.patient lasts fromServer forward admits
    clock
  obtain ⟨i, l₂, answers, paired⟩ := @Answering.answers w l₁ now next _ _ _ (2 ^ 63 - 2) quiet
    quietClient answering timely.answers timely.forward timely.isFloat₂
    (by rw [sameToken]; exact timely.lasts) (by rw [sameToken]; exact patient) inTime resolves
    (by norm_num)
  refine ⟨i, l₁, l₂, asks, answers, fun budget ops channel results small runs => ?_⟩
  obtain ⟨l, follows, paired'⟩ := (@paired_forward { w with slot := i } e quiet).runs runs l₂
    (paired.fewer (by omega))
  exact ⟨l, follows, paired'.fit.talks.state, paired'.serves.connected, paired'.fit.peer⟩

end Handshake

/-! ### A session of the sample server -/

/-- A server with two slots can admit a client that has just taken up its token. -/
theorem Sample.admits : ∃ s data first,
    Server.execute samplePlatform Sample.config Sample.server [.start 2 Sample.challengeKey 1000] =
      some s ∧ s.running = true ∧ s.time = 0 ∧ Sample.generated = some (.ok data) ∧
    Client.connect samplePlatform Sample.clientConfig (Client.new 0) data = some first ∧
    first.serverAddress = Sample.serverAddress ∧ first.connectToken.timeoutSeconds = 10 ∧
    first.Timely samplePlatform 0 1 1 ∧
    s.CanAdmit samplePlatform ⟨0, 1001, 1001⟩ Sample.secondAddress
      (generateConnectTokenPrivate 2 (10 : Int64).toInt32 Sample.addresses [1, 2, 3]
        Sample.tokenRandom) (expireTimestampOf 1000 30) first.connectToken.mac := by
  obtain ⟨data, first, generates, connects, server, timeout, timely⟩ := Sample.takesUp
  refine ⟨_, data, first, rfl, rfl, rfl, generates, connects, server, timeout, timely,
    { usable := rfl
      unexpired := by decide
      afterStart := by decide
      listed := by decide
      strangerAddress := fun i connected => by cases connected
      strangerID := fun i connected => by cases connected
      history := .inl ⟨fun i _ used => absurd rfl used, 0, by decide, .inl rfl⟩
      free := ⟨0, by decide, rfl⟩
      room := ⟨0, by decide, .inl rfl⟩ }⟩

/-- The sample client and server, wired up. -/
def Sample.wiring : Wiring where
  env := samplePlatform
  config := Sample.config
  clientConfig := Sample.clientConfig
  slot := 0
  clientAddress := Sample.secondAddress
  serverAddress := Sample.serverAddress

theorem Sample.paced {now next : ℚ} (forward : now ≤ next) (close : next < now + 9 / 10) :
    Paced samplePlatform now next :=
  ⟨forward, rfl, fun sent _ recent => by
    have recent : now ≤ sent + 1 / 10 := recent
    show next < sent + 1
    linarith⟩

/-- **A short session**: a payload goes up and is received, somebody else sends a request, a payload
comes down, both sides are updated, and the payload is received. -/
theorem session_refines_channel_sample : ∃ s first i l₁ l₂ l,
    Server.execute samplePlatform Sample.config Sample.server [.start 2 Sample.challengeKey 1000] =
      some s ∧
    Link.step Sample.wiring ⟨s, first, 1000⟩ (.pass ⟨0, 1001⟩) = some (l₁, none) ∧
    Link.step Sample.wiring l₁ (.pass ⟨1, 1002⟩) = some (l₂, none) ∧
    runM (Link.step { Sample.wiring with slot := i }) l₂
      [.send .left [1, 2, 3], .receive .right,
        .disturb ⟨Sample.firstAddress, Sample.request Sample.first 1040, 1002⟩, .send .right [4],
        .pass ⟨3 / 2, 1003⟩, .receive .left] =
      some (l, [none, some [1, 2, 3], none, none, none, some [4]]) ∧
    l.client.state = .connected ∧ (l.server.clients i).connected = true := by
  obtain ⟨s, data, first, executes, running, isTime, generates, connects, server, timeout, timely,
    admits⟩ := Sample.admits
  obtain ⟨i, l₁, l₂, asks, answers, follows⟩ := @session_refines_channel Sample.wiring ⟨0, 1001⟩
    ⟨1, 1002⟩ Sample.netip Sample.tokenRandom Sample.unixTime Sample.addressTexts Sample.addressTexts
    30 10 2 [1, 2, 3] data Sample.addresses _ s _ (Client.new 0) first Sample.config_nonReentrant
    Sample.clientConfig_nonReentrant (Sample.server_run.execute executes) running (.new 0) generates
    Sample.parses connects timely
    (fun _ => by
      show (1 : ℚ) ≤ 0 + first.connectToken.timeoutSeconds.toInt
      rw [timeout]
      show (1 : ℚ) ≤ 0 + (10 : Int)
      norm_num)
    (fun _ => show (1 : ℚ) ≤ 0 + (10 : Int) by norm_num) (show (1 : ℚ) < 1 + 1 by norm_num)
    (by rw [server]; rfl) isTime.le admits 1000
  have harmless : Sample.wiring.terms.harmless
      ⟨Sample.firstAddress, Sample.request Sample.first 1040, 1002⟩ :=
    show Sample.secondAddress.Equal Sample.firstAddress = false by decide
  obtain ⟨l, returns, connected, stays, -⟩ := follows 3 _ _ _ (by norm_num)
    (.cons (.send _ _ 2 .left [1, 2, 3] ⟨by decide, by decide⟩) <| .cons (.receive _ .right) <|
      .cons (.disturb _ _ harmless) <| .cons (.send _ _ 1 .right [4] ⟨by decide, by decide⟩) <|
      .cons (.pass _ _ 0 ⟨3 / 2, 1003⟩ (Sample.paced (by norm_num) (by norm_num))) <|
      .cons (.receive _ .left) (.nil _))
  exact ⟨s, first, i, l₁, l₂, l, executes, asks, answers, returns, connected, stays⟩

end Netcode
