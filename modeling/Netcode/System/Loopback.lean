/-
**A session over the loopback.**

A loopback client and its server run in one process, and the application hands the payloads of one to
the other in the callbacks. No datagram is sent, nothing is sealed and nothing times out; but what the
application sees is the same duplex channel as over the network (`Netcode.Lib.Duplex`), at whatever
times the two are updated and whatever else happens to the server and its other clients.

* `Loop.step` — the composition: a call of either side, whose payloads reach the other side at once;
* `Joined` — the session against the channel it implements;
* `loopback_refines_channel` — **from the two connect calls on, every sequence of operations is
  answered as the channel answers it**, and the client sends no datagram.
-/

import Netcode.Client.Fresh
import Netcode.Server.Loopback
import Netcode.System.Link

namespace Netcode

open Duplex Refinement

/-! ### The composition -/

/-- The server and the client of a process, and the slot of the loopback client. -/
structure Hosting where
  env : Platform
  config : ServerConfig
  clientConfig : ClientConfig
  slot : Nat

structure Loop where
  server : Server
  client : Client

/-- What the server handed to its loopback callback for a slot, newest first. -/
def loopedTo (i : Nat) (trace : List Effect) : List (Bytes × UInt64) :=
  trace.filterMap fun
    | .sentLoopback slot payload sequence => if slot = i then some (payload, sequence) else none
    | _ => none

/-- What the client handed to its loopback callback, newest first. -/
def loopedByClient (trace : List ClientEffect) : List (Bytes × UInt64) :=
  trace.filterMap fun
    | .sentLoopback payload sequence => some (payload, sequence)
    | _ => none

/-- What else may happen: calls of the server, and of the client. -/
inductive Bystander where
  | server (call : Server.Call)
  | client (call : Client.Call)

/-- The calls of the client that have to do with the network only. -/
def Client.Call.isNetwork : Client.Call → Bool
  | .update _ _ | .processPacket _ _ _ => true
  | _ => false

namespace Loop

section Operations

variable (h : Hosting)

/-- The client has sent something, and its callback hands it to the server. -/
def upload (l : Loop) (client : Client) : Loop where
  server := (sentSince (loopedByClient l.client.trace) (loopedByClient client.trace)).foldl
    (fun s packet => s.processLoopbackPacket client.clientIndex packet.1 packet.2) l.server
  client := client

/-- The server has sent something, and its callback hands it to the client. -/
def download (l : Loop) (server : Server) : Loop where
  server := server
  client := (sentSince (loopedTo h.slot l.server.trace) (loopedTo h.slot server.trace)).foldl
    (fun c packet => c.processLoopbackPacket packet.1 packet.2) l.client

/-- **One operation on the loop.** The client is the left side, the server the right one. -/
def step (l : Loop) : Op Bytes Instant Bystander → Go (Loop × Option Bytes)
  | .send .left payload => do
    let client ← Client.sendPacket h.env h.clientConfig l.client payload
    return (l.upload client, none)
  | .send .right payload => do
    let server ← Server.sendPacket h.env h.config l.server h.slot payload
    return (l.download h server, none)
  | .receive .left =>
    let client := l.client.receivePacket
    some ({ l with client := client }, l.client.handedOut client)
  | .receive .right =>
    let server := l.server.receivePacket h.slot
    some ({ l with server := server }, l.server.handedOut server)
  | .pass now => do
    let client ← Client.update h.env h.clientConfig l.client now.time []
    let server ← Server.update h.env h.config l.server now.time now.clock []
    return (⟨server, client⟩, none)
  | .disturb (.server call) => do
    let server ← Server.step h.env h.config l.server call
    return ({ l with server := server }, none)
  | .disturb (.client call) => do
    let client ← Client.step h.env h.clientConfig l.client call
    return ({ l with client := client }, none)

end Operations

end Loop

/-- The calls that the session stands. -/
def Bystander.Harmless (i : Nat) : Bystander → Prop
  | .server call => call.Spares i
  | .client call => call.isNetwork = true

/-- **The channel that a loopback session implements.** -/
def Hosting.terms (h : Hosting) : Terms Bytes Instant Bystander where
  capacity := packetQueueSize
  fits := fun payload => 1 ≤ payload.length ∧ payload.length ≤ MaxPacketSize
  paced := fun _ _ => True
  harmless := Bystander.Harmless h.slot

/-! ### The client -/

namespace Client

variable {env : Platform} {config : ClientConfig} {c : Client}

/-- **The client is in loopback mode**, and has no keys for the network. -/
structure Looped (c : Client) (i : Nat) : Prop where
  state : c.state = .connected
  loopback : c.loopback = true
  clientIndex : c.clientIndex = i
  hasKeys : c.hasPacketKeys = false

/-- **What has to do with the network only passes the client by.** -/
theorem Looped.network {i : Nat} (looped : Looped c i) {call : Call} (network : call.isNetwork = true) :
    ∃ time, step env config c call = some { c with time := time } := by
  cases call with
  | update time batch =>
    refine ⟨time, ?_⟩
    rw [step, Client.update, if_pos looped.loopback]
  | processPacket source data currentTimestamp =>
    exact ⟨c.time, processPacket_keyless looped.hasKeys source data currentTimestamp⟩
  | _ => cases network

/-- A payload of the loopback client is handed to the callback. -/
theorem Looped.sendPacket (env : Platform) {i : Nat} (quiet : config.NonReentrant)
    (callback : config.sendLoopbackPacketCallback ≠ none) (looped : Looped c i) {payload : Bytes}
    (fits : 1 ≤ payload.length ∧ payload.length ≤ MaxPacketSize) :
    Client.sendPacket env config c payload = some { c with
      sequence := c.sequence + 1
      trace := .sentLoopback payload c.sequence :: c.trace } := by
  obtain ⟨call, isCallback⟩ := Option.ne_none_iff_exists'.mp callback
  rw [Client.sendPacket, if_neg (by omega), if_neg (by simp [looped.state]),
    if_neg (by simp [looped.loopback]), isCallback, Option.bind_eq_bind, Option.bind_some,
    quiet.sendLoopback call isCallback]
  rfl

/-- A payload for the loopback client is queued. -/
theorem Looped.processLoopbackPacket {i : Nat} (looped : Looped c i) {payload : Bytes}
    (fits : 1 ≤ payload.length ∧ payload.length ≤ MaxPacketSize) (sequence : UInt64) :
    ∃ trace, sentByClient trace = sentByClient c.trace ∧
      Client.processLoopbackPacket c payload sequence = { c with
        packetReceiveQueue := (c.packetReceiveQueue.push payload sequence).1
        trace := trace } := by
  refine ⟨(if (c.packetReceiveQueue.push payload sequence).2 then .queued payload sequence :: c.trace
    else c.trace), ?_, ?_⟩
  · split_ifs <;> rfl
  · rw [Client.processLoopbackPacket, if_neg (by simp [looped.loopback]), if_neg (by omega)]
    rfl

end Client

/-! ### The session -/

/-- **The session against the channel.** The client has sent the datagrams `sent` and no more. -/
structure Joined (h : Hosting) (sent : List Bytes) (l : Loop) (channel : Channel Bytes Instant) :
    Prop where
  hosts : l.server.Hosts h.slot
  client : l.client.Looped h.slot
  up : (l.server.clients h.slot).packetQueue.Holds (channel.waiting .right)
  down : l.client.packetReceiveQueue.Holds (channel.waiting .left)
  silent : sentByClient l.client.trace = sent

section Operations

variable {h : Hosting} {sent : List Bytes} {l : Loop} {waiting : Side → List Bytes} {now next : Instant}
  {budget budget' : Nat} {payload : Bytes}

/-- **The client sends a payload.** -/
theorem Joined.clientSend (quiet : h.clientConfig.NonReentrant)
    (callback : h.clientConfig.sendLoopbackPacketCallback ≠ none)
    (joined : Joined h sent l ⟨waiting, now, budget⟩)
    (fits : 1 ≤ payload.length ∧ payload.length ≤ MaxPacketSize) :
    ∃ l', l.step h (.send .left payload) = some (l', none) ∧ Joined h sent l'
      ⟨Function.update waiting .right (offer packetQueueSize (waiting .right) payload), now,
        budget'⟩ := by
  have looped := joined.client
  have sends := looped.sendPacket h.env quiet callback fits
  obtain ⟨hosts, queue⟩ := joined.hosts.processLoopbackPacket fits l.client.sequence
  have uploads : l.upload { l.client with
      sequence := l.client.sequence + 1
      trace := .sentLoopback payload l.client.sequence :: l.client.trace } =
        ⟨l.server.processLoopbackPacket h.slot payload l.client.sequence, { l.client with
          sequence := l.client.sequence + 1
          trace := .sentLoopback payload l.client.sequence :: l.client.trace }⟩ := by
    have looped' : loopedByClient (.sentLoopback payload l.client.sequence :: l.client.trace) =
        [(payload, l.client.sequence)] ++ loopedByClient l.client.trace := rfl
    rw [Loop.upload]
    dsimp only
    rw [looped', sentSince_append, looped.clientIndex]
    rfl
  refine ⟨⟨l.server.processLoopbackPacket h.slot payload l.client.sequence, { l.client with
    sequence := l.client.sequence + 1
    trace := .sentLoopback payload l.client.sequence :: l.client.trace }⟩, ?_, hosts,
    ⟨looped.state, looped.loopback, looped.clientIndex, looped.hasKeys⟩, ?_, ?_, joined.silent⟩
  · simp only [Loop.step, sends, Option.bind_eq_bind, Option.bind_some, uploads]
    rfl
  · dsimp only
    rw [queue, Function.update_self]
    exact joined.up.push payload l.client.sequence
  · dsimp only
    rw [Function.update_of_ne (by decide)]
    exact joined.down

/-- **The server sends a payload.** -/
theorem Joined.serverSend (quiet : h.config.NonReentrant)
    (callback : h.config.sendLoopbackPacketCallback ≠ none)
    (joined : Joined h sent l ⟨waiting, now, budget⟩)
    (fits : 1 ≤ payload.length ∧ payload.length ≤ MaxPacketSize) :
    ∃ l', l.step h (.send .right payload) = some (l', none) ∧ Joined h sent l'
      ⟨Function.update waiting .left (offer packetQueueSize (waiting .left) payload), now,
        budget'⟩ := by
  have looped := joined.client
  obtain ⟨s', sends, hosts, queue, isTrace⟩ := joined.hosts.sendPacket h.env quiet callback fits
  obtain ⟨trace, silent, hears⟩ := looped.processLoopbackPacket fits
    (l.server.clients h.slot).sequence
  have downloads : l.download h s' = ⟨s', l.client.processLoopbackPacket payload
      (l.server.clients h.slot).sequence⟩ := by
    have looped' : loopedTo h.slot (.sentLoopback h.slot payload
        (l.server.clients h.slot).sequence :: l.server.trace) =
          [(payload, (l.server.clients h.slot).sequence)] ++ loopedTo h.slot l.server.trace := by
      simp [loopedTo]
    rw [Loop.download, isTrace, looped', sentSince_append]
    rfl
  refine ⟨⟨s', l.client.processLoopbackPacket payload (l.server.clients h.slot).sequence⟩, ?_, hosts,
    ?_, ?_, ?_, ?_⟩
  · simp only [Loop.step, sends, Option.bind_eq_bind, Option.bind_some, downloads]
    rfl
  · dsimp only
    rw [hears]
    exact ⟨looped.state, looped.loopback, looped.clientIndex, looped.hasKeys⟩
  · dsimp only
    rw [queue, Function.update_of_ne (by decide)]
    exact joined.up
  · dsimp only
    rw [hears, Function.update_self]
    exact joined.down.push payload _
  · dsimp only
    rw [hears]
    exact silent.trans joined.silent

/-- **The client's application takes a payload.** -/
theorem Joined.clientReceive (joined : Joined h sent l ⟨waiting, now, budget⟩) :
    ∃ l', l.step h (.receive .left) = some (l', (waiting .left).head?) ∧ Joined h sent l'
      ⟨Function.update waiting .left (waiting .left).tail, now, budget⟩ := by
  have looped := joined.client
  obtain ⟨rest, first⟩ := joined.down.pop
  have handedOut : l.client.handedOut l.client.receivePacket = (waiting .left).head? := by
    rw [Client.handedOut_eq, first]
  refine ⟨{ l with client := l.client.receivePacket }, by rw [← handedOut]; rfl, joined.hosts, ?_, ?_, ?_,
    ?_⟩
  · dsimp only
    rw [Client.receivePacket_eq]
    exact ⟨looped.state, looped.loopback, looped.clientIndex, looped.hasKeys⟩
  · dsimp only
    rw [Function.update_of_ne (by decide)]
    exact joined.up
  · dsimp only
    rw [Client.receivePacket_eq, Function.update_self]
    exact rest
  · dsimp only
    rw [Client.receivePacket_eq, popped]
    refine Eq.trans ?_ joined.silent
    cases l.client.packetReceiveQueue.pop.2.1 <;> rfl

/-- **The server's application takes a payload.** -/
theorem Joined.serverReceive (joined : Joined h sent l ⟨waiting, now, budget⟩) :
    ∃ l', l.step h (.receive .right) = some (l', (waiting .right).head?) ∧ Joined h sent l'
      ⟨Function.update waiting .right (waiting .right).tail, now, budget⟩ := by
  obtain ⟨rest, first⟩ := joined.up.pop
  obtain ⟨hosts, queue⟩ := joined.hosts.receivePacket
  have handedOut : l.server.handedOut (l.server.receivePacket h.slot) = (waiting .right).head? := by
    rw [Server.handedOut_eq joined.hosts.valid joined.hosts.connected]
    exact first
  refine ⟨{ l with server := l.server.receivePacket h.slot }, by rw [← handedOut]; rfl, hosts,
    joined.client, ?_, ?_, joined.silent⟩
  · dsimp only
    rw [queue, Function.update_self]
    exact rest
  · dsimp only
    rw [Function.update_of_ne (by decide)]
    exact joined.down

/-- **Something else happens to either side.** -/
theorem Joined.disturb (quiet : h.config.NonReentrant)
    (callback : h.config.sendLoopbackPacketCallback ≠ none)
    (joined : Joined h sent l ⟨waiting, now, budget⟩) {noise : Bystander}
    (harmless : noise.Harmless h.slot) :
    ∃ l', l.step h (.disturb noise) = some (l', none) ∧
      Joined h sent l' ⟨waiting, now, budget⟩ := by
  have looped := joined.client
  cases noise with
  | server call =>
    obtain ⟨s', returns, hosts, slot⟩ := joined.hosts.spared h.env quiet callback harmless
    refine ⟨⟨s', l.client⟩, ?_, hosts, looped, by rw [slot]; exact joined.up, joined.down,
      joined.silent⟩
    simp only [Loop.step, returns, Option.bind_eq_bind, Option.bind_some]
    rfl
  | client call =>
    obtain ⟨time, returns⟩ := @Client.Looped.network h.env h.clientConfig l.client h.slot looped call
      harmless
    refine ⟨⟨l.server, { l.client with time := time }⟩, ?_, joined.hosts,
      ⟨looped.state, looped.loopback, looped.clientIndex, looped.hasKeys⟩, joined.up, joined.down,
      joined.silent⟩
    simp only [Loop.step, returns, Option.bind_eq_bind, Option.bind_some]
    rfl

/-- **Time passes**, or goes back. -/
theorem Joined.pass (quiet : h.config.NonReentrant)
    (joined : Joined h sent l ⟨waiting, now, budget⟩) :
    ∃ l', l.step h (.pass next) = some (l', none) ∧ Joined h sent l' ⟨waiting, next, budget'⟩ := by
  have looped := joined.client
  obtain ⟨s', returns, -⟩ := Server.update_moves (.of_quiet h.env quiet) joined.hosts.ok next.time
    next.clock []
  obtain ⟨hosts, slot⟩ := joined.hosts.update quiet returns
  have updates : Client.update h.env h.clientConfig l.client next.time [] =
      some { l.client with time := next.time } := if_pos looped.loopback
  refine ⟨⟨s', { l.client with time := next.time }⟩, ?_, hosts,
    ⟨looped.state, looped.loopback, looped.clientIndex, looped.hasKeys⟩, by rw [slot]; exact joined.up,
    joined.down, joined.silent⟩
  simp only [Loop.step, updates, returns, Option.bind_eq_bind, Option.bind_some]
  rfl

/-- A payload that does not fit is not sent. -/
theorem Joined.refuse (l : Loop) (side : Side)
    (large : ¬ (1 ≤ payload.length ∧ payload.length ≤ MaxPacketSize)) :
    l.step h (.send side payload) = some (l, none) := by
  have size : payload.length ≤ 0 ∨ MaxPacketSize < payload.length := by omega
  cases side with
  | left =>
    have sends : Client.sendPacket h.env h.clientConfig l.client payload = some l.client := by
      rw [Client.sendPacket, if_pos size]
    have uploads : l.upload l.client = l := by
      rw [Loop.upload, sentSince_self]
      rfl
    simp only [Loop.step, sends, Option.bind_eq_bind, Option.bind_some, uploads]
    rfl
  | right =>
    have sends : Server.sendPacket h.env h.config l.server h.slot payload = some l.server := by
      rw [Server.sendPacket, if_pos size]
    have downloads : l.download h l.server = l := by
      rw [Loop.download, sentSince_self]
      rfl
    simp only [Loop.step, sends, Option.bind_eq_bind, Option.bind_some, downloads]
    rfl

/-- **Every operation on the channel is followed.** -/
theorem joined_forward (quiet : h.config.NonReentrant) (quietClient : h.clientConfig.NonReentrant)
    (callback : h.config.sendLoopbackPacketCallback ≠ none)
    (callbackClient : h.clientConfig.sendLoopbackPacketCallback ≠ none) :
    Refinement.Forward (Joined h sent) (Loop.step h) (Step h.terms) := by
  rintro l channel op channel' result joined step
  cases step with
  | send waiting now budget side item fits =>
    cases side with
    | left => exact joined.clientSend quietClient callbackClient fits
    | right => exact joined.serverSend quiet callback fits
  | refuse channel side item large => exact ⟨l, Joined.refuse l side large, joined⟩
  | receive channel side =>
    cases side with
    | left => exact joined.clientReceive
    | right => exact joined.serverReceive
  | pass waiting now budget time paced => exact joined.pass quiet
  | disturb channel noise harmless => exact joined.disturb quiet callback harmless

/-- **A loopback session is the channel.** The server may be in any state it reaches, and the slot is
free; the client is not connected and has not started to connect. -/
theorem loopback_refines_channel (h : Hosting) (quiet : h.config.NonReentrant)
    (quietClient : h.clientConfig.NonReentrant)
    (callback : h.config.sendLoopbackPacketCallback ≠ none)
    (callbackClient : h.clientConfig.sendLoopbackPacketCallback ≠ none) {calls : List Server.Call}
    {s : Server} (reached : Server.Reached h.env h.config calls s) {clientCalls : List Client.Call}
    {c : Client} (run : Client.Run h.env h.clientConfig clientCalls c) (idle : ¬ c.Active)
    (valid : s.validSlot h.slot = some h.slot) (free : (s.clients h.slot).connected = false)
    (clientID : UInt64) (userData : Bytes) (maxClients : Int) :
    ∃ s₁, Server.connectLoopbackClient h.config s h.slot clientID userData = some s₁ ∧
      ∀ now budget ops channel results,
        Runs (Step h.terms) ⟨fun _ => [], now, budget⟩ ops channel results →
        ∃ l, runM (Loop.step h) ⟨s₁, c.connectLoopback h.slot maxClients⟩ ops = some (l, results) ∧
          l.client.state = .connected ∧ (l.server.clients h.slot).connected = true ∧
          sentByClient l.client.trace = sentByClient c.trace := by
  have blank := (run.prepared quietClient).blank idle
  obtain ⟨s₁, connects, hosts, queue⟩ := Server.Hosts.connect h.env quiet (reached.ok quiet).1 valid
    free clientID userData
  refine ⟨s₁, connects, fun now budget ops channel results runs => ?_⟩
  have joined : Joined h (sentByClient c.trace) ⟨s₁, c.connectLoopback h.slot maxClients⟩
      ⟨fun _ => [], now, budget⟩ := by
    refine ⟨hosts, ⟨rfl, rfl, rfl, blank.hasPacketKeys⟩, ?_, ?_, rfl⟩
    · rw [queue]
      exact ⟨[], PacketQueue.represents_clear, rfl⟩
    · rw [show (c.connectLoopback h.slot maxClients).packetReceiveQueue = .clear from
        blank.packetReceiveQueue]
      exact ⟨[], PacketQueue.represents_clear, rfl⟩
  obtain ⟨l, follows, joined'⟩ := (joined_forward quiet quietClient callback callbackClient).runs runs _
    joined
  exact ⟨l, follows, joined'.client.state, joined'.hosts.connected, joined'.silent⟩

end Operations

/-! ### A sample session -/

namespace Sample

/-- The sample server and a client in its second slot, with callbacks for their payloads. -/
def hosting : Hosting where
  env := samplePlatform
  config := { config with sendLoopbackPacketCallback := some fun _ _ _ s => some s }
  clientConfig := { clientConfig with sendLoopbackPacketCallback := some fun _ _ _ c => some c }
  slot := 1

theorem hosting_quiet : hosting.config.NonReentrant ∧ hosting.clientConfig.NonReentrant := by
  refine ⟨⟨nofun, ?_⟩, ⟨nofun, ?_⟩⟩
  · rintro callback ⟨⟩ slot payload sequence s
    rfl
  · rintro callback ⟨⟩ index payload sequence c
    rfl

end Sample

/-- **A short session**: a payload goes up, another one that is too large does not, a request arrives
from the network and the server is told of an earlier time, the first payload is received, and one
comes down. -/
theorem loopback_refines_channel_sample : ∃ s s₁ l,
    Server.execute samplePlatform Sample.hosting.config Sample.server
      [.start 2 Sample.challengeKey 1000] = some s ∧
    Server.connectLoopbackClient Sample.hosting.config s 1 7 [] = some s₁ ∧
    runM (Loop.step Sample.hosting) ⟨s₁, (Client.new 0).connectLoopback 1 2⟩
      [.send .left [1, 2, 3], .send .left (List.replicate 1201 0),
        .disturb (.server (.update (-1) 1001 [⟨Sample.firstAddress, Sample.request Sample.first 1040,
          1001⟩])), .receive .right, .send .right [4], .pass ⟨100, 1100⟩, .receive .left] =
      some (l, [none, none, none, some [1, 2, 3], none, none, some [4]]) ∧
    l.client.state = .connected ∧ (l.server.clients 1).connected = true ∧
    sentByClient l.client.trace = [] := by
  obtain ⟨s, executes⟩ : ∃ s, Server.execute samplePlatform Sample.hosting.config Sample.server
    [.start 2 Sample.challengeKey 1000] = some s := ⟨_, rfl⟩
  have facts : s.validSlot 1 = some 1 ∧ (s.clients 1).connected = false := by
    cases executes
    exact ⟨rfl, rfl⟩
  have run : Server.Run samplePlatform Sample.hosting.config [] Sample.server := .new _ _ 0 rfl
  obtain ⟨s₁, connects, follows⟩ := loopback_refines_channel Sample.hosting Sample.hosting_quiet.1
    Sample.hosting_quiet.2 nofun nofun (run.execute executes).reached
    (.new 0 : Client.Run samplePlatform Sample.hosting.clientConfig [] (Client.new 0))
    (lt_irrefl _) facts.1 facts.2 7 [] 2
  have large : ¬ Sample.hosting.terms.fits (List.replicate 1201 0) := by
    rintro ⟨-, small⟩
    rw [List.length_replicate] at small
    exact absurd small (by decide)
  have harmless : Sample.hosting.terms.harmless (.server (.update (-1) 1001
      [⟨Sample.firstAddress, Sample.request Sample.first 1040, 1001⟩])) := nofun
  obtain ⟨l, returns, connected, stays, silent⟩ := follows ⟨0, 1000⟩ 3 _ _ _
    (.cons (.send _ _ 2 .left [1, 2, 3] ⟨by decide, by decide⟩) <|
      .cons (.refuse _ .left (List.replicate 1201 0) large) <|
      .cons (.disturb _ _ harmless) <| .cons (.receive _ .right) <|
      .cons (.send _ _ 1 .right [4] ⟨by decide, by decide⟩) <|
      .cons (.pass _ _ 0 ⟨100, 1100⟩ trivial) <| .cons (.receive _ .left) (.nil _))
  exact ⟨s, s₁, l, executes, connects, returns, connected, stays, silent⟩

end Netcode
