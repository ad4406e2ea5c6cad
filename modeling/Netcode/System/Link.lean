/-
**A session over a lossless link.**

A connected client and its server, wired up so that every datagram one of them sends reaches the
other at once. Both are updated from time to time, and datagrams from other addresses reach the server
in between. Then the two packet queues are all that is left of the protocol: the session is a duplex
channel of two bounded queues. Payloads arrive complete, once and in order, the keep-alives keep the
connection up for ever, and none of the calls fails.

* `Link.step` — the composition: what a call of the application, an update of both sides or a datagram
  from elsewhere does to the client, the server and their datagrams;
* `Flow` — one direction of the session: the sender's next number is fresh for the receiver's replay
  window, and the receiver has heard everything;
* `Paired` — the session as a whole, against the channel it implements;
* `paired_forward` — **every operation that the channel answers for is answered alike**.
-/

import Mathlib.Tactic.NormNum
import Netcode.Client.Session
import Netcode.Lib.Duplex
import Netcode.Lib.Refinement
import Netcode.Server.Independence
import Netcode.Tables.Queue
import Netcode.Tables.Window

namespace Netcode

open Duplex

/-! ### The composition -/

/-- **How a client and a server are wired up**: the client's slot, the address its datagrams reach the
server from, and the address the server's datagrams reach the client from. -/
structure Wiring where
  env : Platform
  config : ServerConfig
  clientConfig : ClientConfig
  slot : Nat
  clientAddress : Address
  serverAddress : Address

/-- The time that both sides are told, and the reading of the wall clock. -/
structure Instant where
  time : ℚ
  clock : UInt64

/-- Both ends of the link, and the last reading of the wall clock. -/
structure Link where
  server : Server
  client : Client
  clock : UInt64

/-- What was sent in between, oldest first, by two lists of what was sent, newest first. -/
def sentSince {α : Type} (before after : List α) : List α :=
  (after.take (after.length - before.length)).reverse

theorem sentSince_append {α : Type} (new sent : List α) :
    sentSince sent (new ++ sent) = new.reverse := by
  simp [sentSince]

theorem sentSince_self {α : Type} (sent : List α) : sentSince sent sent = [] := sentSince_append [] sent

/-- What `ReceivePacket` of the server returned. -/
def Server.handedOut (before after : Server) : Option Bytes :=
  (after.trace.take (after.trace.length - before.trace.length)).findSome? fun
    | .delivered _ payload _ => some payload
    | _ => none

/-- What `ReceivePacket` of the client returned. -/
def Client.handedOut (before after : Client) : Option Bytes :=
  (after.trace.take (after.trace.length - before.trace.length)).findSome? fun
    | .delivered payload _ => some payload
    | _ => none

/-- What the trace shows of a call of `ReceivePacket`. -/
theorem Client.handedOut_eq (c : Client) :
    c.handedOut c.receivePacket = ((popped c.packetReceiveQueue).map Prod.fst).head? := by
  rw [Client.handedOut, Client.receivePacket_eq]
  have length : ∀ new : List ClientEffect,
      (new ++ c.trace).take ((new ++ c.trace).length - c.trace.length) = new := by
    simp
  dsimp only
  rw [length, popped]
  cases c.packetReceiveQueue.pop.2.1 <;> rfl

theorem Server.handedOut_eq {s : Server} {i : Nat} (valid : s.validSlot i = some i)
    (connected : (s.clients i).connected = true) :
    s.handedOut (s.receivePacket i) = ((popped (s.clients i).packetQueue).map Prod.fst).head? := by
  have length : ∀ new : List Effect,
      (new ++ s.trace).take ((new ++ s.trace).length - s.trace.length) = new := by
    simp
  rw [Server.handedOut, Server.receivePacket_eq valid connected]
  dsimp only
  rw [length, popped]
  cases (s.clients i).packetQueue.pop.2.1 <;> rfl

namespace Link

section Operations

variable (w : Wiring)

/-- The client has done something, and the server receives what it sent. -/
def upload (l : Link) (client : Client) : Go Link := do
  let server ← (sentSince (sentByClient l.client.trace) (sentByClient client.trace)).foldlM
    (fun s data => Server.processPacket w.env w.config s w.clientAddress data l.clock l.clock) l.server
  return { l with server := server, client := client }

/-- The server has done something, and the client receives what it sent to it. -/
def download (l : Link) (server : Server) : Go Link := do
  let client ← (sentSince (sentTo w.clientAddress l.server.trace)
      (sentTo w.clientAddress server.trace)).foldlM
    (fun c data => Client.processPacket w.env w.clientConfig c w.serverAddress data l.clock) l.client
  return { l with server := server, client := client }

/-- Both sides are updated: first the client, then the server with what the client sent. -/
def pass (l : Link) (now : Instant) : Go Link := do
  let client ← Client.update w.env w.clientConfig l.client now.time []
  let server ← Server.update w.env w.config l.server now.time now.clock
    ((sentSince (sentByClient l.client.trace) (sentByClient client.trace)).map fun data =>
      ⟨w.clientAddress, data, now.clock⟩)
  download w { l with client := client, clock := now.clock } server

/-- **One operation on the link.** The client is the left side, the server the right one, and a
disturbance is a datagram that reaches the server. -/
def step (l : Link) : Op Bytes Instant Server.Datagram → Go (Link × Option Bytes)
  | .send .left payload => do
    let client ← Client.sendPacket w.env w.clientConfig l.client payload
    let l ← upload w l client
    return (l, none)
  | .send .right payload => do
    let server ← Server.sendPacket w.env w.config l.server w.slot payload
    let l ← download w l server
    return (l, none)
  | .receive .left =>
    let client := l.client.receivePacket
    some ({ l with client := client }, l.client.handedOut client)
  | .receive .right =>
    let server := l.server.receivePacket w.slot
    some ({ l with server := server }, l.server.handedOut server)
  | .pass now => do
    let l ← pass w l now
    return (l, none)
  | .disturb noise => do
    let server ← Server.processPacket w.env w.config l.server noise.source noise.data l.clock
      noise.reading
    return ({ l with server := server }, none)

end Operations

end Link

/-- **The updates follow each other closely enough**: whoever was sent something within the last send
interval has not been silent for a second at the next update. -/
def Paced (env : Platform) (now next : ℚ) : Prop :=
  now ≤ next ∧ env.IsFloat64 next ∧ ∀ sent, env.IsFloat64 sent →
    now ≤ env.float64 (sent + env.float64 packetSendInterval) → next < env.float64 (sent + 1)

/-- **The channel that a session implements.** -/
def Wiring.terms (w : Wiring) : Terms Bytes Instant Server.Datagram where
  capacity := packetQueueSize
  fits := fun payload => 1 ≤ payload.length ∧ payload.length ≤ MaxPacketSize
  paced := fun now next => Paced w.env now.time next.time
  harmless := fun noise => w.clientAddress.Equal noise.source = false

/-! ### The queues -/

/-- **The payloads that wait in a queue**, oldest first. -/
def PacketQueue.Holds (queue : PacketQueue) (waiting : List Bytes) : Prop :=
  ∃ entries, queue.Represents entries ∧ entries.map Prod.fst = waiting

/-- A payload is queued, or dropped by a full queue. -/
theorem PacketQueue.Holds.push {queue : PacketQueue} {waiting : List Bytes}
    (holds : queue.Holds waiting) (payload : Bytes) (sequence : UInt64) :
    (queue.push payload sequence).1.Holds (offer packetQueueSize waiting payload) := by
  obtain ⟨entries, represents, isWaiting⟩ := holds
  refine ⟨_, (represents.push payload sequence).2, ?_⟩
  have length : entries.length = waiting.length := by rw [← isWaiting, List.length_map]
  unfold fifoStep offer
  dsimp only
  rw [length]
  split_ifs
  · rw [List.map_append, isWaiting]
    rfl
  · exact isWaiting

/-- The oldest payload is taken. -/
theorem PacketQueue.Holds.pop {queue : PacketQueue} {waiting : List Bytes}
    (holds : queue.Holds waiting) :
    queue.pop.1.Holds waiting.tail ∧ ((popped queue).map Prod.fst).head? = waiting.head? := by
  obtain ⟨entries, represents, rfl⟩ := holds
  obtain ⟨result, rest⟩ := represents.pop
  cases entries with
  | nil =>
    have empty : queue.pop.2.1 = none := by
      simp only [queueStep, fifoStep, QueueResult.popped.injEq] at result
      exact result.1
    refine ⟨⟨[], rest, rfl⟩, ?_⟩
    rw [popped, empty]
  | cons entry entries =>
    have taken : queue.pop.2.1 = some entry.1 := by
      simp only [queueStep, fifoStep, QueueResult.popped.injEq] at result
      exact result.1
    refine ⟨⟨entries, rest, rfl⟩, ?_⟩
    rw [popped, taken]
    rfl

/-! ### One direction -/

section Flow

variable {env : Platform} {queue : PacketQueue} {window : ReplayProtection} {next : UInt64}
  {sentAt heardAt now : ℚ} {waiting : List Bytes} {numbers : Nat}

/-- **One direction of a session**: `next` is the sender's next number, of which `numbers` more are
to come, and `window` and `queue` are the receiver's. -/
structure Flow (env : Platform) (queue : PacketQueue) (window : ReplayProtection) (next : UInt64)
    (sentAt heardAt : ℚ) (waiting : List Bytes) (numbers : Nat) : Prop where
  fresh : window.FreshFrom next
  numbers : next.toNat + numbers < 2 ^ 64
  queued : queue.Holds waiting
  isFloat : env.IsFloat64 sentAt
  heard : sentAt ≤ heardAt

theorem Flow.unseen (flow : Flow env queue window next sentAt heardAt waiting numbers) :
    window.alreadyReceived next = false := flow.fresh next (Nat.le_refl _)

theorem Flow.fewer (flow : Flow env queue window next sentAt heardAt waiting numbers) {fewer : Nat}
    (less : fewer ≤ numbers) : Flow env queue window next sentAt heardAt waiting fewer :=
  ⟨flow.fresh, by have := flow.numbers; omega, flow.queued, flow.isFloat, flow.heard⟩

/-- A packet without a payload is sent and heard. -/
theorem Flow.keepAlive (flow : Flow env queue window next sentAt heardAt waiting (numbers + 1))
    (isFloat : env.IsFloat64 now) {sentNow heardNow : ℚ} (sent : sentNow = now)
    (heard : heardNow = now) :
    Flow env queue (window.advanceSequence next) (next + 1) sentNow heardNow waiting numbers := by
  have few := flow.numbers
  refine ⟨flow.fresh.advance (by omega), ?_, flow.queued, sent ▸ isFloat, (sent.trans heard.symm).le⟩
  rw [toNat_succ (by omega)]
  omega

/-- A payload is sent, heard and queued. -/
theorem Flow.payload (flow : Flow env queue window next sentAt heardAt waiting (numbers + 1))
    (isFloat : env.IsFloat64 now) {sentNow heardNow : ℚ} (sent : sentNow = now)
    (heard : heardNow = now) (payload : Bytes) :
    Flow env (queue.push payload next).1 (window.advanceSequence next) (next + 1) sentNow heardNow
      (offer packetQueueSize waiting payload) numbers :=
  { flow.keepAlive isFloat sent heard with queued := flow.queued.push payload next }

/-- The application takes the oldest payload. -/
theorem Flow.pop (flow : Flow env queue window next sentAt heardAt waiting numbers) :
    Flow env queue.pop.1 window next sentAt heardAt waiting.tail numbers :=
  { flow with queued := flow.queued.pop.1 }

/-- A delay of a second or more. -/
theorem one_le_seconds {timeout : Int32} (positive : 0 < timeout) : (1 : ℚ) ≤ timeout.toInt := by
  have positive : (0 : Int) < timeout.toInt := Int32.lt_iff_toInt_lt.mp positive
  exact_mod_cast positive

/-- **The receiver does not time out** before the next update. -/
theorem Flow.inTime (flow : Flow env queue window next sentAt heardAt waiting numbers) {later : ℚ}
    (recent : now ≤ env.float64 (sentAt + env.float64 packetSendInterval)) (paced : Paced env now later)
    {timeout : Int32} (positive : 0 < timeout) :
    later < env.float64 (heardAt + timeout.toInt) :=
  (paced.2.2 sentAt flow.isFloat recent).trans_le
    (env.float64_mono (add_le_add flow.heard (one_le_seconds positive)))

/-- Who has just been heard does not time out. -/
theorem Paced.inTime {later : ℚ} (paced : Paced env now later) (isFloat : env.IsFloat64 now)
    {timeout : Int32} (positive : 0 < timeout) :
    later < env.float64 (later + timeout.toInt) :=
  (paced.2.2 now isFloat (isFloat.le_add env.interval_nonneg)).trans_le
    (env.float64_mono (add_le_add paced.1 (one_le_seconds positive)))

end Flow

/-! ### Both directions -/

/-- **The two ends of a session fit**: the server's line to the client, and the client. The client may
send `up` more packets, the server `down`. -/
structure Matches (w : Wiring) (now : Instant) (waiting : Side → List Bytes) (up down : Nat)
    (line : Line) (c : Client) : Prop where
  peer : line.slot.address = w.clientAddress
  talks : c.Talks
  server : w.serverAddress.Equal c.serverAddress = true
  protocol : c.connectToken.protocolID = w.config.protocolID
  upKey : line.receiveKey = c.writePacketKey
  downKey : line.sendKey = c.readPacketKey
  serverTime : line.time = now.time
  clientTime : c.time = now.time
  isFloat : w.env.IsFloat64 now.time
  up : Flow w.env line.slot.packetQueue line.slot.replayProtection c.sequence c.lastPacketSendTime
    line.slot.lastPacketReceiveTime (waiting .right) up
  down : Flow w.env c.packetReceiveQueue c.replayProtection line.slot.sequence
    line.slot.lastPacketSendTime c.lastPacketReceiveTime (waiting .left) down

/-- **The session against the channel.** Either side has sent something within the last interval. -/
structure Paired (w : Wiring) (e : Nat) (l : Link) (channel : Channel Bytes Instant) : Prop where
  serves : Server.Serves l.server w.slot e
  fit : Matches w channel.now channel.waiting channel.budget (2 * channel.budget)
    (l.server.line w.slot e) l.client
  clientRecent : channel.now.time ≤
    w.env.float64 (l.client.lastPacketSendTime + w.env.float64 packetSendInterval)
  serverRecent : channel.now.time ≤
    w.env.float64 ((l.server.clients w.slot).lastPacketSendTime + w.env.float64 packetSendInterval)

namespace Matches

variable {w : Wiring} {now : Instant} {waiting : Side → List Bytes} {up down : Nat} {line : Line}
  {c : Client}

/-- Who has just sent has sent recently. -/
theorem recent (fit : Matches w now waiting up down line c) :
    now.time ≤ w.env.float64 (now.time + w.env.float64 packetSendInterval) :=
  fit.isFloat.le_add w.env.interval_nonneg

theorem fewer (fit : Matches w now waiting up down line c) {up' down' : Nat} (lessUp : up' ≤ up)
    (lessDown : down' ≤ down) : Matches w now waiting up' down' line c :=
  { fit with up := fit.up.fewer lessUp, down := fit.down.fewer lessDown }

/-- Time passes on both sides. -/
theorem tick (fit : Matches w now waiting up down line c) {next : Instant}
    (isFloat : w.env.IsFloat64 next.time) :
    Matches w next waiting up down { line with time := next.time } { c with time := next.time } :=
  { fit with
    talks := ⟨fit.talks.state, fit.talks.network, fit.talks.hasKeys, fit.talks.stays⟩
    serverTime := rfl
    clientTime := rfl
    isFloat := isFloat }

/-- **A keep-alive goes up.** -/
theorem upKeepAlive (fit : Matches w now waiting (up + 1) down line c) (trace : List ClientEffect) :
    Matches w now waiting up down (line.hear c.sequence)
      { c with sequence := c.sequence + 1, lastPacketSendTime := now.time, trace := trace } :=
  { fit with
    talks := ⟨fit.talks.state, fit.talks.network, fit.talks.hasKeys, fit.talks.stays⟩
    up := fit.up.keepAlive fit.isFloat rfl fit.serverTime }

/-- **A payload goes up.** -/
theorem upPayload (fit : Matches w now waiting (up + 1) down line c) (payload : Bytes)
    (trace : List ClientEffect) :
    Matches w now (Function.update waiting .right (offer packetQueueSize (waiting .right) payload))
      up down ((line.hear c.sequence).push payload c.sequence)
      { c with sequence := c.sequence + 1, lastPacketSendTime := c.time, trace := trace } :=
  { fit with
    talks := ⟨fit.talks.state, fit.talks.network, fit.talks.hasKeys, fit.talks.stays⟩
    up := by
      rw [Function.update_self]
      exact fit.up.payload fit.isFloat fit.clientTime fit.serverTime payload
    down := by
      rw [Function.update_of_ne (by decide)]
      exact fit.down }

/-- **A keep-alive goes down.** -/
theorem downKeepAlive (fit : Matches w now waiting up (down + 1) line c) (i : Nat) (clock : UInt64) :
    ∃ data c', (line.keepAlive w.env w.config.protocolID i).sent = data :: line.sent ∧
      Client.processPacket w.env w.clientConfig c w.serverAddress data clock = some c' ∧
      sentByClient c'.trace = sentByClient c.trace ∧
      c'.lastPacketSendTime = c.lastPacketSendTime ∧
      Matches w now waiting up down (line.keepAlive w.env w.config.protocolID i) c' := by
  obtain ⟨trace, silent, hears⟩ := @Client.Talks.keepAlive w.env w.clientConfig c w.serverAddress
    fit.talks fit.server line.slot.sequence fit.down.unseen (Int32.ofNat i)
    (Int32.ofNat line.maxClients) clock
  refine ⟨_, _, rfl, Eq.trans ?_ hears, silent, rfl, { fit with
    talks := ⟨fit.talks.state, fit.talks.network, fit.talks.hasKeys, fit.talks.stays⟩
    down := fit.down.keepAlive fit.isFloat fit.serverTime fit.clientTime }⟩
  rw [fit.downKey, fit.protocol]

/-- **A payload goes down.** -/
theorem downPayload (fit : Matches w now waiting up (down + 1) line c) {payload : Bytes}
    (fits : (Packet.connectionPayload payload).Sealable) (clock : UInt64) :
    ∃ data c', (line.write w.env w.config.protocolID (.connectionPayload payload)).sent =
        data :: line.sent ∧
      Client.processPacket w.env w.clientConfig c w.serverAddress data clock = some c' ∧
      sentByClient c'.trace = sentByClient c.trace ∧
      c'.lastPacketSendTime = c.lastPacketSendTime ∧
      Matches w now (Function.update waiting .left (offer packetQueueSize (waiting .left) payload))
        up down (line.write w.env w.config.protocolID (.connectionPayload payload)) c' := by
  obtain ⟨trace, silent, hears⟩ := @Client.Talks.payload w.env w.clientConfig c w.serverAddress
    fit.talks fit.server line.slot.sequence fit.down.unseen payload fits clock
  refine ⟨_, _, rfl, Eq.trans ?_ hears, silent, rfl, { fit with
    talks := ⟨fit.talks.state, fit.talks.network, fit.talks.hasKeys, fit.talks.stays⟩
    up := by
      rw [Function.update_of_ne (by decide)]
      exact fit.up
    down := by
      rw [Function.update_self]
      exact fit.down.payload fit.isFloat fit.serverTime fit.clientTime payload }⟩
  rw [fit.downKey, fit.protocol]

/-- **What `Update` of the server sends goes down**: a keep-alive, if one is due. -/
theorem downUpkeep (fit : Matches w now waiting up (down + 1) line c) (i : Nat) (clock : UInt64) :
    ∃ new c', (line.upkeep w.env w.config.protocolID i).sent = new ++ line.sent ∧
      new.reverse.foldlM (fun c data =>
        Client.processPacket w.env w.clientConfig c w.serverAddress data clock) c = some c' ∧
      c'.lastPacketSendTime = c.lastPacketSendTime ∧
      Matches w now waiting up down (line.upkeep w.env w.config.protocolID i) c' ∧
      now.time ≤ w.env.float64 ((line.upkeep w.env w.config.protocolID i).slot.lastPacketSendTime +
        w.env.float64 packetSendInterval) := by
  unfold Line.upkeep
  split_ifs with due
  · obtain ⟨data, c', isSent, hears, -, sentAt, fit'⟩ := fit.downKeepAlive i clock
    refine ⟨[data], c', isSent, ?_, sentAt, fit', ?_⟩
    · rw [List.reverse_singleton, List.foldlM_cons, hears]
      rfl
    · show now.time ≤ w.env.float64 (line.time + _)
      rw [fit.serverTime]
      exact fit.recent
  · refine ⟨[], c, rfl, rfl, rfl, fit.fewer (Nat.le_refl _) (by omega), ?_⟩
    rw [← fit.serverTime]
    exact (not_le.mp due).le

/-- The client's application takes a payload. -/
theorem takeDown (fit : Matches w now waiting up down line c) (trace : List ClientEffect) :
    Matches w now (Function.update waiting .left (waiting .left).tail) up down line
      { c with packetReceiveQueue := c.packetReceiveQueue.pop.1, trace := trace } :=
  { fit with
    talks := ⟨fit.talks.state, fit.talks.network, fit.talks.hasKeys, fit.talks.stays⟩
    up := by
      rw [Function.update_of_ne (by decide)]
      exact fit.up
    down := by
      rw [Function.update_self]
      exact fit.down.pop }

/-- The server's application takes a payload. -/
theorem takeUp (fit : Matches w now waiting up down line c) :
    Matches w now (Function.update waiting .right (waiting .right).tail) up down line.pop c :=
  { fit with
    up := by
      rw [Function.update_self]
      exact fit.up.pop
    down := by
      rw [Function.update_of_ne (by decide)]
      exact fit.down }

end Matches

/-! ### The operations -/

section Operations

variable {w : Wiring} {e : Nat} {l : Link} {channel : Channel Bytes Instant} {payload : Bytes}

/-- The client is at the address that its datagrams come from. -/
theorem Paired.fromPeer (paired : Paired w e l channel) :
    (l.server.clients w.slot).address.Equal w.clientAddress = true := by
  rw [← paired.fit.peer]
  exact paired.serves.usable

/-- A channel that answers for less. -/
theorem Paired.fewer {waiting : Side → List Bytes} {now : Instant} {budget budget' : Nat}
    (paired : Paired w e l ⟨waiting, now, budget⟩) (less : budget' ≤ budget) :
    Paired w e l ⟨waiting, now, budget'⟩ :=
  ⟨paired.serves, paired.fit.fewer less (Nat.mul_le_mul_left 2 less), paired.clientRecent,
    paired.serverRecent⟩

/-- The server receives what the client sent. -/
theorem Link.upload_eq {new : List Bytes} {c : Client} {s : Server}
    (sent : sentByClient c.trace = new ++ sentByClient l.client.trace)
    (hears : new.reverse.foldlM (fun s data =>
      Server.processPacket w.env w.config s w.clientAddress data l.clock l.clock) l.server = some s) :
    l.upload w c = some ⟨s, c, l.clock⟩ := by
  rw [upload, sent, sentSince_append, hears]
  rfl

/-- The client receives what the server sent on its line. -/
theorem Link.download_eq {new : List Bytes} {s : Server} {c : Client}
    (isPeer : (l.server.clients w.slot).address = w.clientAddress)
    (isPeer' : (s.clients w.slot).address = w.clientAddress)
    (sent : (s.line w.slot e).sent = new ++ (l.server.line w.slot e).sent)
    (hears : new.reverse.foldlM (fun c data =>
      Client.processPacket w.env w.clientConfig c w.serverAddress data l.clock) l.client = some c) :
    l.download w s = some ⟨s, c, l.clock⟩ := by
  unfold Server.line at sent
  dsimp only at sent
  rw [isPeer, isPeer'] at sent
  rw [download, sent, sentSince_append, hears]
  rfl

/-- **The client sends a payload.** -/
theorem Paired.clientSend {waiting : Side → List Bytes} {now : Instant} {budget : Nat}
    (quiet : w.config.NonReentrant) (paired : Paired w e l ⟨waiting, now, budget + 1⟩)
    (fits : (Packet.connectionPayload payload).Sealable) :
    ∃ l', l.step w (.send .left payload) = some (l', none) ∧ Paired w e l'
      ⟨Function.update waiting .right (offer packetQueueSize (waiting .right) payload), now, budget⟩ := by
  have fit := paired.fit
  obtain ⟨trace, sent, sends⟩ := fit.talks.sendPacket w.env w.clientConfig fits
  rw [← fit.upKey, fit.protocol] at sent
  obtain ⟨s', hears, serves, line⟩ := @Server.Serves.call w.env w.config l.server w.slot e quiet
    paired.serves (.processPacket w.clientAddress _ l.clock l.clock)
    (((l.server.line w.slot e).hear l.client.sequence).push payload l.client.sequence) (by simp)
    ((if_pos paired.fromPeer).trans (Server.read_written fits rfl rfl fit.up.unseen))
  rw [Server.step] at hears
  have uploads : l.upload w { l.client with
      sequence := l.client.sequence + 1
      lastPacketSendTime := l.client.time
      trace := trace } = some ⟨s', _, l.clock⟩ :=
    @Link.upload_eq w l [_] _ s' sent (by
      rw [List.reverse_singleton, List.foldlM_cons, hears]
      rfl)
  refine ⟨⟨s', { l.client with
    sequence := l.client.sequence + 1
    lastPacketSendTime := l.client.time
    trace := trace }, l.clock⟩, ?_, serves, ?_, ?_, ?_⟩
  · simp only [Link.step, sends, Option.bind_eq_bind, Option.bind_some, uploads]
    rfl
  · rw [line]
    exact (fit.upPayload payload trace).fewer (Nat.le_refl _) (by dsimp only; omega)
  · show now.time ≤ w.env.float64 (l.client.time + _)
    rw [fit.clientTime]
    exact fit.recent
  · have slot : (s'.clients w.slot).lastPacketSendTime =
        (l.server.clients w.slot).lastPacketSendTime :=
      congrArg (fun line => line.slot.lastPacketSendTime) line
    rw [slot]
    exact paired.serverRecent

/-- **The server sends a payload.** -/
theorem Paired.serverSend {waiting : Side → List Bytes} {now : Instant} {budget : Nat}
    (quiet : w.config.NonReentrant) (paired : Paired w e l ⟨waiting, now, budget + 1⟩)
    (fits : (Packet.connectionPayload payload).Sealable) :
    ∃ l', l.step w (.send .right payload) = some (l', none) ∧ Paired w e l'
      ⟨Function.update waiting .left (offer packetQueueSize (waiting .left) payload), now, budget⟩ := by
  obtain ⟨s', sends, serves, line⟩ := @Server.Serves.call w.env w.config l.server w.slot e quiet
    paired.serves (.sendPacket w.slot payload) _ (fun _ _ same => by cases same; rfl)
    (if_pos ⟨rfl, fits⟩)
  rw [Server.step] at sends
  have fit : Matches w now waiting (budget + 1) (2 * budget + 1 + 1) (l.server.line w.slot e)
    l.client := paired.fit
  -- the client hears the payload, and before it the keep-alive if it was not confirmed
  obtain ⟨new, c', sent, hears, sentAt, fit'⟩ : ∃ new c',
      (s'.line w.slot e).sent = new ++ (l.server.line w.slot e).sent ∧
      new.reverse.foldlM (fun c data =>
        Client.processPacket w.env w.clientConfig c w.serverAddress data l.clock) l.client = some c' ∧
      c'.lastPacketSendTime = l.client.lastPacketSendTime ∧
      Matches w now (Function.update waiting .left (offer packetQueueSize (waiting .left) payload))
        budget (2 * budget) (s'.line w.slot e) c' := by
    rw [line]
    unfold Line.submit
    cases (l.server.line w.slot e).slot.confirmed with
    | true =>
      obtain ⟨data, c', sent, hears, -, sentAt, fit'⟩ := fit.downPayload fits l.clock
      refine ⟨[data], c', sent, ?_, sentAt, fit'.fewer (by omega) (by omega)⟩
      rw [List.reverse_singleton, List.foldlM_cons, hears]
      rfl
    | false =>
      obtain ⟨first, c₁, sent₁, hears₁, -, sentAt₁, fit₁⟩ := fit.downKeepAlive w.slot l.clock
      obtain ⟨data, c', sent, hears, -, sentAt, fit'⟩ := fit₁.downPayload fits l.clock
      refine ⟨[data, first], c', ?_, ?_, sentAt.trans sentAt₁, fit'.fewer (by omega) (Nat.le_refl _)⟩
      · exact sent.trans (congrArg _ sent₁)
      · simp only [List.reverse_cons, List.reverse_nil, List.nil_append, List.cons_append,
          List.foldlM_cons, List.foldlM_nil, hears₁, hears, Option.bind_eq_bind, Option.bind_some]
        rfl
  have downloads : l.download w s' = some ⟨s', c', l.clock⟩ :=
    Link.download_eq fit.peer fit'.peer sent hears
  refine ⟨⟨s', c', l.clock⟩, ?_, serves, fit', ?_, ?_⟩
  · simp only [Link.step, sends, Option.bind_eq_bind, Option.bind_some, downloads]
    rfl
  · rw [show (Link.mk s' c' l.clock).client.lastPacketSendTime = _ from sentAt]
    exact paired.clientRecent
  · have slot : (s'.clients w.slot).lastPacketSendTime = l.server.time := by
      have same := congrArg (fun line => line.slot.lastPacketSendTime) line
      refine same.trans ?_
      unfold Line.submit
      split_ifs <;> rfl
    rw [slot, show l.server.time = now.time from fit.serverTime]
    exact fit.recent

/-- **The client's application takes a payload.** -/
theorem Paired.clientReceive (paired : Paired w e l channel) :
    ∃ l', l.step w (.receive .left) = some (l', (channel.waiting .left).head?) ∧ Paired w e l'
      { channel with waiting :=
          Function.update channel.waiting .left (channel.waiting .left).tail } := by
  have fit := paired.fit
  have handedOut : l.client.handedOut l.client.receivePacket = (channel.waiting .left).head? := by
    rw [Client.handedOut_eq, fit.down.queued.pop.2]
  refine ⟨{ l with client := l.client.receivePacket }, by rw [← handedOut]; rfl, paired.serves, ?_, ?_,
    paired.serverRecent⟩
  · rw [Client.receivePacket_eq]
    exact fit.takeDown _
  · exact paired.clientRecent

/-- **The server's application takes a payload.** -/
theorem Paired.serverReceive (paired : Paired w e l channel) :
    ∃ l', l.step w (.receive .right) = some (l', (channel.waiting .right).head?) ∧ Paired w e l'
      { channel with waiting :=
          Function.update channel.waiting .right (channel.waiting .right).tail } := by
  have fit := paired.fit
  obtain ⟨serves, line⟩ := paired.serves.receives
  have handedOut : l.server.handedOut (l.server.receivePacket w.slot) =
      (channel.waiting .right).head? := by
    rw [Server.handedOut_eq paired.serves.valid paired.serves.connected]
    exact fit.up.queued.pop.2
  have slot : ((l.server.receivePacket w.slot).clients w.slot).lastPacketSendTime =
      (l.server.clients w.slot).lastPacketSendTime :=
    congrArg (fun line => line.slot.lastPacketSendTime) line
  refine ⟨{ l with server := l.server.receivePacket w.slot }, by rw [← handedOut]; rfl, serves, ?_,
    paired.clientRecent, by rw [slot]; exact paired.serverRecent⟩
  rw [line]
  exact fit.takeUp

/-- **A datagram from elsewhere.** -/
theorem Paired.disturb (quiet : w.config.NonReentrant) (paired : Paired w e l channel)
    {noise : Server.Datagram} (harmless : w.clientAddress.Equal noise.source = false) :
    ∃ l', l.step w (.disturb noise) = some (l', none) ∧ Paired w e l' channel := by
  have apart : (l.server.clients w.slot).address.Equal noise.source = false := by
    rw [show (l.server.clients w.slot).address = _ from paired.fit.peer]
    exact harmless
  obtain ⟨s', returns, serves, line⟩ := @Server.Serves.call w.env w.config l.server w.slot e quiet
    paired.serves (.processPacket noise.source noise.data l.clock noise.reading) _ (by simp)
    (if_neg (show ¬ (l.server.clients w.slot).address.Equal noise.source = true by simp [apart]))
  rw [Server.step] at returns
  have slot : (s'.clients w.slot).lastPacketSendTime =
      (l.server.clients w.slot).lastPacketSendTime :=
    congrArg (fun line => line.slot.lastPacketSendTime) line
  refine ⟨{ l with server := s' }, ?_, serves, by rw [line]; exact paired.fit, paired.clientRecent,
    by rw [slot]; exact paired.serverRecent⟩
  simp only [Link.step, returns, Option.bind_eq_bind, Option.bind_some]
  rfl

/-- The client's half of an update: it sends a keep-alive if one is due, and the server has heard
everything it sent. -/
theorem Paired.passClient {waiting : Side → List Bytes} {now next : Instant} {budget : Nat}
    (paired : Paired w e l ⟨waiting, now, budget + 1⟩) (paced : Paced w.env now.time next.time)
    (quiet : w.config.NonReentrant) :
    ∃ c s line, Client.update w.env w.clientConfig l.client next.time [] = some c ∧
      Server.update w.env w.config l.server next.time next.clock
        ((sentSince (sentByClient l.client.trace) (sentByClient c.trace)).map fun data =>
          ⟨w.clientAddress, data, next.clock⟩) = some s ∧
      s.Serves w.slot e ∧ s.line w.slot e = line.upkeep w.env w.config.protocolID w.slot ∧
      line.sent = (l.server.line w.slot e).sent ∧
      next.time ≤ w.env.float64 (c.lastPacketSendTime + w.env.float64 packetSendInterval) ∧
      Matches w next waiting budget (2 * budget + 1 + 1) line c := by
  have fit : Matches w now waiting (budget + 1) (2 * budget + 1 + 1) (l.server.line w.slot e)
    l.client := paired.fit
  have isFloat := paced.2.1
  have later : Matches w next waiting (budget + 1) (2 * budget + 1 + 1)
      { l.server.line w.slot e with time := next.time } { l.client with time := next.time } :=
    fit.tick isFloat
  obtain ⟨trace, sent, updates⟩ := @Client.Talks.update w.env w.clientConfig l.client fit.talks
    next.time (fun positive => (fit.down.inTime paired.serverRecent paced positive).le)
  split_ifs at updates with notDue
  · -- nothing is due: the server heard from the client recently enough
    obtain ⟨s, returns, serves, line⟩ := @Server.Serves.call w.env w.config l.server w.slot e quiet
      paired.serves (.update next.time next.clock []) _ (by simp) (Line.step_update rfl
        fun positive => fit.up.inTime paired.clientRecent paced positive)
    refine ⟨_, s, _, updates, ?_, serves, line, rfl, notDue, later.fewer (by omega) (Nat.le_refl _)⟩
    dsimp only
    rw [sentSince_self]
    exact returns
  · rw [← fit.upKey, fit.protocol] at sent
    have reads : ({ l.server.line w.slot e with time := next.time } : Line).datagram w.env
        w.config.protocolID w.clientAddress (writePacket w.env (.connectionKeepAlive 0 0)
          l.client.sequence (l.server.line w.slot e).receiveKey w.config.protocolID) =
        some (({ l.server.line w.slot e with time := next.time } : Line).hear l.client.sequence) :=
      (if_pos paired.fromPeer).trans
        (@Server.read_written w.env (.connectionKeepAlive 0 0) trivial rfl _ _
          { l.server.line w.slot e with time := next.time } rfl fit.up.unseen)
    obtain ⟨s, returns, serves, line⟩ := @Server.Serves.call w.env w.config l.server w.slot e quiet
      paired.serves (.update next.time next.clock [⟨w.clientAddress, _, next.clock⟩]) _ (by simp)
      (Line.step_update (by rw [List.foldlM_cons, reads]; rfl)
        fun positive => paced.inTime fit.isFloat positive)
    refine ⟨_, s, _, updates, ?_, serves, line, rfl, later.recent, later.upKeepAlive trace⟩
    dsimp only
    rw [sent, ← List.singleton_append, sentSince_append]
    exact returns

/-- **Time passes.** -/
theorem Paired.pass {waiting : Side → List Bytes} {now next : Instant} {budget : Nat}
    (paired : Paired w e l ⟨waiting, now, budget + 1⟩) (paced : Paced w.env now.time next.time)
    (quiet : w.config.NonReentrant) :
    ∃ l', l.step w (.pass next) = some (l', none) ∧ Paired w e l' ⟨waiting, next, budget⟩ := by
  obtain ⟨c, s, line, updates, returns, serves, isLine, sent, recent, fit⟩ :=
    paired.passClient paced quiet
  obtain ⟨new, c', isSent, hears, sentAt, fit', recent'⟩ := fit.downUpkeep w.slot next.clock
  rw [← isLine] at isSent fit' recent'
  have downloads : Link.download w ⟨l.server, c, next.clock⟩ s = some ⟨s, c', next.clock⟩ :=
    Link.download_eq paired.fit.peer fit'.peer (isSent.trans (congrArg _ sent)) hears
  refine ⟨⟨s, c', next.clock⟩, ?_, serves, fit'.fewer (Nat.le_refl _) (by dsimp only; omega), ?_,
    recent'⟩
  · simp only [Link.step, Link.pass, updates, returns, Option.bind_eq_bind, Option.bind_some, downloads]
    rfl
  · rw [show (Link.mk s c' next.clock).client.lastPacketSendTime = _ from sentAt]
    exact recent

/-- A payload that does not fit is not sent. -/
theorem Paired.refuse (paired : Paired w e l channel) (side : Side)
    (large : ¬ (1 ≤ payload.length ∧ payload.length ≤ MaxPacketSize)) :
    l.step w (.send side payload) = some (l, none) := by
  have size : payload.length ≤ 0 ∨ MaxPacketSize < payload.length := by omega
  cases side with
  | left =>
    have sends : Client.sendPacket w.env w.clientConfig l.client payload = some l.client := by
      rw [Client.sendPacket, if_pos size]
    have uploads : l.upload w l.client = some l := @Link.upload_eq w l [] l.client l.server rfl rfl
    simp only [Link.step, sends, Option.bind_eq_bind, Option.bind_some, uploads]
    rfl
  | right =>
    have sends : Server.sendPacket w.env w.config l.server w.slot payload = some l.server := by
      rw [Server.sendPacket, if_pos size]
    have downloads : l.download w l.server = some l :=
      @Link.download_eq w e l [] l.server l.client paired.fit.peer paired.fit.peer rfl rfl
    simp only [Link.step, sends, Option.bind_eq_bind, Option.bind_some, downloads]
    rfl

/-- **The session follows the channel**, one operation at a time. -/
theorem paired_forward (quiet : w.config.NonReentrant) :
    Refinement.Forward (Paired w e) (Link.step w) (Step w.terms) := by
  intro l channel op channel' result paired steps
  cases steps with
  | send waiting now budget side item fits =>
    cases side with
    | left => exact paired.clientSend quiet fits
    | right => exact paired.serverSend quiet fits
  | refuse _ side item large => exact ⟨l, paired.refuse side large, paired⟩
  | receive _ side =>
    cases side with
    | left => exact paired.clientReceive
    | right => exact paired.serverReceive
  | pass waiting now budget time paced => exact paired.pass paced quiet
  | disturb _ noise harmless => exact paired.disturb quiet harmless

end Operations

end Netcode
