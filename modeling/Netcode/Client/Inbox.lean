/-
**What the client receives from the server.**

The client has one inbox, for the server it is connected to. It is empty when the client becomes
connected, and everything that is put into it until the next change of state was opened under the
read key of the token.

* `Receiving` — the inbox of a connected client, with the payloads accepted and returned since it is
  connected;
* `Run.mailbox` — **a connected client has such an inbox**, and a client that is not connected an
  empty one.
-/

import Netcode.Client.Connection
import Netcode.Tables.Inbox

namespace Netcode

/-! ### Payloads in the trace -/

/-- The payload that goes to the queue. -/
def ClientEffect.accepts : ClientEffect → Option (Bytes × UInt64)
  | .queued payload n => some (payload, n)
  | _ => none

/-- The payload that `ReceivePacket` takes from it. -/
def ClientEffect.returns : ClientEffect → Option (Bytes × UInt64)
  | .delivered payload n => some (payload, n)
  | _ => none

/-- The client enters a state. -/
def ClientEffect.entersState : ClientEffect → Bool
  | .state _ => true
  | _ => false

/-- Effects that have nothing to do with the inbox. -/
def ClientEffect.besides : ClientEffect → Bool
  | .queued _ _ | .delivered _ _ | .state _ | .opened _ _ => false
  | _ => true

namespace Client

/-- The trace since the client entered its state. -/
def stateLog (trace : List ClientEffect) : List ClientEffect :=
  trace.takeWhile fun effect => !effect.entersState

/-- The payloads accepted since then, newest first. -/
def accepted (trace : List ClientEffect) : List (Bytes × UInt64) :=
  (stateLog trace).filterMap ClientEffect.accepts

/-- The payloads that `ReceivePacket` returned since then, newest first. -/
def returned (trace : List ClientEffect) : List (Bytes × UInt64) :=
  (stateLog trace).filterMap ClientEffect.returns

/-- Effects besides the inbox leave its payloads as they are. -/
theorem payloads_besides {new trace : List ClientEffect}
    (besides : new.all ClientEffect.besides = true) :
    accepted (new ++ trace) = accepted trace ∧ returned (new ++ trace) = returned trace := by
  induction new with
  | nil => exact ⟨rfl, rfl⟩
  | cons effect rest ih =>
    rw [List.all_cons, Bool.and_eq_true] at besides
    obtain ⟨sameAccepted, sameReturned⟩ := ih besides.2
    rw [← sameAccepted, ← sameReturned]
    cases effect with
    | queued | delivered | state | opened => cases besides.1
    | _ => exact ⟨rfl, rfl⟩

variable {env : Platform} {connects : Bool} {config : ClientConfig} {c c' : Client}
  {token : ConnectToken}

/-! ### The inbox of a connected client -/

/-- **The inbox of a connected client.** -/
structure Receiving (c : Client) : Prop where
  inbox : Inbox c.replayProtection c.packetReceiveQueue (accepted c.trace) (returned c.trace)
  /-- A payload that was just opened is none of those accepted before. -/
  just : ∀ source call earlier payload n, c.trace = .opened source call :: earlier →
    Decodes c.connectToken.protocolID call (.connectionPayload payload) n →
    JustReceived c.replayProtection (accepted c.trace) n
  /-- Every payload was opened under the read key. -/
  origin : ∀ entry ∈ accepted c.trace, ∃ source call, .opened source call ∈ c.trace ∧
    call.key = c.readPacketKey ∧
    Decodes c.connectToken.protocolID call (.connectionPayload entry.1) entry.2

/-- What was opened in the trace stays there. -/
theorem Receiving.origin_grown (inv : Receiving c) {new : List ClientEffect}
    (trace : c'.trace = new ++ c.trace) (isToken : c'.connectToken = c.connectToken)
    (readKey : c'.readPacketKey = c.readPacketKey) {entry : Bytes × UInt64}
    (member : entry ∈ accepted c.trace) :
    ∃ source call, .opened source call ∈ c'.trace ∧ call.key = c'.readPacketKey ∧
      Decodes c'.connectToken.protocolID call (.connectionPayload entry.1) entry.2 := by
  obtain ⟨source, call, isOpened, key, decodes⟩ := inv.origin entry member
  rw [trace, isToken, readKey]
  exact ⟨source, call, List.mem_append_right _ isOpened, key, decodes⟩

/-- A step besides the inbox. -/
theorem Receiving.grown (inv : Receiving c) {new : List ClientEffect}
    (trace : c'.trace = new ++ c.trace) (besides : new.all ClientEffect.besides = true)
    (same : c'.replayProtection = c.replayProtection ∧ c'.packetReceiveQueue = c.packetReceiveQueue)
    (isToken : c'.connectToken = c.connectToken) (readKey : c'.readPacketKey = c.readPacketKey) :
    Receiving c' := by
  obtain ⟨sameAccepted, sameReturned⟩ := @payloads_besides new c.trace besides
  rw [← trace] at sameAccepted sameReturned
  refine ⟨?_, fun source call earlier payload n isTrace decodes => ?_, fun entry member => ?_⟩
  · rw [same.1, same.2, sameAccepted, sameReturned]
    exact inv.inbox
  · rw [same.1, sameAccepted]
    cases new with
    | nil =>
      rw [isToken] at decodes
      exact inv.just source call earlier payload n (trace.symm.trans isTrace) decodes
    | cons effect rest =>
      rw [(List.cons_eq_cons.mp (trace.symm.trans isTrace)).1] at besides
      cases besides
  · rw [sameAccepted] at member
    exact inv.origin_grown trace isToken readKey member

/-- **A packet is opened.** -/
theorem Receiving.opened (inv : Receiving c) {source : Address} {data : Bytes}
    {currentTimestamp : UInt64} {outcome : ReadOutcome} {call : AeadCall}
    (reads : ReadsAs env c.connectToken.protocolID currentTimestamp 0 clientAllowedPackets data
      (some c.readPacketKey) none (some c.replayProtection) outcome)
    (isOpened : outcome.opened = some call) : Receiving (c.applyReading source outcome) := by
  -- the client has no private key, so it reads no requests
  have notRequest : ∀ request, outcome.packet ≠ some (.connectionRequest request) := by
    intro request isRequest
    cases reads with
    | ignored => cases isOpened
    | request key request' call' allowed isKey => cases isKey
    | encrypted key prefixByte type sequenceData sequence call' packet isKey bytes notRequest isType
        allowed sequenceLength sequenceRange isSequence notReplayed opens decodes =>
      obtain rfl : packet = some (.connectionRequest request) := isRequest
      have isRequest := decodePacket_type decodes
      rw [← show PacketType.request = type from isRequest] at allowed
      cases allowed
  obtain ⟨window', isWindow, inbox, just⟩ := reads.received isOpened notRequest inv.inbox
  have window : (c.applyReading source outcome).replayProtection = window' := by
    simp [applyReading, isWindow]
  have trace := @applyReading_trace c source outcome call isOpened
  refine ⟨?_, fun source' call' earlier payload n isTrace decodes => ?_, fun entry member => ?_⟩
  · rw [window, trace]
    exact inbox
  · rw [window, trace]
    rw [trace] at isTrace
    cases isTrace
    exact just payload n decodes
  · rw [trace] at member
    exact inv.origin_grown (trace.trans List.singleton_append.symm) rfl rfl member

/-- **A payload is queued.** -/
theorem Receiving.push (inv : Receiving c) {source : Address} {payload : Bytes} {n : UInt64}
    {call : AeadCall} (packet : PacketOpened c source (.connectionPayload payload) n call) (time : ℚ) :
    Receiving { c.pushPayload payload n with lastPacketReceiveTime := time } := by
  obtain ⟨earlier, head⟩ := packet.head
  have decodes : Decodes c.connectToken.protocolID call (.connectionPayload payload) n :=
    ⟨packet.nonce, packet.decodes⟩
  have just := inv.just source call earlier payload n head decodes
  have pushed := inv.inbox.push just payload
  have trace := pushPayload_trace c payload n
  generalize isLast : ({ c.pushPayload payload n with lastPacketReceiveTime := time } : Client) = c'
  have isTrace : c'.trace = (c.pushPayload payload n).trace := by rw [← isLast]
  rw [trace] at isTrace
  have sameReturned : returned c'.trace = returned c.trace := by
    rw [isTrace]
    split_ifs <;> rfl
  have isAccepted : accepted c'.trace =
      (if (c.packetReceiveQueue.push payload n).2 then [(payload, n)] else []) ++
        accepted c.trace := by
    rw [isTrace]
    split_ifs <;> rfl
  refine ⟨?_, fun source' call' earlier' payload' m newTrace decodes' => ?_, fun entry member => ?_⟩
  · rw [isAccepted, sameReturned, ← isLast]
    exact pushed
  · rw [isTrace] at newTrace
    split_ifs at newTrace with isPushed
    · cases newTrace
    · rw [isAccepted, if_neg isPushed]
      rw [← isLast] at decodes' ⊢
      exact inv.just source' call' earlier' payload' m newTrace decodes'
  · rw [isAccepted] at member
    rcases List.mem_append.mp member with new | old
    · obtain rfl : entry = (payload, n) := by
        split_ifs at new
        · exact List.mem_singleton.mp new
        · cases new
      refine ⟨source, call, ?_, ?_, ?_⟩
      · rw [isTrace, head]
        exact List.mem_append_right _ List.mem_cons_self
      · rw [← isLast]
        exact packet.key
      · rw [← isLast]
        exact decodes
    · exact inv.origin_grown isTrace (by rw [← isLast]; rfl) (by rw [← isLast]; rfl) old

/-- **The application takes a payload.** -/
theorem Receiving.pop (inv : Receiving c) : Receiving c.receivePacket := by
  have trace := receivePacket_trace c
  have sameAccepted : accepted c.receivePacket.trace = accepted c.trace := by
    rw [trace]
    split <;> rfl
  have isReturned : returned c.receivePacket.trace =
      popped c.packetReceiveQueue ++ returned c.trace := by
    rw [trace, popped]
    cases c.packetReceiveQueue.pop.2.1 <;> rfl
  refine ⟨?_, fun source call earlier payload n isTrace decodes => ?_, fun entry member => ?_⟩
  · rw [sameAccepted, isReturned]
    exact inv.inbox.pop
  · rw [trace] at isTrace
    rw [sameAccepted]
    split at isTrace
    · cases isTrace
    · exact inv.just source call earlier payload n isTrace decodes
  · rw [sameAccepted] at member
    exact inv.origin_grown trace rfl rfl member

/-! ### Every client -/

/-- **The inbox of a client on the network.** -/
structure Mailbox (c : Client) : Prop where
  ok : c.packetReceiveQueue.Ok
  vacant : c.loopback = false → c.state ≠ .connected → c.packetReceiveQueue.contents = []
  connected : c.loopback = false → c.state = .connected → Receiving c

/-- A step besides the inbox that keeps the state. -/
theorem Mailbox.grown (inv : Mailbox c) {new : List ClientEffect} (trace : c'.trace = new ++ c.trace)
    (besides : new.all ClientEffect.besides = true)
    (same : c'.replayProtection = c.replayProtection ∧ c'.packetReceiveQueue = c.packetReceiveQueue)
    (isToken : c'.connectToken = c.connectToken) (readKey : c'.readPacketKey = c.readPacketKey)
    (state : c'.state = c.state ∧ c'.loopback = c.loopback) : Mailbox c' := by
  refine ⟨same.2 ▸ inv.ok, fun network idle => ?_, fun network connected => ?_⟩
  · rw [same.2]
    exact inv.vacant (state.2 ▸ network) (state.1 ▸ idle)
  · exact (inv.connected (state.2 ▸ network) (state.1 ▸ connected)).grown trace besides same isToken
      readKey

/-- A step to a state in which the client is not connected, with an empty queue. -/
theorem Mailbox.of_vacant (ok : c'.packetReceiveQueue.Ok)
    (contents : c'.packetReceiveQueue.contents = []) (idle : c'.state ≠ .connected) : Mailbox c' :=
  ⟨ok, fun _ _ => contents, fun _ connected => absurd connected idle⟩

theorem Mailbox.micro (inv : Mailbox c) (held : c.LoopbackConnected)
    (single : c.Sending → c.connectToken.numServerAddresses = 1) (micro : Micro env connects c c') :
    Mailbox c' := by
  -- only a connected client is in loopback
  have network : c.state ≠ .connected → c.loopback = false := by
    intro idle
    by_contra loopback
    exact idle (held (by simpa using loopback))
  cases micro with
  | tick | giveUp | hear =>
    exact inv.grown (List.nil_append _).symm rfl ⟨rfl, rfl⟩ rfl rfl ⟨rfl, rfl⟩
  | clear idle =>
    have notConnected : c.state ≠ .connected := fun connected =>
      idle (active_of_state _ connected (by decide))
    exact .of_vacant PacketQueue.ok_clear rfl notConnected
  | openPacket source data currentTimestamp outcome call hasKeys reads isOpened =>
    exact ⟨inv.ok, inv.vacant, fun network connected =>
      (inv.connected network connected).opened reads isOpened⟩
  | challenge source challengeTokenSequence challengeTokenData sequence call state =>
    have idle : c.state ≠ .connected := by rw [state]; decide
    exact .of_vacant inv.ok (inv.vacant (network idle) idle)
      (show ClientState.sendingConnectionResponse ≠ .connected by decide)
  | establish source clientIndex maxClients sequence call state =>
    have idle : c.state ≠ .connected := by rw [state]; decide
    have empty := inv.vacant (network idle) idle
    refine ⟨inv.ok, fun _ notConnected => absurd rfl notConnected, fun _ _ => ⟨?_, ?_, ?_⟩⟩
    · exact Inbox.start inv.ok empty
    · exact fun source call earlier payload n isTrace => by cases isTrace
    · exact fun entry member => by cases member
  | push source payload n call state fromServer packet =>
    exact ⟨PacketQueue.ok_push inv.ok payload n, fun _ idle => absurd state idle,
      fun network connected => (inv.connected network connected).push packet c.time⟩
  | send p note active network kind =>
    refine inv.grown (sendPacketToServerInternal_trace c p note) ?_ ⟨rfl, rfl⟩ rfl rfl ⟨rfl, rfl⟩
    cases kind <;> rfl
  | begin data token serverAddress allowed idle =>
    have notConnected : c.state ≠ .connected := fun connected =>
      idle (active_of_state _ connected (by decide))
    exact .of_vacant inv.ok (inv.vacant (network notConnected) notConnected)
      (show ClientState.sendingConnectionRequest ≠ .connected by decide)
  | reject data token allowed idle =>
    have notConnected : c.state ≠ .connected := fun connected =>
      idle (active_of_state _ connected (by decide))
    exact .of_vacant inv.ok (inv.vacant (network notConnected) notConnected)
      (show ClientState.invalidConnectToken ≠ .connected by decide)
  | nextServer serverAddress active network more =>
    rw [single ⟨active, network⟩] at more
    omega
  | reset destination idle =>
    refine .of_vacant PacketQueue.ok_clear rfl fun connected => ?_
    exact absurd (active_of_state _ connected (by decide)) (not_lt.mpr idle)
  | deliver =>
    refine ⟨PacketQueue.ok_pop inv.ok, fun network idle => ?_, fun network connected =>
      (inv.connected network connected).pop⟩
    have empty := inv.vacant network idle
    rcases c.packetReceiveQueue.contents_pop inv.ok with ⟨-, same⟩ | more
    · show c.packetReceiveQueue.pop.1.contents = []
      rw [same]
      exact empty
    · rw [empty] at more
      cases more
  | connectLoopback clientIndex maxClients =>
    exact ⟨inv.ok, fun network => (by cases network), fun network => (by cases network)⟩
  | pushLoopback payload n loopback =>
    have loops : ∀ {value}, c.loopback = value → value = true := fun same => same.symm.trans loopback
    exact ⟨PacketQueue.ok_push inv.ok payload n, fun network => (by cases loops network),
      fun network => (by cases loops network)⟩
  | sendLoopback payload loopback =>
    exact inv.grown (show _ = [_] ++ c.trace from rfl) rfl ⟨rfl, rfl⟩ rfl rfl ⟨rfl, rfl⟩

theorem Mailbox.new (time : ℚ) : Mailbox (new time) where
  ok := PacketQueue.ok_clear
  vacant := fun _ _ => rfl
  connected := fun _ connected => by cases connected

theorem Run.mailbox {calls : List Call} (quiet : config.NonReentrant)
    (single : token.numServerAddresses = 1) (run : Run env config calls c)
    (once : ConnectsOnce token c.trace) : Mailbox c :=
  (Run.along (ConnectsOnce token)
    (fun c => c.LoopbackConnected ∧ FirstConnection env token c ∧ Mailbox c) quiet
    (fun _ _ suffix once => once.of_suffix suffix)
    (fun time => ⟨fun loopback => (by cases loopback), .new env token time, .new time⟩)
    (fun _ _ _ micro once held => ⟨micro.loopbackConnected held.1,
      held.2.1.micro held.1 single micro once, held.2.2.micro held.1
        (fun sending => (held.2.1.holds sending).isToken ▸ single) micro⟩) run once).2.2

end Client

end Netcode
