/-
**A connected client.**

What the calls of a connected client come to, as one equation each: a packet that its server wrote is
heard, a payload is sent, and `Update` sends a keep-alive if one is due and goes on as long as the
server was heard from in time. The trace apart, which only grows, each equation says all that changes.

* `Talks.keepAlive`, `Talks.payload` — a packet of the server;
* `Talks.update` — **`Update` keeps the connection up**;
* `Talks.sendPacket` — a payload of the application.
-/

import Netcode.Client.Handshake
import Netcode.Tables.Inbox

namespace Netcode

namespace Client

/-- **The client is connected** to a server of the network, and has not been told to leave. -/
structure Talks (c : Client) : Prop where
  state : c.state = .connected
  network : c.loopback = false
  hasKeys : c.hasPacketKeys = true
  stays : c.shouldDisconnect = false

section Session

variable {env : Platform} {config : ClientConfig} {c : Client} {source : Address}

/-- **A keep-alive of the server is heard.** -/
theorem Talks.keepAlive (talks : Talks c) (fromServer : source.Equal c.serverAddress = true)
    {sequence : UInt64} (fresh : c.replayProtection.alreadyReceived sequence = false)
    (clientIndex maxClients : Int32) (currentTimestamp : UInt64) :
    ∃ trace, sentByClient trace = sentByClient c.trace ∧
      processPacket env config c source (writePacket env (.connectionKeepAlive clientIndex maxClients)
        sequence c.readPacketKey c.connectToken.protocolID) currentTimestamp =
      some { c with
        replayProtection := c.replayProtection.advanceSequence sequence
        lastPacketReceiveTime := c.time
        trace := trace } := by
  have reads := @processPacket_written env config c (.connectionKeepAlive clientIndex maxClients)
    talks.hasKeys trivial rfl sequence (fun _ => fresh) source currentTimestamp
  refine ⟨.opened source (sealPacket env (.connectionKeepAlive clientIndex maxClients) sequence
    c.readPacketKey c.connectToken.protocolID) :: c.trace, rfl, reads.trans ?_⟩
  unfold processPacketInternal applyReading
  dsimp only
  rw [if_pos fromServer, talks.state]
  rfl

/-- **A payload of the server is heard and queued.** -/
theorem Talks.payload (talks : Talks c) (fromServer : source.Equal c.serverAddress = true)
    {sequence : UInt64} (fresh : c.replayProtection.alreadyReceived sequence = false)
    {payload : Bytes} (fits : (Packet.connectionPayload payload).Sealable)
    (currentTimestamp : UInt64) :
    ∃ trace, sentByClient trace = sentByClient c.trace ∧
      processPacket env config c source (writePacket env (.connectionPayload payload) sequence
        c.readPacketKey c.connectToken.protocolID) currentTimestamp =
      some { c with
        replayProtection := c.replayProtection.advanceSequence sequence
        packetReceiveQueue := (c.packetReceiveQueue.push payload sequence).1
        lastPacketReceiveTime := c.time
        trace := trace } := by
  have reads := @processPacket_written env config c (.connectionPayload payload) talks.hasKeys fits
    rfl sequence (fun _ => fresh) source currentTimestamp
  refine ⟨if (c.packetReceiveQueue.push payload sequence).2 then .queued payload sequence ::
      .opened source (sealPacket env (.connectionPayload payload) sequence c.readPacketKey
        c.connectToken.protocolID) :: c.trace
    else .opened source (sealPacket env (.connectionPayload payload) sequence c.readPacketKey
      c.connectToken.protocolID) :: c.trace, ?_, reads.trans ?_⟩
  · split_ifs <;> rfl
  · unfold processPacketInternal applyReading
    dsimp only
    rw [if_pos ⟨talks.state, fromServer⟩]
    rfl

/-- **`Update` sends a keep-alive if one is due**, and goes on if the server was heard from. -/
theorem Talks.update (talks : Talks c) {time : ℚ}
    (heard : 0 < c.connectToken.timeoutSeconds →
      time ≤ env.float64 (c.lastPacketReceiveTime + c.connectToken.timeoutSeconds.toInt)) :
    ∃ trace, sentByClient trace = writePacket env (.connectionKeepAlive 0 0) c.sequence
        c.writePacketKey c.connectToken.protocolID :: sentByClient c.trace ∧
      Client.update env config c time [] =
        some (if time ≤ env.float64 (c.lastPacketSendTime + env.float64 packetSendInterval) then
          { c with time := time }
        else { c with
          time := time
          sequence := c.sequence + 1
          lastPacketSendTime := time
          trace := trace }) := by
  refine ⟨(sendPacketToServerInternal env c (.connectionKeepAlive 0 0)).trace, rfl, ?_⟩
  have sends : sendPackets env { c with time := time } =
      if time ≤ env.float64 (c.lastPacketSendTime + env.float64 packetSendInterval) then
        { c with time := time }
      else sendPacketToServerInternal env { c with time := time } (.connectionKeepAlive 0 0) := by
    unfold sendPackets
    dsimp only
    rw [talks.state]
  have patient : ∀ d : Client, d.connectToken = c.connectToken → d.time = time →
      d.lastPacketReceiveTime = c.lastPacketReceiveTime → d.timedOut env = false := by
    intro d isToken isTime isReceived
    unfold timedOut
    rw [isToken, isTime, isReceived, Bool.and_eq_false_imp]
    intro positive
    exact decide_eq_false (not_lt.mpr (heard (of_decide_eq_true positive)))
  rw [update_network talks.network]
  show checkTimeouts env config (sendPackets env { c with time := time }) = _
  rw [sends]
  split_ifs
  · exact checkTimeouts_stays (.inl talks.state) talks.stays (patient _ rfl rfl rfl)
  · exact checkTimeouts_stays (.inl talks.state) talks.stays (patient _ rfl rfl rfl)

/-- **A payload is sent to the server.** -/
theorem Talks.sendPacket (env : Platform) (config : ClientConfig) (talks : Talks c) {payload : Bytes}
    (fits : (Packet.connectionPayload payload).Sealable) :
    ∃ trace, sentByClient trace = writePacket env (.connectionPayload payload) c.sequence
        c.writePacketKey c.connectToken.protocolID :: sentByClient c.trace ∧
      Client.sendPacket env config c payload = some { c with
        sequence := c.sequence + 1
        lastPacketSendTime := c.time
        trace := trace } := by
  have size : ¬ (payload.length ≤ 0 ∨ MaxPacketSize < payload.length) := by
    have := fits.1
    have := fits.2
    omega
  refine ⟨(sendPacketToServerInternal env { c with
    trace := .submitted payload c.sequence :: c.trace } (.connectionPayload payload)).trace, rfl, ?_⟩
  rw [Client.sendPacket, if_neg size, if_neg (by simp [talks.state]), if_pos (by simp [talks.network])]
  rfl

/-- **The application takes the oldest payload.** -/
theorem receivePacket_eq (c : Client) :
    c.receivePacket = { c with
      packetReceiveQueue := c.packetReceiveQueue.pop.1
      trace := (popped c.packetReceiveQueue).map (fun entry => .delivered entry.1 entry.2) ++
        c.trace } := by
  rw [receivePacket, popped]
  generalize c.packetReceiveQueue.pop = taken
  obtain ⟨queue, packet, sequence⟩ := taken
  cases packet <;> rfl

theorem sentByClient_send (env : Platform) (c : Client) (p : Packet) :
    sentByClient (sendPacketToServerInternal env c p).trace =
      writePacket env p c.sequence c.writePacketKey c.connectToken.protocolID ::
        sentByClient c.trace := by
  cases p <;> rfl

end Session

end Client

end Netcode
