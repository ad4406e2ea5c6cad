/-
**One client's line.**

What the server does for one client of the network does not depend on what goes on in the other
slots. `Line` is the part of the server that concerns the client in a slot: the slot itself, the keys
of its mapping, and what was sent to the client's address.

* `Serves.sends` — a packet that is sent to the client;
* `Serves.sends_other`, `Serves.leave_other`, `Serves.elsewhere` — **what is done for other clients, and
  a datagram from another address, leave the line as it is**;
* `Serves.reads`, `Serves.written` — a datagram of the client is read with the keys of the line;
* `Pass` — **what the passes over the slots keep**, those of `Update` and of `DisconnectAllClients`;
* `Stranger.sendAndCheck`, `Waiting.opens` — before there is a line, and how it is opened.
-/

import Netcode.Server.Amplification
import Netcode.Server.Handshake
import Netcode.Server.Reached
import Netcode.Tables.Inbox

namespace Netcode

/-- The datagrams sent to an address, newest first. -/
def sentTo (peer : Address) (trace : List Effect) : List Bytes :=
  (sentDatagrams trace).filterMap fun sent => if sent.1.Equal peer then some sent.2 else none

theorem sentTo_sent (peer destination : Address) (data : Bytes) (trace : List Effect) :
    sentTo peer (.sent destination data :: trace) =
      if destination.Equal peer then data :: sentTo peer trace else sentTo peer trace := by
  show List.filterMap _ ((destination, data) :: sentDatagrams trace) = _
  rw [List.filterMap_cons]
  split_ifs <;> rfl

theorem sentTo_congr {trace trace' : List Effect}
    (same : sentDatagrams trace' = sentDatagrams trace) (peer : Address) :
    sentTo peer trace' = sentTo peer trace := by
  unfold sentTo
  rw [same]

/-- One datagram was sent to the address. -/
theorem sentTo_reply {peer : Address} {data : Bytes} {trace trace' : List Effect}
    (usable : peer.Equal peer = true)
    (replies : sentDatagrams trace' = (peer, data) :: sentDatagrams trace) :
    sentTo peer trace' = data :: sentTo peer trace := by
  unfold sentTo
  rw [replies, List.filterMap_cons, if_pos usable]

/-- **The part of the server that concerns one client.** -/
structure Line where
  slot : ClientSlot
  sendKey : Key
  receiveKey : Key
  /-- What was sent to the client's address, newest first. -/
  sent : List Bytes
  time : ℚ
  maxClients : Nat

namespace Line

section Operations

variable (env : Platform) (protocolID : UInt64)

/-- A packet is sent to the client. -/
def write (p : Packet) (l : Line) : Line :=
  { l with
    slot := { l.slot with
      sequence := l.slot.sequence + 1
      lastPacketSendTime := l.time }
    sent := writePacket env p l.slot.sequence l.sendKey protocolID :: l.sent }

/-- A keep-alive is sent to the client in slot `i`. -/
def keepAlive (i : Nat) (l : Line) : Line :=
  l.write env protocolID (.connectionKeepAlive (Int32.ofNat i) (Int32.ofNat l.maxClients))

/-- What `Update` sends: a keep-alive if nothing was sent for the send interval. -/
def upkeep (i : Nat) (l : Line) : Line :=
  if env.float64 (l.slot.lastPacketSendTime + env.float64 packetSendInterval) ≤ l.time then
    l.keepAlive env protocolID i
  else l

/-- What `SendPacket` sends: a client that was not heard from yet is first sent a keep-alive. -/
def submit (i : Nat) (payload : Bytes) (l : Line) : Line :=
  (if l.slot.confirmed then l else l.keepAlive env protocolID i).write env protocolID
    (.connectionPayload payload)

end Operations

/-- A packet with this number was heard from the client. -/
def hear (sequence : UInt64) (l : Line) : Line :=
  { l with slot := { l.slot with
      replayProtection := l.slot.replayProtection.advanceSequence sequence
      lastPacketReceiveTime := l.time
      confirmed := true } }

/-- A payload is queued for the application. -/
def push (payload : Bytes) (sequence : UInt64) (l : Line) : Line :=
  { l with slot := { l.slot with packetQueue := (l.slot.packetQueue.push payload sequence).1 } }

/-- The application takes a payload. -/
def pop (l : Line) : Line :=
  { l with slot := { l.slot with packetQueue := l.slot.packetQueue.pop.1 } }

/-- The client has not been silent for longer than its timeout. -/
def Heard (env : Platform) (l : Line) : Prop :=
  0 < l.slot.timeout →
    l.time < env.float64 (l.slot.lastPacketReceiveTime + l.slot.timeout.toInt)

end Line

namespace Server

variable {env : Platform} {config : ServerConfig} {s s' : Server} {source : Address} {i e j : Nat}

/-- The line to the client in slot `i`, whose mapping is `e`. -/
def line (s : Server) (i e : Nat) : Line where
  slot := s.clients i
  sendKey := (s.encryptionManager.mapping e).sendKey
  receiveKey := (s.encryptionManager.mapping e).receiveKey
  sent := sentTo (s.clients i).address s.trace
  time := s.time
  maxClients := s.maxClients

/-- **A client of the network is connected** in slot `i`, with mapping `e`. -/
structure Serves (s : Server) (i e : Nat) : Prop where
  ok : s.slotTable.Ok
  connected : (s.clients i).connected = true
  network : (s.clients i).loopback = false
  mapped : (s.clients i).encryptionIndex = some e

/-- `ReceivePacket` takes the oldest payload of a connected client. -/
theorem receivePacket_eq (valid : s.validSlot i = some i) (connected : (s.clients i).connected = true) :
    receivePacket s i = { s.setClient i { s.clients i with
        packetQueue := (s.clients i).packetQueue.pop.1 } with
      trace := (popped (s.clients i).packetQueue).map
        (fun entry => .delivered i entry.1 entry.2) ++ s.trace } := by
  rw [receivePacket, valid]
  dsimp only
  rw [if_neg (by simp [connected]), popped]
  cases (s.clients i).packetQueue.pop.2.1 <;> rfl

/-- A client that leaves is sent its packets, and nobody else is. -/
theorem disconnectClientInternal_answers (quiet : config.NonReentrant) {sends : Bool}
    {reason : DisconnectReason}
    (done : disconnectClientInternal env config s j sends reason = some s') {peer : Address}
    (apart : (s.clients j).address.Equal peer = false) :
    sentTo peer s'.trace = sentTo peer s.trace := by
  let noted := s.setClient j { s.clients j with disconnectReason := reason }
  have address : (noted.clients j).address = (s.clients j).address := by simp [noted, setClient]
  simp only [disconnectClientInternal, notify_eq quiet, Option.bind_eq_bind, Option.bind_some] at done
  obtain ⟨t, said, rest⟩ := Option.bind_eq_some_iff.mp done
  obtain ⟨e', -, rest⟩ := Option.bind_eq_some_iff.mp rest
  cases rest
  show sentTo peer t.trace = _
  have kept : (t.clients j).address = (s.clients j).address ∧
      sentTo peer t.trace = sentTo peer s.trace := by
    cases sends with
    | false =>
      cases said
      exact ⟨address, rfl⟩
    | true =>
      refine @Trace.foldlM_keeps Server Nat (fun u => (u.clients j).address = (s.clients j).address ∧
        sentTo peer u.trace = sentTo peer s.trace) _ (fun u _ u' held visits => ?_) _ noted t
        ⟨address, rfl⟩ said
      obtain ⟨e', mapped, visits⟩ := Option.bind_eq_some_iff.mp visits
      split at visits
      · cases visits
        exact held
      · cases visits
        refine ⟨?_, ?_⟩
        · simpa [writeToClient] using held.1
        · show sentTo peer (.sent (u.clients j).address _ :: .sealed _ _ :: u.trace) = _
          rw [sentTo_sent, held.1, if_neg (by simp [apart])]
          exact held.2
  exact kept.2

namespace Serves

theorem running (serves : Serves s i e) : s.running = true :=
  running_of_connected serves.ok serves.connected

theorem small (serves : Serves s i e) : i < s.maxClients := serves.ok.inUse i serves.connected

theorem owner (serves : Serves s i e) : (s.encryptionManager.mapping e).clientIndex = some i ∧
    (s.encryptionManager.mapping e).address.Equal (s.clients i).address = true := by
  obtain ⟨e', known, mapped, owns, equal⟩ := serves.ok.mapped i serves.connected serves.network
  cases serves.mapped.symm.trans mapped
  obtain ⟨client, rfl⟩ := EncryptionManager.owner_eq_some.mp owns
  exact ⟨client, equal⟩

/-- The client has an address. -/
theorem usable (serves : Serves s i e) : (s.clients i).address.Equal (s.clients i).address = true :=
  Address.Equal.trans (Address.Equal.symm serves.owner.2) serves.owner.2

theorem valid (serves : Serves s i e) : s.validSlot i = some i := by
  have small := serves.small
  unfold validSlot
  rw [if_pos ⟨serves.running, by omega, by omega⟩]
  rfl

/-- No other client is at the client's address. -/
theorem apart (serves : Serves s i e) (connected : (s.clients j).connected = true) (other : j ≠ i) :
    (s.clients j).address.Equal (s.clients i).address = false := by
  by_contra same
  exact other (serves.ok.addresses j i connected serves.connected
    (Bool.eq_true_of_not_eq_false same))

theorem found (serves : Serves s i e) (fromPeer : (s.clients i).address.Equal source = true) :
    s.findClientIndexByAddress source = some i := by
  cases found : s.findClientIndexByAddress source with
  | none =>
    have absent := findClientIndexByAddress_eq_none.mp found i serves.small serves.connected
    rw [fromPeer] at absent
    cases absent
  | some j =>
    obtain ⟨-, connected, equal⟩ := findClientIndexByAddress_eq_some found
    rw [serves.ok.addresses j i connected serves.connected
      (Address.Equal.trans equal (Address.Equal.symm fromPeer))]

/-! ### What goes on elsewhere -/

/-- **Something that does not concern the line.** -/
theorem aside (serves : Serves s i e) (ok : s'.slotTable.Ok) (slot : s'.clients i = s.clients i)
    (mapping : s'.encryptionManager.mapping e = s.encryptionManager.mapping e)
    (sent : sentTo (s.clients i).address s'.trace = sentTo (s.clients i).address s.trace)
    (time : s'.time = s.time) (maxClients : s'.maxClients = s.maxClients) :
    Serves s' i e ∧ s'.line i e = s.line i e := by
  refine ⟨⟨ok, slot ▸ serves.connected, slot ▸ serves.network, slot ▸ serves.mapped⟩, ?_⟩
  simp only [line, slot, mapping, sent, time, maxClients]

/-- What is done for another address leaves the client's mapping alone. -/
theorem mapping_kept (serves : Serves s i e) {other : Address} {manager : EncryptionManager}
    (keeps : EncryptionManager.Keeps env other s.time s.encryptionManager manager)
    (apart : other.Equal (s.clients i).address = false) :
    manager.mapping e = s.encryptionManager.mapping e := by
  obtain ⟨client, equal⟩ := serves.owner
  refine keeps.kept e (Address.Equal.type_ne_none equal) ?_ (.inr (by rw [client]; simp))
  by_contra same
  rw [Address.Equal.trans (Address.Equal.symm (by simpa using same)) equal] at apart
  cases apart

/-- A packet is sent to another client. -/
theorem sends_other (serves : Serves s i e) {p : Packet} (connected : (s.clients j).connected = true)
    (network : (s.clients j).loopback = false) (other : j ≠ i)
    (done : sendClientPacket env config s p j = some s') :
    (Serves s' i e ∧ s'.line i e = s.line i e) ∧ SameSession (s.clients j) (s'.clients j) := by
  obtain ⟨e', mapped, isMapping⟩ := mapped_address serves.ok connected network
  rw [sendClientPacket_touch env config p mapped, if_pos isMapping] at done
  cases done
  have within := writeToClient_within env config p (s.encryptionManager.mapping e').sendKey isMapping
  have apart := serves.apart connected other
  refine ⟨serves.aside (serves.ok.steps (within.moves serves.ok connected).table)
    (within.others i other.symm) (serves.mapping_kept within.mappings apart) ?_ within.time
    within.maxClients, within.slot⟩
  show sentTo _ (.sent (s.clients j).address _ :: .sealed _ _ :: s.trace) = _
  rw [sentTo_sent, if_neg (by simp [apart])]
  rfl

/-- **Another client is let go.** -/
theorem leave_other (quiet : config.NonReentrant) (serves : Serves s i e)
    (connected : (s.clients j).connected = true) (network : (s.clients j).loopback = false)
    (other : j ≠ i) {sends : Bool} {reason : DisconnectReason}
    (done : disconnectClientInternal env config s j sends reason = some s') :
    Serves s' i e ∧ s'.line i e = s.line i e := by
  obtain ⟨_, returns, moves, vacated, time, mappings⟩ := disconnectClientInternal_moves env quiet
    serves.ok connected network sends reason
  cases done.symm.trans returns
  have apart := serves.apart connected other
  exact serves.aside (serves.ok.steps moves.table) (vacated.others i other.symm)
    (serves.mapping_kept mappings apart) (disconnectClientInternal_answers quiet done apart) time
    vacated.maxClients

end Serves

/-! ### Datagrams from elsewhere -/

theorem connectClient_maxClients (quiet : config.NonReentrant) {address : Address} {clientID : UInt64}
    {timeoutSeconds : Int32} {userData : UserData}
    (done : connectClient env config s i address clientID e timeoutSeconds userData = some s') :
    s'.maxClients = s.maxClients := by
  unfold connectClient sendClientPacket at done
  obtain ⟨middle, sends, calls⟩ := Option.bind_eq_some_iff.mp done
  rw [notify_eq quiet] at calls
  cases calls
  obtain ⟨e', -, sends⟩ := Option.bind_eq_some_iff.mp sends
  split at sends <;> (cases sends; rfl)

/-- A packet does not change the number of slots. -/
theorem processPacketInternal_maxClients (quiet : config.NonReentrant) {p : Packet} {sequence : UInt64}
    {encryptionIndex clientIndex : Option Nat} {reading : UInt64}
    (done : processPacketInternal env config s source p sequence encryptionIndex clientIndex reading =
      some s') : s'.maxClients = s.maxClients := by
  cases processPacketInternal_cases done with
  | dropped p same => rw [same]
  | request request reading handles =>
    rcases processConnectionRequestPacket_cases handles with rfl | rfl | ⟨token, index, rfl⟩
    · rfl
    · rfl
    · unfold admitRequest
      split_ifs
      · rfl
      · split <;> rfl
  | response _ _ _ handles =>
    obtain ⟨t, examined, outcome⟩ := processConnectionResponsePacket_cases handles
    have same : t.maxClients = s.maxClients := by cases examined <;> rfl
    rcases outcome with rfl | ⟨key, rfl⟩ | ⟨k, clientID, e, timeoutSeconds, userData, connects⟩
    · exact same
    · exact same
    · exact (connectClient_maxClients quiet connects).trans same
  | keepAlive k _ _ heard => rw [heard]; rfl
  | payload k payload sequence heard =>
    rw [heard]
    unfold pushPayload
    dsimp only
    split_ifs <;> rfl
  | disconnect k handles =>
    simp only [disconnectClientInternal, notify_eq quiet, Option.bind_eq_bind, Option.bind_some,
      Bool.false_eq_true, if_false] at handles
    obtain ⟨e', -, handles⟩ := Option.bind_eq_some_iff.mp handles
    cases handles
    rfl

/-- **Reading a datagram** sends nothing, and leaves the packet to be processed, if there is one. -/
theorem readAndProcessPacket_reading {data : Bytes} {currentTimestamp reading : UInt64}
    (done : readAndProcessPacket env config s source data currentTimestamp reading = some s') :
    ∃ t, t.maxClients = s.maxClients ∧ sentDatagrams t.trace = sentDatagrams s.trace ∧
      (s' = t ∨ ∃ p sequence encryptionIndex clientIndex, processPacketInternal env config t source p
        sequence encryptionIndex clientIndex reading = some s') := by
  unfold readAndProcessPacket at done
  dsimp only at done
  have located : ∀ clientIndex, (locateMapping env (s.record (.datagram currentTimestamp source data))
      source clientIndex).2.maxClients = s.maxClients ∧ sentDatagrams (locateMapping env
        (s.record (.datagram currentTimestamp source data)) source clientIndex).2.trace =
          sentDatagrams s.trace := by
    intro clientIndex
    cases clientIndex <;> exact ⟨rfl, rfl⟩
  generalize (s.record (.datagram currentTimestamp source data)).findClientIndexByAddress source =
    clientIndex at done
  split_ifs at done
  · cases done
    exact ⟨s.record _, rfl, rfl, .inl rfl⟩
  · cases done
    exact ⟨s.record _, rfl, rfl, .inl rfl⟩
  · cases done
    exact ⟨(locateMapping env _ source _).2, (located _).1, (located _).2, .inl rfl⟩
  · obtain ⟨outcome, -, done⟩ := Option.bind_eq_some_iff.mp done
    refine ⟨(locateMapping env _ source clientIndex).2.applyReading source currentTimestamp clientIndex
      outcome, (applyReading_windows _ source currentTimestamp clientIndex outcome).1.trans
        (located clientIndex).1, (applyReading_sends _ source currentTimestamp clientIndex outcome).trans
        (located clientIndex).2, ?_⟩
    cases isPacket : outcome.packet with
    | none =>
      rw [isPacket] at done
      cases done
      exact .inl rfl
    | some p =>
      rw [isPacket] at done
      exact .inr ⟨p, _, _, _, done⟩

/-- A datagram is answered to its source only, and does not change the number of slots. -/
theorem readAndProcessPacket_answers (quiet : config.NonReentrant) {data : Bytes}
    {currentTimestamp reading : UInt64}
    (done : readAndProcessPacket env config s source data currentTimestamp reading = some s')
    {peer : Address} (apart : source.Equal peer = false) :
    s'.maxClients = s.maxClients ∧ sentTo peer s'.trace = sentTo peer s.trace := by
  obtain ⟨t, maxClients, sent, rfl | ⟨p, sequence, encryptionIndex, clientIndex, handles⟩⟩ :=
    readAndProcessPacket_reading done
  · exact ⟨maxClients, sentTo_congr sent peer⟩
  · have replies : ∀ size, Replies source size t s' → sentTo peer s'.trace = sentTo peer t.trace := by
      rintro size (same | ⟨reply, answered, -⟩)
      · exact sentTo_congr same peer
      · unfold sentTo
        rw [answered, List.filterMap_cons, if_neg (by simp [apart])]
    refine ⟨(processPacketInternal_maxClients quiet handles).trans maxClients,
      Eq.trans ?_ (sentTo_congr sent peer)⟩
    rcases processPacketInternal_replies quiet.silent handles with
      same | ⟨-, answered⟩ | ⟨-, answered⟩
    · exact sentTo_congr same peer
    · exact replies _ answered
    · exact replies _ answered

namespace Serves

/-- **A datagram from another address leaves the line as it is.** -/
theorem elsewhere (quiet : config.NonReentrant) (serves : Serves s i e)
    (apart : (s.clients i).address.Equal source = false) {data : Bytes}
    {currentTimestamp reading : UInt64}
    (done : readAndProcessPacket env config s source data currentTimestamp reading = some s') :
    Serves s' i e ∧ s'.line i e = s.line i e := by
  obtain ⟨_, returns, accounted⟩ := readAndProcessPacket_slots env quiet serves.ok source data
    currentTimestamp reading
  cases done.symm.trans returns
  have apart' : source.Equal (s.clients i).address = false := by
    by_contra same
    rw [Address.Equal.symm (by simpa using same)] at apart
    cases apart
  obtain ⟨maxClients, sent⟩ := readAndProcessPacket_answers quiet done apart'
  have slot : s'.clients i = s.clients i := by
    cases found : s.findClientIndexByAddress source with
    | some k =>
      refine accounted.present k found i fun same => ?_
      have equal := (findClientIndexByAddress_eq_some found).2.2
      rw [← same, apart] at equal
      cases equal
    | none =>
      rcases accounted.absent found with same | ⟨k, free, -, -, -, others⟩
      · exact congrFun same i
      · refine others i fun same => ?_
        rw [← same, serves.connected] at free
        cases free
  exact serves.aside (serves.ok.steps accounted.moves.table) slot
    (serves.mapping_kept accounted.mappings apart') sent accounted.time maxClients

/-! ### Datagrams of the client -/

/-- **A datagram from the client's address** is read with the keys and the window of the line. -/
theorem reads (serves : Serves s i e) (fromPeer : (s.clients i).address.Equal source = true)
    {data : Bytes} (long : 1 < data.length) {currentTimestamp : UInt64} {outcome : ReadOutcome}
    (reads : readPacket env config.protocolID currentTimestamp s.minConnectTokenExpireTimestamp
      serverAllowedPackets data (some (s.line i e).receiveKey) (some config.privateKey)
      (some (s.clients i).replayProtection) = some outcome) {t : Server}
    (isState : t = (s.record (.datagram currentTimestamp source data)).applyReading source
      currentTimestamp (some i) outcome) (reading : UInt64) :
    readAndProcessPacket env config s source data currentTimestamp reading =
      outcome.packet.elim (some t) fun p =>
        processPacketInternal env config t source p outcome.sequence (some e) (some i) reading := by
  subst isState
  have isIndex : (s.record (.datagram currentTimestamp source data)).findClientIndexByAddress source =
      some i := serves.found fromPeer
  have mapped : ((s.record (.datagram currentTimestamp source data)).clients i).encryptionIndex =
      some e := serves.mapped
  have key : (s.record (.datagram currentTimestamp source data)).encryptionManager.getReceiveKey
      (some e) = some (s.line i e).receiveKey := rfl
  unfold readAndProcessPacket
  dsimp only
  rw [if_neg (by simp [record, serves.running]), if_neg (by omega), isIndex, locateMapping]
  dsimp only
  rw [mapped, key, if_neg (by simp), Option.map_some]
  show (readPacket env config.protocolID currentTimestamp s.minConnectTokenExpireTimestamp
    serverAllowedPackets _ _ (some config.privateKey) (some (s.clients i).replayProtection)).bind _ = _
  rw [reads, Option.bind_some]
  cases outcome.packet <;> rfl

/-- **A packet that the client wrote is processed**, if the replay window has not seen it. -/
theorem written (serves : Serves s i e) (fromPeer : (s.clients i).address.Equal source = true)
    {p : Packet} (fits : p.Sealable) (allowed : serverAllowedPackets p.packetType = true)
    {sequence : UInt64} (protects : p.packetType.replayProtected = true)
    (fresh : (s.clients i).replayProtection.alreadyReceived sequence = false)
    (currentTimestamp reading : UInt64) :
    ∃ trace, sentDatagrams trace = sentDatagrams s.trace ∧
      readAndProcessPacket env config s source (writePacket env p sequence
        (s.line i e).receiveKey config.protocolID) currentTimestamp reading =
      processPacketInternal env config
        { s.setClient i { s.clients i with
            replayProtection := (s.clients i).replayProtection.advanceSequence sequence } with
          trace := trace } source p sequence (some e) (some i) reading := by
  have length := (@writePacket_length env p fits sequence (s.line i e).receiveKey config.protocolID).1
  refine ⟨.opened .packet (sealPacket env p sequence (s.line i e).receiveKey config.protocolID) ::
    .datagram currentTimestamp source (writePacket env p sequence (s.line i e).receiveKey
      config.protocolID) :: s.trace, rfl, ?_⟩
  rw [serves.reads fromPeer (by rw [length, MacBytes]; omega) (readPacket_writePacket fits sequence _
    allowed fun _ replay isReplay => Option.some_inj.mp isReplay ▸ fresh) rfl, Option.elim_some]
  congr 1
  unfold applyReading advanceReplay recordReading
  rw [if_pos protects]
  cases p with
  | connectionRequest => exact fits.elim
  | _ => rfl

/-- The slot changes within its session. -/
theorem change (serves : Serves s i e) (slot : ClientSlot) (session : SameSession (s.clients i) slot)
    (trace : List Effect) :
    Serves { s.setClient i slot with trace := trace } i e ∧
      ({ s.setClient i slot with trace := trace } : Server).line i e =
        { s.line i e with slot := slot, sent := sentTo (s.clients i).address trace } := by
  have here : ({ s.setClient i slot with trace := trace } : Server).clients i = slot :=
    Function.update_self _ _ _
  refine ⟨⟨serves.ok.change serves.connected session fun isLoopback => ?_, ?_, ?_, ?_⟩, ?_⟩
  · rw [show (s.slotTable.clients i).loopback = false from serves.network] at isLoopback
    cases isLoopback
  · rw [here, session.connected, serves.connected]
  · rw [here, session.loopback, serves.network]
  · rw [here, session.encryptionIndex, serves.mapped]
  · unfold line
    rw [here, session.address]
    rfl

/-- **A packet is sent to the client.** -/
theorem sends (serves : Serves s i e) {p : Packet}
    (done : sendClientPacket env config s p i = some s') :
    Serves s' i e ∧ s'.line i e = (s.line i e).write env config.protocolID p := by
  obtain ⟨-, isMapping⟩ := serves.owner
  rw [sendClientPacket_touch env config p serves.mapped, if_pos isMapping] at done
  cases done
  have within := writeToClient_within env config p (s.encryptionManager.mapping e).sendKey isMapping
  have moves := within.moves serves.ok serves.connected
  refine ⟨⟨serves.ok.steps moves.table, within.slot.connected.trans serves.connected,
    within.slot.loopback.trans serves.network, within.slot.encryptionIndex.trans serves.mapped⟩, ?_⟩
  have sent : sentTo (s.clients i).address (writeToClient env config
      { s with encryptionManager := s.encryptionManager.access e s.time } p i
      (s.encryptionManager.mapping e).sendKey).trace =
        writePacket env p (s.clients i).sequence (s.encryptionManager.mapping e).sendKey
          config.protocolID :: sentTo (s.clients i).address s.trace := by
    show sentTo _ (.sent (s.clients i).address _ :: .sealed _ _ :: s.trace) = _
    rw [sentTo_sent, if_pos serves.usable]
    rfl
  unfold line
  rw [within.slot.address, sent]
  simp [writeToClient, Line.write, EncryptionManager.access, EncryptionManager.set]

/-- Time passes. -/
theorem tick (serves : Serves s i e) (time : ℚ) (effect : Effect)
    (silent : sentDatagrams (effect :: s.trace) = sentDatagrams s.trace) :
    Serves ({ s with time := time }.record effect) i e ∧
      ({ s with time := time }.record effect).line i e = { s.line i e with time := time } := by
  refine ⟨⟨serves.ok, serves.connected, serves.network, serves.mapped⟩, ?_⟩
  simp only [line, record, sentTo_congr silent]

end Serves

/-! ### Passes over the slots -/

/-- **What the passes over the slots keep**: a property that survives a packet to a client of the
network, and the release of one. -/
structure Pass (env : Platform) (config : ServerConfig) (holds : Server → Prop) : Prop where
  send : ∀ {t t' j p}, holds t → (t.clients j).connected = true → (t.clients j).loopback = false →
    sendClientPacket env config t p j = some t' → holds t'
  leave : ∀ {t t' j sends reason}, holds t → (t.clients j).connected = true →
    (t.clients j).loopback = false →
    disconnectClientInternal env config t j sends reason = some t' → holds t'

namespace Pass

variable {holds : Server → Prop}

theorem idle (held : holds s) (same : some s = some s') : holds s' := by
  cases same
  exact held

/-- A turn of the pass that sends the keep-alives. -/
theorem keepAlive (pass : Pass env config holds) (held : holds s)
    (done : (if (s.clients j).connected && !(s.clients j).loopback &&
        env.float64 ((s.clients j).lastPacketSendTime + env.float64 packetSendInterval) ≤ s.time then
      sendClientPacket env config s (s.keepAlivePacket j) j else some s) = some s') : holds s' := by
  split_ifs at done with due
  · simp only [Bool.and_eq_true, Bool.not_eq_true'] at due
    exact pass.send held due.1.1 due.1.2 done
  · exact idle held done

/-- A turn of the pass that lets go of the clients that are overdue. -/
theorem timeout (pass : Pass env config holds) (held : holds s)
    (done : (if !(s.clients j).connected then some s
      else if (s.clients j).timeout ≤ 0 then some s
      else if (s.clients j).loopback then some s
      else if env.float64 ((s.clients j).lastPacketReceiveTime + (s.clients j).timeout.toInt) ≤ s.time
        then disconnectClientInternal env config s j false .timedOut
      else some s) = some s') : holds s' := by
  split_ifs at done with gone never isLoopback late
  · exact idle held done
  · exact idle held done
  · exact idle held done
  · exact pass.leave held (by simpa using gone) (by simpa using isLoopback) done
  · exact idle held done

/-- A turn of `DisconnectAllClients`. -/
theorem disconnect (pass : Pass env config holds) (held : holds s)
    (done : (if (s.clients j).connected && !(s.clients j).loopback then
      disconnectClientInternal env config s j true .serverDisconnect else some s) = some s') :
    holds s' := by
  split_ifs at done with present
  · simp only [Bool.and_eq_true, Bool.not_eq_true'] at present
    exact pass.leave held present.1 present.2 done
  · exact idle held done

theorem forEachSlot {body : Server → Nat → Go Server}
    (each : ∀ t j t', holds t → body t j = some t' → holds t') (held : holds s)
    (done : Server.forEachSlot body s = some s') : holds s' := by
  refine Trace.foldlM_keeps (fun t j t' heldT visits => ?_) _ held done
  split_ifs at visits
  · exact each t j t' heldT visits
  · exact idle heldT visits

theorem sendPackets (pass : Pass env config holds) (held : holds s)
    (done : Server.sendPackets env config s = some s') : holds s' := by
  unfold Server.sendPackets at done
  split_ifs at done
  · exact idle held done
  · exact forEachSlot (fun _ _ _ heldT visits => pass.keepAlive heldT visits) held done

theorem checkForTimeouts (pass : Pass env config holds) (held : holds s)
    (done : Server.checkForTimeouts env config s = some s') : holds s' := by
  unfold Server.checkForTimeouts at done
  split_ifs at done
  · exact idle held done
  · exact forEachSlot (fun _ _ _ heldT visits => pass.timeout heldT visits) held done

theorem disconnectAllClients (pass : Pass env config holds) (held : holds s)
    (done : Server.disconnectAllClients env config s = some s') : holds s' := by
  unfold Server.disconnectAllClients at done
  split_ifs at done
  · exact idle held done
  · exact forEachSlot (fun _ _ _ heldT visits => pass.disconnect heldT visits) held done

end Pass

/-! ### Addresses at which nobody is connected -/

/-- Nobody is connected at the address. -/
structure Stranger (s : Server) (peer : Address) : Prop where
  ok : s.slotTable.Ok
  absent : ∀ j, (s.clients j).connected = true → (s.clients j).address.Equal peer = false

theorem Stranger.of_find (ok : s.slotTable.Ok) {peer : Address}
    (none : s.findClientIndexByAddress peer = none) : s.Stranger peer :=
  ⟨ok, fun j connected => findClientIndexByAddress_eq_none.mp none j (ok.inUse j connected) connected⟩

/-- **Nothing is sent to an address at which nobody is connected**, while others are sent packets and
let go. -/
theorem Stranger.pass (env : Platform) (quiet : config.NonReentrant) (peer : Address)
    (sent : List Bytes) :
    Pass env config fun t => t.Stranger peer ∧ sentTo peer t.trace = sent where
  send := by
    rintro t t' j p ⟨stranger, rfl⟩ connected network done
    obtain ⟨e', mapped, isMapping⟩ := mapped_address stranger.ok connected network
    rw [sendClientPacket_touch env config p mapped, if_pos isMapping] at done
    cases done
    have within := writeToClient_within env config p (t.encryptionManager.mapping e').sendKey isMapping
    refine ⟨⟨stranger.ok.steps (within.moves stranger.ok connected).table, fun k connectedK => ?_⟩, ?_⟩
    · have same := within.sameSession k
      rw [same.connected] at connectedK
      rw [same.address]
      exact stranger.absent k connectedK
    · show sentTo peer (.sent (t.clients j).address _ :: .sealed _ _ :: t.trace) = _
      rw [sentTo_sent, if_neg (by simp [stranger.absent j connected])]
      rfl
  leave := by
    rintro t t' j sends reason ⟨stranger, rfl⟩ connected network done
    obtain ⟨_, returns, moves, vacated, -, -⟩ := disconnectClientInternal_moves env quiet stranger.ok
      connected network sends reason
    cases done.symm.trans returns
    refine ⟨⟨stranger.ok.steps moves.table, fun k connectedK => ?_⟩,
      disconnectClientInternal_answers quiet done (stranger.absent j connected)⟩
    by_cases here : k = j
    · rw [here, vacated.gone] at connectedK
      cases connectedK
    · rw [vacated.others k here] at connectedK ⊢
      exact stranger.absent k connectedK

/-- **The end of `Update` sends nothing to an address at which nobody is connected.** -/
theorem Stranger.sendAndCheck (quiet : config.NonReentrant) {peer : Address}
    (stranger : s.Stranger peer)
    (done : (sendPackets env config s).bind (checkForTimeouts env config) = some s') :
    sentTo peer s'.trace = sentTo peer s.trace := by
  obtain ⟨t, sends, checks⟩ := Option.bind_eq_some_iff.mp done
  have pass := Stranger.pass env quiet peer (sentTo peer s.trace)
  exact (pass.checkForTimeouts (pass.sendPackets ⟨stranger, rfl⟩ sends) checks).2

/-- **The one reply to a datagram** is what stands at the head of the trace. -/
theorem readAndProcessPacket_reply (quiet : config.NonReentrant) {data reply : Bytes}
    {currentTimestamp reading : UInt64} {destination : Address}
    (done : readAndProcessPacket env config s source data currentTimestamp reading = some s')
    (ok : s.slotTable.Ok) (head : s'.trace.head? = some (.sent destination reply))
    (before : ∀ destination data, s.trace.head? ≠ some (.sent destination data)) :
    sentDatagrams s'.trace = (destination, reply) :: sentDatagrams s.trace := by
  obtain ⟨_, returns, accounted⟩ := readAndProcessPacket_slots env quiet ok source data
    currentTimestamp reading
  cases done.symm.trans returns
  obtain ⟨new, trace, -⟩ := accounted.shows
  -- the trace has grown, and its first entry is the reply
  obtain ⟨rest, rfl⟩ : ∃ rest, new = .sent destination reply :: rest := by
    cases new with
    | nil =>
      rw [trace] at head
      exact absurd head (before destination reply)
    | cons effect rest =>
      rw [trace] at head
      cases head
      exact ⟨rest, rfl⟩
  have isSent : sentDatagrams s'.trace =
      (destination, reply) :: (sentDatagrams rest ++ sentDatagrams s.trace) := by
    rw [trace, sentDatagrams, sentDatagrams, sentDatagrams, ← List.filterMap_append]
    rfl
  have once : sentDatagrams s'.trace = sentDatagrams s.trace ∨
      ∃ answer, sentDatagrams s'.trace = answer :: sentDatagrams s.trace := by
    obtain ⟨t, -, sent, rfl | ⟨p, sequence, encryptionIndex, clientIndex, handles⟩⟩ :=
      readAndProcessPacket_reading done
    · exact .inl sent
    · rcases processPacketInternal_replies quiet.silent handles with
        same | ⟨-, same | ⟨answer, answered, -⟩⟩ | ⟨-, same | ⟨answer, answered, -⟩⟩
      · exact .inl (same.trans sent)
      · exact .inl (same.trans sent)
      · exact .inr ⟨_, answered.trans (by rw [sent])⟩
      · exact .inl (same.trans sent)
      · exact .inr ⟨_, answered.trans (by rw [sent])⟩
  rcases once with same | ⟨answer, answered⟩
  · have lengths := congrArg List.length (isSent.symm.trans same)
    simp only [List.length_cons, List.length_append] at lengths
    omega
  · have tails := (List.cons.inj (isSent.symm.trans answered)).2
    rw [isSent, tails]

/-! ### A new client -/

/-- The line to a client that has just been installed. -/
def Handshake.opening (h : Handshake) (s : Server) : Line where
  slot := ClientSlot.new.fill h.source h.token.clientID h.encryptionIndex h.token.timeoutSeconds
    h.token.userData s.time
  sendKey := h.token.serverToClientKey
  receiveKey := h.token.clientToServerKey
  sent := sentTo h.source s.trace
  time := s.time
  maxClients := h.maxClients

/-- **A response in time opens a line**, on which a keep-alive is sent. -/
theorem Waiting.opens {h : Handshake} (quiet : config.NonReentrant) (waiting : Waiting env h s)
    (before : ∀ destination data, s.trace.head? ≠ some (.sent destination data))
    (sequence challengeSequence currentTimestamp reading : UInt64) :
    ∃ s' i, readAndProcessPacket env config s h.source (writePacket env
        (h.response env challengeSequence) sequence h.token.clientToServerKey config.protocolID)
        currentTimestamp reading = some s' ∧
      Serves s' i h.encryptionIndex ∧
      s'.line i h.encryptionIndex = (h.opening s).keepAlive env config.protocolID i := by
  obtain ⟨s', i, returns, free, head, connected, network, -, -, address, mapped⟩ :=
    waiting.respond quiet sequence challengeSequence currentTimestamp reading
  obtain ⟨_, returns', accounted⟩ := readAndProcessPacket_slots env quiet waiting.ok h.source
    (writePacket env (h.response env challengeSequence) sequence h.token.clientToServerKey
      config.protocolID) currentTimestamp reading
  cases returns.symm.trans returns'
  have replies := readAndProcessPacket_reply quiet returns waiting.ok head before
  refine ⟨s', i, returns, ⟨waiting.ok.steps accounted.moves.table, connected, network, mapped⟩, ?_⟩
  -- the slot and the mapping as `connectClient` leaves them
  obtain ⟨-, equal, -, -⟩ := EncryptionManager.lookup_eq_some.mp waiting.found
  obtain ⟨index, fields⟩ := waiting.mapping
  obtain ⟨noted, processed, clients, maxClients, manager⟩ := @Waiting.connects env config s i h waiting
    sequence challengeSequence currentTimestamp reading free
  obtain ⟨_, mapping⟩ := access_mapping s.encryptionManager h.encryptionIndex h.encryptionIndex s.time
  rw [← manager] at mapping
  rw [connectClient_eq env quiet i h.token.clientID _ h.token.userData
    (by rw [mapping]; exact equal), returns] at processed
  have isState := Option.some_inj.mp processed
  have time : noted.time = s.time := by
    rw [← accounted.time, isState]
    rfl
  have slot : s'.clients i = ((h.opening s).keepAlive env config.protocolID i).slot := by
    rw [isState]
    simp only [writeToClient, Function.update_self, installClient]
    rw [clients, show s.clients i = _ from
      waiting.ok.vacant i (findFreeClientIndex_eq_some free).2, mapping, fields.timeout, time]
    rfl
  have keys : (s'.encryptionManager.mapping h.encryptionIndex).sendKey = h.token.serverToClientKey ∧
      (s'.encryptionManager.mapping h.encryptionIndex).receiveKey = h.token.clientToServerKey := by
    rw [isState]
    simp only [writeToClient, installClient, EncryptionManager.access, EncryptionManager.set,
      EncryptionManager.setClientIndex, EncryptionManager.setExpireTime, Function.update_self]
    rw [mapping]
    exact ⟨fields.sendKey, fields.receiveKey⟩
  have count : s'.maxClients = h.maxClients := by
    rw [isState, ← waiting.maxClients, ← maxClients]
    rfl
  have usable : h.source.Equal h.source = true :=
    Address.Equal.trans (Address.Equal.symm equal) equal
  have sent : sentTo h.source s'.trace = ((h.opening s).keepAlive env config.protocolID i).sent :=
    sentTo_reply usable replies
  unfold line
  rw [keys.1, keys.2, address, sent, slot, accounted.time, count]
  rfl

end Server

end Netcode
