/-
**Loopback clients.**

A loopback client has a slot of the server, but neither an address nor a mapping. Datagrams, keep-alives
and timeouts pass it by, and so does everything that is done for other slots.

* `Hosts` — a loopback client is connected in a slot;
* `Hosts.datagram`, `Hosts.update` — no datagram changes its slot, and neither does `Update`, whatever
  time it is told;
* `Hosts.spared` — **no call changes its slot** unless it names the slot, or starts or stops the server;
* `Hosts.sendPacket`, `Hosts.processLoopbackPacket`, `Hosts.receivePacket` — what the calls that name
  the slot come to.
-/

import Netcode.Server.Line

namespace Netcode.Server

/-- **A loopback client is connected** in slot `i`. -/
structure Hosts (s : Server) (i : Nat) : Prop where
  ok : s.slotTable.Ok
  connected : (s.clients i).connected = true
  loopback : (s.clients i).loopback = true

/-- The slot that a call names. -/
def Call.target : Call → Option Int
  | .sendPacket clientIndex _ | .receivePacket clientIndex | .disconnectClient clientIndex
  | .connectLoopbackClient clientIndex _ _ | .disconnectLoopbackClient clientIndex
  | .processLoopbackPacket clientIndex _ _ => some clientIndex
  | .start _ _ _ | .stop | .processPacket _ _ _ _ | .update _ _ _ | .disconnectAllClients => none

/-- The call does not name slot `i`, nor does it start or stop the server. -/
def Call.Spares (i : Nat) : Call → Prop
  | .start _ _ _ | .stop => False
  | call => call.target ≠ some i

variable {env : Platform} {config : ServerConfig} {s s' t : Server} {i j : Nat}

/-! ### Calls that name a slot -/

theorem validSlot_index {clientIndex : Int} (valid : s.validSlot clientIndex = some i) :
    clientIndex = i := by
  unfold validSlot at valid
  split_ifs at valid with range
  cases valid
  omega

/-- A call that names a slot that there is not does nothing. -/
theorem step_invalid {call : Call} {clientIndex : Int} (isTarget : call.target = some clientIndex)
    (invalid : s.validSlot clientIndex = none) : step env config s call = some s := by
  cases call with
  | start | stop | processPacket | update | disconnectAllClients => cases isTarget
  | sendPacket =>
    cases isTarget
    simp [step, sendPacket, invalid]
  | receivePacket =>
    cases isTarget
    simp [step, receivePacket, invalid]
  | disconnectClient =>
    cases isTarget
    simp [step, disconnectClient, invalid]
  | connectLoopbackClient =>
    cases isTarget
    simp [step, connectLoopbackClient, invalid]
  | disconnectLoopbackClient =>
    cases isTarget
    simp [step, disconnectLoopbackClient, invalid]
  | processLoopbackPacket =>
    cases isTarget
    simp [step, processLoopbackPacket, invalid]

/-- **What a call that names a slot can do**: nothing; send a payload to the client; let go of it; or
change the slot, and nothing that concerns the network. -/
inductive Named (env : Platform) (config : ServerConfig) (s : Server) (i : Nat) (s' : Server) : Prop
  | idle (same : some s = some s')
  | submit (payload : Bytes) (connected : (s.clients i).connected = true)
      (network : (s.clients i).loopback = false)
      (done : sendPayload env config s i payload = some s')
  | leave (connected : (s.clients i).connected = true) (network : (s.clients i).loopback = false)
      (done : disconnectClientInternal env config s i true .serverDisconnect = some s')
  | change (slot : ClientSlot) (trace : List Effect) (numConnectedClients : Int)
      (silent : sentDatagrams trace = sentDatagrams s.trace)
      (done : some { s.setClient i slot with
        trace := trace
        numConnectedClients := numConnectedClients } = some s')

theorem step_named (quiet : config.NonReentrant) {call : Call} {clientIndex : Int}
    (isTarget : call.target = some clientIndex) (valid : s.validSlot clientIndex = some i)
    (done : step env config s call = some s') : Named env config s i s' := by
  cases call with
  | start | stop | processPacket | update | disconnectAllClients => cases isTarget
  | sendPacket clientIndex payload =>
    cases isTarget
    simp only [step, sendPacket, valid] at done
    split_ifs at done with size away network
    · exact .idle done
    · exact .idle done
    · exact .submit payload (by simpa using away) (by simpa using network) done
    · obtain ⟨callback, isCallback, done⟩ := Option.bind_eq_some_iff.mp done
      rw [quiet.sendLoopback callback isCallback] at done
      exact .change _ (_ :: s.trace) s.numConnectedClients rfl done
  | receivePacket clientIndex =>
    cases isTarget
    simp only [step, receivePacket, valid] at done
    split_ifs at done
    · exact .idle done
    · cases popped : (s.clients i).packetQueue.pop.2.1 with
      | none =>
        rw [popped] at done
        exact .change _ s.trace s.numConnectedClients rfl done
      | some payload =>
        rw [popped] at done
        exact .change _ (_ :: s.trace) s.numConnectedClients rfl done
  | disconnectClient clientIndex =>
    cases isTarget
    simp only [step, disconnectClient, valid] at done
    split_ifs at done with away isLoopback
    · exact .idle done
    · exact .idle done
    · exact .leave (by simpa using away) (by simpa using isLoopback) done
  | connectLoopbackClient clientIndex clientID userData =>
    cases isTarget
    simp only [step, connectLoopbackClient, valid] at done
    split_ifs at done
    · exact .idle done
    · rw [notify_eq quiet] at done
      exact .change _ s.trace _ rfl done
  | disconnectLoopbackClient clientIndex =>
    cases isTarget
    simp only [step, disconnectLoopbackClient, valid] at done
    split_ifs at done
    · exact .idle done
    · rw [notify_eq quiet] at done
      simp only [Option.bind_eq_bind, Option.bind_some, resetClientSlot, setClient,
        Function.update_idem] at done
      exact .change _ s.trace _ rfl done
  | processLoopbackPacket clientIndex payload sequence =>
    cases isTarget
    simp only [step, processLoopbackPacket, valid, pushPayload, setClient, Function.update_idem] at done
    split_ifs at done
    · exact .idle done
    · exact .idle done
    · exact .change _ (_ :: s.trace) s.numConnectedClients rfl done
    · exact .change _ s.trace s.numConnectedClients rfl done

/-- **A call that names a slot changes no other.** -/
theorem Named.others (quiet : config.NonReentrant) (ok : s.slotTable.Ok)
    (named : Named env config s i s') (other : j ≠ i) : s'.clients j = s.clients j := by
  cases named with
  | idle same =>
    cases same
    rfl
  | submit payload connected network done =>
    obtain ⟨e, mapped, -⟩ := mapped_address ok connected network
    obtain ⟨_, sends, within⟩ := sendPayload_within env config payload mapped
    cases sends.symm.trans done
    exact within.others j other
  | leave connected network done =>
    obtain ⟨_, returns, -, vacated, -⟩ := disconnectClientInternal_moves env quiet ok connected network
      true .serverDisconnect
    cases returns.symm.trans done
    exact vacated.others j other
  | change slot trace numConnectedClients silent done =>
    cases done
    exact Function.update_of_ne other _ _

namespace Hosts

theorem running (hosts : Hosts s i) : s.running = true := running_of_connected hosts.ok hosts.connected

theorem valid (hosts : Hosts s i) : s.validSlot i = some i := by
  have small : i < s.maxClients := hosts.ok.inUse i hosts.connected
  unfold validSlot
  rw [if_pos ⟨hosts.running, by omega, by omega⟩]
  rfl

/-! ### What passes a loopback client by -/

theorem aside (hosts : Hosts s i) (ok : s'.slotTable.Ok) (slot : s'.clients i = s.clients i) :
    Hosts s' i ∧ s'.clients i = s.clients i :=
  ⟨⟨ok, slot ▸ hosts.connected, slot ▸ hosts.loopback⟩, slot⟩

/-- A client of the network is in another slot. -/
theorem other (hosts : Hosts s i) (network : (s.clients j).loopback = false) : i ≠ j := by
  rintro rfl
  rw [hosts.loopback] at network
  cases network

/-- **The passes over the slots are for the network**: other clients are sent packets and let go. -/
theorem pass (env : Platform) (quiet : config.NonReentrant) (slot : ClientSlot) :
    Pass env config fun t => Hosts t i ∧ t.clients i = slot where
  send := by
    rintro t t' j p ⟨hosts, rfl⟩ connected network done
    obtain ⟨e, mapped, -⟩ := mapped_address hosts.ok connected network
    obtain ⟨_, returns, within⟩ := sendClientPacket_within env config p mapped
    cases done.symm.trans returns
    exact hosts.aside (hosts.ok.steps (within.moves hosts.ok connected).table)
      (within.others i (hosts.other network))
  leave := by
    rintro t t' j sends reason ⟨hosts, rfl⟩ connected network done
    obtain ⟨_, returns, moves, vacated, -, -⟩ := disconnectClientInternal_moves env quiet hosts.ok
      connected network sends reason
    cases done.symm.trans returns
    exact hosts.aside (hosts.ok.steps moves.table) (vacated.others i (hosts.other network))

/-- **No datagram changes the slot.** -/
theorem datagram (quiet : config.NonReentrant) (hosts : Hosts s i) {source : Address} {data : Bytes}
    {currentTimestamp reading : UInt64}
    (done : readAndProcessPacket env config s source data currentTimestamp reading = some s') :
    Hosts s' i ∧ s'.clients i = s.clients i := by
  obtain ⟨_, returns, accounted⟩ := readAndProcessPacket_slots env quiet hosts.ok source data
    currentTimestamp reading
  cases done.symm.trans returns
  refine hosts.aside (hosts.ok.steps accounted.moves.table) ?_
  cases found : s.findClientIndexByAddress source with
  | some k =>
    refine accounted.present k found i ?_
    rintro rfl
    -- a loopback client has no address
    have equal := (findClientIndexByAddress_eq_some found).2.2
    rw [show (s.clients i).address = Address.none from
      (hosts.ok.loopback i hosts.loopback).1] at equal
    exact absurd rfl (Address.Equal.type_ne_none equal)
  | none =>
    rcases accounted.absent found with same | ⟨k, free, -, -, -, others⟩
    · exact congrFun same i
    · refine others i ?_
      rintro rfl
      rw [hosts.connected] at free
      cases free

/-- **`Update` does not change the slot**, whatever datagrams it brings. -/
theorem update (quiet : config.NonReentrant) (hosts : Hosts s i) {time : ℚ}
    {currentTimestamp : UInt64} {batch : List Datagram}
    (done : Server.update env config s time currentTimestamp batch = some s') :
    Hosts s' i ∧ s'.clients i = s.clients i := by
  obtain ⟨t, received, done⟩ := Option.bind_eq_some_iff.mp done
  obtain ⟨u, sent, checked⟩ := Option.bind_eq_some_iff.mp done
  unfold receivePackets at received
  have reads : Hosts t i ∧ t.clients i = s.clients i := by
    refine @Trace.foldlM_keeps Server Datagram (fun t => Hosts t i ∧ t.clients i = s.clients i) _
      (fun t d t' held visits => ?_) batch ({ s with time := time }.record (.clock currentTimestamp)) t
      ⟨⟨hosts.ok, hosts.connected, hosts.loopback⟩, rfl⟩ received
    obtain ⟨hostsT, same⟩ := held.1.datagram quiet visits
    exact ⟨hostsT, same.trans held.2⟩
  have pass := @pass config i env quiet (s.clients i)
  exact pass.checkForTimeouts (pass.sendPackets reads sent) checked

/-- **No call changes the slot** unless it names it, or starts or stops the server. -/
theorem spared (env : Platform) (quiet : config.NonReentrant)
    (callback : config.sendLoopbackPacketCallback ≠ none) (hosts : Hosts s i) {call : Call}
    (spares : call.Spares i) :
    ∃ s', step env config s call = some s' ∧ Hosts s' i ∧ s'.clients i = s.clients i := by
  -- the slots stay in order, so what is left for the calls on one slot is that it is not slot `i`
  obtain ⟨s', returns, ok⟩ : ∃ s', step env config s call = some s' ∧ s'.slotTable.Ok := by
    rcases step_slots (.of_quiet env quiet) hosts.ok call with ⟨s', returns, moves⟩ | nil
    · exact ⟨s', returns, hosts.ok.steps moves.table⟩
    · obtain ⟨-, -, -, -, -, -, absent⟩ := nil
      exact absurd absent callback
  refine ⟨s', returns, ?_⟩
  cases call with
  | start | stop => exact spares.elim
  | processPacket source data currentTimestamp reading =>
    exact @datagram env config (s.record (.clock currentTimestamp)) s' i quiet
      ⟨hosts.ok, hosts.connected, hosts.loopback⟩ source data currentTimestamp reading returns
  | update time currentTimestamp batch => exact hosts.update quiet returns
  | disconnectAllClients => exact (pass env quiet _).disconnectAllClients ⟨hosts, rfl⟩ returns
  | sendPacket clientIndex | receivePacket clientIndex | disconnectClient clientIndex
  | connectLoopbackClient clientIndex | disconnectLoopbackClient clientIndex
  | processLoopbackPacket clientIndex =>
    cases valid : s.validSlot clientIndex with
    | none =>
      cases returns.symm.trans (step_invalid rfl valid)
      exact ⟨hosts, rfl⟩
    | some j =>
      refine hosts.aside ok ((step_named quiet rfl valid returns).others quiet hosts.ok ?_)
      rintro rfl
      exact spares (congrArg some (validSlot_index valid))

/-! ### What the calls that name the slot come to -/

/-- **A loopback client takes a free slot**, with an empty queue. -/
theorem connect (env : Platform) (quiet : config.NonReentrant) (ok : s.slotTable.Ok)
    (valid : s.validSlot i = some i) (free : (s.clients i).connected = false) (clientID : UInt64)
    (userData : Bytes) :
    ∃ s', connectLoopbackClient config s i clientID userData = some s' ∧ Hosts s' i ∧
      (s'.clients i).packetQueue = .clear := by
  have connects := connectLoopbackClient_eq quiet clientID userData valid free
  have moves := @step_moves env config s _ (.of_quiet env quiet) ok
    (.connectLoopbackClient i clientID userData) connects
  refine ⟨_, connects, ⟨ok.steps moves.table, ?_, ?_⟩, ?_⟩
  · simp [setClient, ClientSlot.fillLoopback]
  · simp [setClient, ClientSlot.fillLoopback]
  · simp only [setClient, Function.update_self]
    rw [show s.clients i = _ from ok.vacant i free]
    rfl

/-- The slot changes within its session. -/
theorem change (hosts : Hosts s i) (slot : ClientSlot) (session : SameSession (s.clients i) slot)
    (window : slot.replayProtection = (s.clients i).replayProtection) (trace : List Effect) :
    Hosts { s.setClient i slot with trace := trace } i ∧
      ({ s.setClient i slot with trace := trace } : Server).clients i = slot := by
  have here : ({ s.setClient i slot with trace := trace } : Server).clients i = slot :=
    Function.update_self _ _ _
  refine ⟨⟨hosts.ok.change hosts.connected session fun _ => window, ?_, ?_⟩, here⟩
  · rw [here, session.connected, hosts.connected]
  · rw [here, session.loopback, hosts.loopback]

/-- **A payload for the loopback client** is handed to the callback. -/
theorem sendPacket (env : Platform) (quiet : config.NonReentrant)
    (callback : config.sendLoopbackPacketCallback ≠ none) (hosts : Hosts s i) {payload : Bytes}
    (fits : 1 ≤ payload.length ∧ payload.length ≤ MaxPacketSize) :
    ∃ s', Server.sendPacket env config s i payload = some s' ∧ Hosts s' i ∧
      (s'.clients i).packetQueue = (s.clients i).packetQueue ∧
      s'.trace = .sentLoopback i payload (s.clients i).sequence :: s.trace := by
  obtain ⟨call, isCallback⟩ := Option.ne_none_iff_exists'.mp callback
  obtain ⟨stays, slot⟩ := hosts.change { s.clients i with
      sequence := (s.clients i).sequence + 1
      lastPacketSendTime := s.time } ⟨rfl, rfl, rfl, rfl, rfl, rfl⟩ rfl
    (.sentLoopback i payload (s.clients i).sequence :: s.trace)
  refine ⟨_, ?_, stays, by rw [slot], rfl⟩
  rw [Server.sendPacket, if_neg (by omega), hosts.valid]
  dsimp only
  rw [if_neg (by simp [hosts.connected]), if_neg (by simp [hosts.loopback]), isCallback,
    Option.bind_eq_bind, Option.bind_some, quiet.sendLoopback call isCallback]
  rfl

/-- **A payload of the loopback client** is queued. -/
theorem processLoopbackPacket (hosts : Hosts s i) {payload : Bytes}
    (fits : 1 ≤ payload.length ∧ payload.length ≤ MaxPacketSize) (sequence : UInt64) :
    Hosts (Server.processLoopbackPacket s i payload sequence) i ∧
      ((Server.processLoopbackPacket s i payload sequence).clients i).packetQueue =
        ((s.clients i).packetQueue.push payload sequence).1 := by
  obtain ⟨stays, slot⟩ := hosts.change { s.clients i with
      lastPacketReceiveTime := s.time
      packetQueue := ((s.clients i).packetQueue.push payload sequence).1 }
    ⟨rfl, rfl, rfl, rfl, rfl, rfl⟩ rfl
    ((if ((s.clients i).packetQueue.push payload sequence).2 then [.queued i payload sequence]
      else []) ++ s.trace)
  have hears : Server.processLoopbackPacket s i payload sequence = { s.setClient i { s.clients i with
        lastPacketReceiveTime := s.time
        packetQueue := ((s.clients i).packetQueue.push payload sequence).1 } with
      trace := (if ((s.clients i).packetQueue.push payload sequence).2 then
        [.queued i payload sequence] else []) ++ s.trace } := by
    rw [Server.processLoopbackPacket, hosts.valid]
    dsimp only
    rw [if_neg (by simp [hosts.connected, hosts.loopback]), if_neg (by omega)]
    simp only [pushPayload, setClient, Function.update_self, Function.update_idem]
    split_ifs <;> rfl
  rw [hears]
  exact ⟨stays, by rw [slot]⟩

/-- **The application takes the oldest payload.** -/
theorem receivePacket (hosts : Hosts s i) :
    Hosts (Server.receivePacket s i) i ∧
      ((Server.receivePacket s i).clients i).packetQueue = (s.clients i).packetQueue.pop.1 := by
  rw [receivePacket_eq hosts.valid hosts.connected]
  obtain ⟨stays, slot⟩ := hosts.change { s.clients i with
      packetQueue := (s.clients i).packetQueue.pop.1 } ⟨rfl, rfl, rfl, rfl, rfl, rfl⟩ rfl
    ((popped (s.clients i).packetQueue).map (fun entry => .delivered i entry.1 entry.2) ++ s.trace)
  exact ⟨stays, by rw [slot]⟩

end Hosts

end Netcode.Server
