/-
**A disconnect packet of the server.**

A disconnect packet only sets `shouldDisconnect`; the next `Update` acts on it, by the branch that
also serves a denial during the handshake: it tries the next server of the token first. A client that
is connected to the last server of its list has none, so it ends up disconnected and stays so until
the next `Connect`; one that is connected to an earlier server always asks the next one instead
(`server_disconnect_ends_connection`, `disconnect_moves_to_next_server`).
-/

import Netcode.Client.Fallback

namespace Netcode

open Relation (ReflTransGen)

namespace Client

variable {env : Platform} {connects : Bool} {config : ClientConfig} {c c' : Client}

/-- **A disconnect packet arrives and is accepted**: it comes from the server the client is connected
to, and `readPacket` opens it and has not seen its number. -/
structure DisconnectArrives (env : Platform) (c : Client) (d : Datagram) : Prop where
  connected : c.state = .connected
  network : c.loopback = false
  fromServer : d.source.Equal c.serverAddress = true
  accepted : ∃ outcome, readPacket env c.connectToken.protocolID d.currentTimestamp 0
    clientAllowedPackets d.data (if c.hasPacketKeys then some c.readPacketKey else none) none
    (some c.replayProtection) = some outcome ∧ outcome.packet = some .connectionDisconnect

theorem disconnectArrives_iff {d : Datagram} : DisconnectArrives env c d ↔
    c.state = .connected ∧ c.loopback = false ∧ d.source.Equal c.serverAddress = true ∧
      (readPacket env c.connectToken.protocolID d.currentTimestamp 0 clientAllowedPackets d.data
        (if c.hasPacketKeys then some c.readPacketKey else none) none
        (some c.replayProtection)).map ReadOutcome.packet = some (some .connectionDisconnect) := by
  constructor
  · rintro ⟨connected, network, fromServer, accepted⟩
    exact ⟨connected, network, fromServer, Option.map_eq_some_iff.mpr accepted⟩
  · rintro ⟨connected, network, fromServer, accepted⟩
    exact ⟨connected, network, fromServer, Option.map_eq_some_iff.mp accepted⟩

instance (d : Datagram) : Decidable (DisconnectArrives env c d) :=
  decidable_of_iff _ disconnectArrives_iff.symm

/-- **The client is about to leave its server.** -/
structure Leaving (c : Client) : Prop where
  connected : c.state = .connected
  network : c.loopback = false
  told : c.told = (true, .disconnected)

/-- Nothing that arrives changes its mind. -/
theorem Leaving.received (leaving : Leaving c) (received : Received c c') : Leaving c' := by
  obtain ⟨state, told⟩ := received.connected leaving.connected
  refine ⟨state, received.loopback.trans leaving.network, ?_⟩
  rcases told with before | leaves
  · exact before.trans leaving.told
  · exact leaves

/-- The packet tells the client to leave. -/
theorem DisconnectArrives.told {d : Datagram} (arrives : DisconnectArrives env c d) :
    ∃ told, processPacket env config c d.source d.data d.currentTimestamp = some told ∧
      Leaving told ∧ told.peer = c.peer := by
  obtain ⟨connected, network, fromServer, outcome, reads, isPacket⟩ := arrives
  have expected : (c.applyReading d.source outcome).state = .connected ∧
      d.source.Equal (c.applyReading d.source outcome).serverAddress = true := ⟨connected, fromServer⟩
  unfold processPacket
  simp only [reads, isPacket, Option.bind_eq_bind, Option.bind_some]
  unfold processPacketInternal
  dsimp only
  rw [if_pos expected]
  exact ⟨_, rfl, ⟨connected, network, rfl⟩, rfl⟩

/-- The calls of an application that leaves the connection as it is. -/
def Call.keepsConnection : Call → Bool
  | .processPacket .. | .sendPacket _ | .receivePacket => true
  | _ => false

theorem step_received (quiet : config.NonReentrant) (network : c.loopback = false) {call : Call}
    (keeps : call.keepsConnection = true) (done : step env config c call = some c') :
    Received c c' := by
  cases call with
  | processPacket source data currentTimestamp =>
    obtain ⟨other, isOther, received⟩ := @processPacket_received env config quiet c source data
      currentTimestamp
    have same := Option.some_inj.mp (isOther.symm.trans done)
    exact same ▸ received
  | sendPacket payload =>
    have done : sendPacket env config c payload = some c' := done
    unfold sendPacket at done
    split_ifs at done with size other talks
    · cases done
      exact .refl c
    · cases done
      exact .refl c
    · cases done
      exact ⟨rfl, rfl, fun state => ⟨state, .inl rfl⟩⟩
    · rw [network] at talks
      cases talks rfl
  | receivePacket =>
    cases done
    exact ⟨rfl, rfl, fun state => ⟨state, .inl rfl⟩⟩
  | _ => cases keeps

/-- The client stays about to leave until the next `Update`. -/
theorem Leaving.between (quiet : config.NonReentrant) {between : List Call} {middle : Client} :
    ∀ {c : Client}, Leaving c → (∀ call ∈ between, call.keepsConnection = true) →
      execute env config c between = some middle → Leaving middle ∧ middle.peer = c.peer := by
  induction between with
  | nil =>
    rintro c leaving - ⟨⟩
    exact ⟨leaving, rfl⟩
  | cons call rest ih =>
    intro c leaving keeps runs
    obtain ⟨next, first, others⟩ := Option.bind_eq_some_iff.mp runs
    have received := step_received quiet leaving.network (keeps call List.mem_cons_self) first
    obtain ⟨leaving', same⟩ := ih (leaving.received received)
      (fun other member => keeps other (List.mem_cons_of_mem _ member)) others
    exact ⟨leaving', same.trans received.peer⟩

/-- **The end of an `Update` of a client that is about to leave**: it looks for another server. -/
theorem Leaving.checkTimeouts (leaving : Leaving c) :
    checkTimeouts env config c = connectToNextServerOrDisconnect env config c .disconnected := by
  obtain ⟨connected, -, told⟩ := leaving
  simp only [Client.told, Prod.mk.injEq] at told
  unfold Client.checkTimeouts
  rw [if_neg (by simp [connected]), if_pos told.1, told.2]

/-- There is none. -/
theorem Leaving.ends (leaving : Leaving c) (quiet : config.NonReentrant)
    (last : c.connectToken.numServerAddresses ≤ c.serverAddressIndex + 1) :
    Client.checkTimeouts env config c = some (afterReset env c .disconnected) := by
  rw [leaving.checkTimeouts]
  unfold connectToNextServerOrDisconnect connectToNextServer disconnectInternal
  rw [if_pos last]
  simp only [Option.bind_eq_bind, Option.bind_some, leaving.connected, Bool.and_false]
  rw [if_neg (by decide), if_neg (by decide)]
  exact resetConnectionData_eq quiet c .disconnected

/-- **The client asks the server behind that of `c`.** -/
structure MovedOn (c left : Client) : Prop where
  state : left.state = .sendingConnectionRequest
  token : left.connectToken = c.connectToken
  index : left.serverAddressIndex = c.serverAddressIndex + 1
  address : c.connectToken.serverAddresses[c.serverAddressIndex + 1]? = some left.serverAddress

/-- There is one. -/
theorem Leaving.moves (leaving : Leaving c) (quiet : config.NonReentrant) (inv : Fallback c)
    (more : c.serverAddressIndex + 1 < c.connectToken.numServerAddresses) :
    ∃ left, Client.checkTimeouts env config c = some left ∧ MovedOn c left := by
  have on := inv.server ⟨active_of_state _ leaving.connected (by decide), leaving.network⟩
  have inside : c.serverAddressIndex + 1 < c.connectToken.serverAddresses.length := by
    have := on.enough
    omega
  rw [leaving.checkTimeouts]
  unfold connectToNextServerOrDisconnect connectToNextServer
  rw [if_neg (not_le.mpr more), List.getElem?_eq_getElem inside]
  simp only [Option.bind_eq_bind, Option.bind_some, setState_eq quiet]
  exact ⟨_, rfl, rfl, rfl, rfl, List.getElem?_eq_getElem inside⟩

/-! ### The connection is over -/

/-- **The client has no connection, and asked no further server of its token.** -/
structure Over (token : ConnectToken) (attempts : Nat) (c : Client) : Prop where
  silent : ¬ c.Sending
  shown : (progress c.trace).token = some token ∧ (progress c.trace).attempts = attempts

theorem Over.grown {token : ConnectToken} {attempts : Nat} (ended : Over token attempts c)
    {new : List ClientEffect} (trace : c'.trace = new ++ c.trace)
    (silent : ∀ effect ∈ new, marks effect = false) (sending : c'.Sending → c.Sending) :
    Over token attempts c' := by
  refine ⟨fun sends => ended.silent (sending sends), ?_⟩
  rw [trace, progress_append silent]
  exact ended.shown

/-- Without `Connect` it stays so. -/
theorem Over.micro {token : ConnectToken} {attempts : Nat} (ended : Over token attempts c)
    (held : c.LoopbackConnected) (micro : Micro env false c c') : Over token attempts c' := by
  cases micro with
  | begin data token serverAddress allowed | reject data token allowed => cases allowed
  | tick | giveUp | hear | clear =>
    exact ended.grown (List.nil_append _).symm (fun _ member => by cases member) id
  | openPacket source data currentTimestamp outcome call hasKeys reads isOpened =>
    exact ended.grown (show _ = [_] ++ c.trace from applyReading_trace isOpened) (by simp [marks]) id
  | sendLoopback =>
    exact ended.grown (show _ = [_] ++ c.trace from rfl) (by simp [marks]) id
  | push source payload sequence =>
    exact ended.grown (pushPayload_trace c payload sequence) (by split_ifs <;> simp [marks]) id
  | pushLoopback payload sequence =>
    exact ended.grown (pushPayload_trace c payload sequence) (by split_ifs <;> simp [marks]) id
  | deliver => exact ended.grown (receivePacket_trace c) (by split <;> simp [marks]) id
  | connectLoopback =>
    exact ended.grown (List.nil_append _).symm (fun _ member => by cases member)
      fun sends => by cases sends.2
  | send p note active network => exact absurd ⟨active, network⟩ ended.silent
  | nextServer serverAddress active network => exact absurd ⟨active, network⟩ ended.silent
  | challenge source challengeTokenSequence challengeTokenData sequence call state =>
    exact absurd ⟨active_of_state _ state (by decide), Connecting.network (.inl state) held⟩
      ended.silent
  | establish source clientIndex maxClients sequence call state =>
    exact absurd ⟨active_of_state _ state (by decide), Connecting.network (.inr state) held⟩
      ended.silent
  | reset destination idle =>
    refine ⟨fun sends => absurd sends.1 (not_lt.mpr idle), ?_⟩
    cases destination with
    | sendingConnectionRequest | sendingConnectionResponse | connected => exact absurd idle (by decide)
    | _ => exact ended.shown

/-- **The connection of `c` has ended**: what `left` has of it is cleared, and until the next
`Connect` no further server of the token is asked. -/
structure Ended (env : Platform) (config : ClientConfig) (c left : Client) : Prop where
  state : left.state = .disconnected
  keys : left.readPacketKey = .zero _ ∧ left.writePacketKey = .zero _ ∧ left.hasPacketKeys = false
  address : left.serverAddress = Address.none
  queue : left.packetReceiveQueue = .clear
  asked : ∀ later, Since env config left later → ¬ later.Sending ∧
    (progress later.trace).token = some c.connectToken ∧
    (progress later.trace).attempts = c.serverAddressIndex + 1

theorem Leaving.ended (leaving : Leaving c) (quiet : config.NonReentrant) (settled : c.Settled)
    (held : c.LoopbackConnected) (inv : Fallback c) :
    Ended env config c (afterReset env c .disconnected) := by
  have on := inv.server ⟨active_of_state _ leaving.connected (by decide), leaving.network⟩
  have last : Micro env false c (afterReset env c .disconnected) :=
    .reset c .disconnected le_rfl (absurd · (by decide))
  have ended : Over c.connectToken (c.serverAddressIndex + 1) (afterReset env c .disconnected) := by
    have shown := congrArg (Progress.note · (.state .disconnected)) on.shown
    exact ⟨fun sends => absurd sends.1 (lt_irrefl _), congrArg Progress.token shown,
      congrArg Progress.attempts shown⟩
  refine ⟨rfl, ⟨rfl, rfl, rfl⟩, rfl, rfl, fun later since => ?_⟩
  obtain ⟨-, -, silent, shown⟩ := since.keeps _ quiet (fun _ _ held ended micro => ended.micro held micro)
    (last.settled settled) (last.loopbackConnected held) ended
  exact ⟨silent, shown⟩

/-- **What becomes of a connection that its server ends**: it is over if that is the last server of the
token, and only then; else the client asks the next one. -/
def Left (env : Platform) (config : ClientConfig) (c left : Client) : Prop :=
  (Ended env config c left ↔ c.connectToken.numServerAddresses ≤ c.serverAddressIndex + 1) ∧
    (c.serverAddressIndex + 1 < c.connectToken.numServerAddresses → MovedOn c left)

theorem Left.of_peer {left : Client} (leaves : Left env config c' left) (same : c'.peer = c.peer) :
    Left env config c left := by
  simp only [peer, Prod.mk.injEq] at same
  obtain ⟨ends, next⟩ := leaves
  rw [same.1, same.2.1] at ends next
  refine ⟨⟨fun ended => ends.mp ⟨ended.state, ended.keys, ended.address, ended.queue, ?_⟩,
    fun last => ?_⟩, fun more => ?_⟩
  · rw [same.1, same.2.1]
    exact ended.asked
  · obtain ⟨state, keys, address, queue, asked⟩ := ends.mpr last
    rw [same.1, same.2.1] at asked
    exact ⟨state, keys, address, queue, asked⟩
  · obtain ⟨state, token, index, address⟩ := next more
    rw [same.1, same.2.1] at address
    exact ⟨state, token.trans same.1, same.2.1 ▸ index, address⟩

/-- An `Update` of a client that is about to leave. -/
theorem Leaving.update (leaving : Leaving c) (quiet : config.NonReentrant) (settled : c.Settled)
    (held : c.LoopbackConnected) (inv : Fallback c) (time : ℚ) (batch : List Datagram) :
    ∃ left, update env config c time batch = some left ∧ Left env config c left := by
  obtain ⟨middle, received, settled', chain, same⟩ := @update_middle env config c quiet
    leaving.network settled time batch
  obtain ⟨inv', held'⟩ := inv.chain held chain
  have leaving' := leaving.received received
  by_cases last : middle.connectToken.numServerAddresses ≤ middle.serverAddressIndex + 1
  · have ended := @Leaving.ended env config middle leaving' quiet settled' held' inv'
    exact ⟨_, same.trans (leaving'.ends quiet last), Left.of_peer
      ⟨⟨fun _ => last, fun _ => ended⟩, fun more => absurd last (not_le.mpr more)⟩ received.peer⟩
  · obtain ⟨left, done, moved⟩ := @Leaving.moves env config middle leaving' quiet inv' (not_le.mp last)
    refine ⟨left, same.trans done, Left.of_peer ⟨⟨fun ended => ?_, fun more => absurd more last⟩,
      fun _ => moved⟩ received.peer⟩
    cases moved.state.symm.trans ended.state

/-- An `Update` whose first packets are processed. -/
theorem update_append (quiet : config.NonReentrant) (network : c.loopback = false) {time : ℚ}
    {first : List Datagram} {middle : Client}
    (receives : receivePackets env config { c with time := time } first = some middle)
    (rest : List Datagram) :
    update env config c time (first ++ rest) = update env config middle time rest := by
  obtain ⟨-, loopback, isTime⟩ := @receivePackets_chain env false config middle quiet first
    { c with time := time } receives
  obtain rfl : middle.time = time := isTime
  rw [update_network network, update_network (loopback.trans network)]
  unfold receivePackets at receives ⊢
  rw [List.foldlM_append, receives]
  rfl

/-- **A disconnect packet ends the connection if it comes from the last server of the token, and only
then.** The client accepts it in `ProcessPacket`, and after any further packets and payloads the next
`Update` ends the connection, or turns to the next server; or it accepts it as one of the packets of an
`Update`, which then does so itself. -/
theorem server_disconnect_ends_connection (quiet : config.NonReentrant) {calls : List Call}
    (run : Run env config calls c) {d : Datagram} :
    (DisconnectArrives env c d →
      ∃ told, processPacket env config c d.source d.data d.currentTimestamp = some told ∧
        ∀ between middle, (∀ call ∈ between, call.keepsConnection = true) →
          execute env config told between = some middle →
          ∀ time batch, ∃ left, update env config middle time batch = some left ∧
            (Ended env config c left ↔
              c.connectToken.numServerAddresses ≤ c.serverAddressIndex + 1) ∧
            (c.serverAddressIndex + 1 < c.connectToken.numServerAddresses → MovedOn c left)) ∧
      ∀ time before after arrived,
        receivePackets env config { c with time := time } before = some arrived →
        DisconnectArrives env arrived d →
        ∃ left, update env config c time (before ++ d :: after) = some left ∧
          (Ended env config arrived left ↔
            arrived.connectToken.numServerAddresses ≤ arrived.serverAddressIndex + 1) ∧
          (arrived.serverAddressIndex + 1 < arrived.connectToken.numServerAddresses →
            MovedOn arrived left) := by
  have settled := run.settled quiet
  have held := run.loopbackConnected quiet
  have inv := run.fallback quiet
  refine ⟨fun arrives => ?_, fun time before after arrived receives arrives => ?_⟩
  · obtain ⟨told, done, leaving, same⟩ := @DisconnectArrives.told env config c d arrives
    refine ⟨told, done, fun between middle keeps runs time batch => ?_⟩
    have runTold : Run env config (.processPacket d.source d.data d.currentTimestamp :: calls) told :=
      .step run (.processPacket d.source d.data d.currentTimestamp) done
    obtain ⟨leaving', same'⟩ := Leaving.between quiet leaving keeps runs
    have runMiddle := Run.execute runTold runs
    obtain ⟨left, updates, leaves⟩ := @Leaving.update env config middle leaving' quiet
      (runMiddle.settled quiet) (runMiddle.loopbackConnected quiet) (runMiddle.fallback quiet) time
      batch
    exact ⟨left, updates, leaves.of_peer (same'.trans same)⟩
  · have ticked : Micro env false c { c with time := time } := .tick c time
    obtain ⟨told, done, leaving, same⟩ := @DisconnectArrives.told env config arrived d arrives
    have upTo : receivePackets env config { c with time := time } (before ++ [d]) = some told := by
      unfold receivePackets at receives ⊢
      rw [List.foldlM_append, receives]
      simp only [List.foldlM_cons, List.foldlM_nil, Option.bind_eq_bind, Option.bind_some, done]
      rfl
    obtain ⟨chain, loopback, -⟩ := @receivePackets_chain env false config told quiet (before ++ [d])
      { c with time := time } upTo
    have network : c.loopback = false := loopback.symm.trans leaving.network
    obtain ⟨inv', held'⟩ := inv.chain held (.head ticked chain)
    obtain ⟨left, updates, leaves⟩ := @Leaving.update env config told leaving quiet
      (settled_of_chain settled (.head ticked chain)) held' inv' time after
    refine ⟨left, ?_, leaves.of_peer same⟩
    rw [List.append_cons, update_append quiet network upTo]
    exact updates

end Client

/-! ### With one server, and with two -/

namespace Sample

/-- The server's disconnect packet, behind one keep-alive. -/
def disconnectPacket : Client.Datagram := arrives serverAddress .connectionDisconnect 1

/-- A client with the first token is connected by a server at `serverAddress`. -/
def connectedWith (connectToken : Bytes) : List Client.Call :=
  [.connect connectToken,
    .update 1 [arrives serverAddress (.connectionChallenge 0 firstChallenge) globalSequenceStart],
    .update 2 [arrives serverAddress (.connectionKeepAlive 0 2) 0]]

end Sample

namespace Client

/-- A client with one server leaves it. -/
theorem server_disconnect_ends_connection_single : ∃ c calls left,
    Run samplePlatform Sample.clientConfig calls c ∧ c.state = .connected ∧
      update samplePlatform Sample.clientConfig c 3 [Sample.disconnectPacket] = some left ∧
      Ended samplePlatform Sample.clientConfig c left := by
  have runs : (execute samplePlatform Sample.clientConfig (new 0)
      (Sample.connectedWith Sample.firstToken)).map (fun c => (decide (DisconnectArrives
        samplePlatform { c with time := 3 } Sample.disconnectPacket),
        c.connectToken.numServerAddresses)) = some (true, 1) := by
    decide +kernel
  obtain ⟨c, done, facts⟩ := Option.map_eq_some_iff.mp runs
  simp only [Prod.mk.injEq, decide_eq_true_eq] at facts
  obtain ⟨arrives, single⟩ := facts
  have run := Run.execute (.new 0) done
  obtain ⟨-, inBatch⟩ := server_disconnect_ends_connection Sample.clientConfig_nonReentrant run
  obtain ⟨left, updates, ends, -⟩ := inBatch 3 [] [] _ rfl arrives
  obtain ⟨state, keys, address, queue, asked⟩ := ends.mpr
    (show c.connectToken.numServerAddresses ≤ c.serverAddressIndex + 1 by omega)
  exact ⟨c, _, left, run, arrives.connected, updates, state, keys, address, queue, asked⟩

/-- **A client with a second server turns to it.** It is connected to the first of two servers, which
disconnects it: after the next `Update` it sends requests to the second one, under the same keys. -/
theorem disconnect_moves_to_next_server : ∃ c calls left,
    Run samplePlatform Sample.clientConfig calls c ∧ c.serverAddress = Sample.serverAddress ∧
      DisconnectArrives samplePlatform c Sample.disconnectPacket ∧
      update samplePlatform Sample.clientConfig c 3 [Sample.disconnectPacket] = some left ∧
      left.state = .sendingConnectionRequest ∧ left.serverAddress = Sample.secondAddress ∧
      left.hasPacketKeys = true := by
  have runs : (execute samplePlatform Sample.clientConfig (new 0)
      (Sample.connectedWith Sample.twoServers)).map (fun c => (c.serverAddress,
        decide (DisconnectArrives samplePlatform c Sample.disconnectPacket),
        (update samplePlatform Sample.clientConfig c 3 [Sample.disconnectPacket]).map fun left =>
          (left.state, left.serverAddress, left.hasPacketKeys))) =
      some (Sample.serverAddress, true,
        some (.sendingConnectionRequest, Sample.secondAddress, true)) := by
    decide +kernel
  obtain ⟨c, done, facts⟩ := Option.map_eq_some_iff.mp runs
  simp only [Prod.mk.injEq, decide_eq_true_eq] at facts
  obtain ⟨address, arrives, moves⟩ := facts
  obtain ⟨left, updates, facts⟩ := Option.map_eq_some_iff.mp moves
  simp only [Prod.mk.injEq] at facts
  exact ⟨c, _, left, Run.execute (.new 0) done, address, arrives, updates, facts⟩

end Client

end Netcode
