/-
**The servers of a token, one after the other.**

A connect token lists servers, and the client tries them in the order of the list. A denial, a
timeout of the request or of the response moves it on to the next one; after the last one it ends up
in the state that says why. What the trace shows of this is its `progress`: the token, how many
servers were tried and the state.

* `InOrder` — what has to come before each change of state;
* `Fallback`, `Run.fallback` — **the invariant**: every change of state is in order, and a client
  that talks to a server talks to the one the trace says, at its index in the list;
* `server_fallback_order` — **the order of fallback**, over whole runs and for the next call.
-/

import Netcode.Client.Nonces
import Netcode.Codec.Tokens
import Netcode.Codec.Packets

namespace Netcode

open Trace
open Relation (ReflTransGen)

namespace Client

/-! ### What the trace shows of the connection process -/

/-- The token in use, how many servers of it were tried, and the state. -/
structure Progress where
  token : Option ConnectToken
  attempts : Nat
  state : ClientState

def Progress.note (progress : Progress) : ClientEffect → Progress
  | .connecting token => { progress with token := some token, attempts := 0 }
  | .state .sendingConnectionRequest =>
    { progress with attempts := progress.attempts + 1, state := .sendingConnectionRequest }
  | .state next => { progress with state := next }
  | _ => progress

def progress (trace : List ClientEffect) : Progress :=
  trace.foldr (fun effect before => before.note effect) ⟨none, 0, .disconnected⟩

/-- Whether an entry of the trace says something of the connection process. -/
def marks : ClientEffect → Bool
  | .connecting _ | .state _ => true
  | _ => false

@[simp] theorem progress_cons (effect : ClientEffect) (earlier : List ClientEffect) :
    progress (effect :: earlier) = (progress earlier).note effect := rfl

theorem progress_append {new : List ClientEffect} (silent : ∀ effect ∈ new, marks effect = false)
    (trace : List ClientEffect) : progress (new ++ trace) = progress trace := by
  induction new with
  | nil => rfl
  | cons effect rest ih =>
    have quiet := silent effect List.mem_cons_self
    rw [List.cons_append, progress_cons,
      ih fun other member => silent other (List.mem_cons_of_mem _ member)]
    cases effect with
    | connecting | state => cases quiet
    | _ => rfl

/-- The client has just opened a packet of the server it is trying, sealed for its token. -/
def HeardFrom (token : ConnectToken) (index : Nat) (p : Packet) (trace : List ClientEffect) : Prop :=
  ∃ source call before server sequence, trace = .opened source call :: before ∧
    token.serverAddresses[index]? = some server ∧ source.Equal server = true ∧
    call.key = token.serverToClientKey ∧ Decodes token.protocolID call p sequence

/-- **What comes before a change of state.** A request goes to a server not tried yet. A response
follows a request when the server has sent a challenge, and the client is connected from there when
the server has sent a keep-alive. The client is denied or times out after the last server. -/
def InOrder : ClientEffect → List ClientEffect → Prop
  | .state .sendingConnectionRequest, earlier =>
    ∃ token, (progress earlier).token = some token ∧
      ((progress earlier).attempts : Int) < token.numServerAddresses
  | .state .sendingConnectionResponse, earlier =>
    ∃ token index challengeSequence challengeData,
      progress earlier = ⟨some token, index + 1, .sendingConnectionRequest⟩ ∧
        HeardFrom token index (.connectionChallenge challengeSequence challengeData) earlier
  | .state .connected, earlier =>
    ∃ token index clientIndex maxClients,
      progress earlier = ⟨some token, index + 1, .sendingConnectionResponse⟩ ∧
        HeardFrom token index (.connectionKeepAlive clientIndex maxClients) earlier
  | .state .connectionDenied, earlier | .state .connectionRequestTimedOut, earlier
  | .state .connectionResponseTimedOut, earlier =>
    ∃ token, (progress earlier).token = some token ∧
      ((progress earlier).attempts : Int) = token.numServerAddresses
  | _, _ => True

theorem inOrder_of_silent {effect : ClientEffect} (silent : marks effect = false)
    (earlier : List ClientEffect) : InOrder effect earlier := by
  cases effect with
  | connecting | state => cases silent
  | _ => trivial

/-! ### The client and its server -/

variable {env : Platform} {connects : Bool} {config : ClientConfig} {c c' : Client}

/-- The token in use and the server it points at. -/
def peer (c : Client) : ConnectToken × Nat × Address :=
  (c.connectToken, c.serverAddressIndex, c.serverAddress)

/-- **The client talks to the server the trace says**, which is the one at its index in the list. -/
structure OnServer (c : Client) : Prop where
  shown : progress c.trace = ⟨some c.connectToken, c.serverAddressIndex + 1, c.state⟩
  key : c.readPacketKey = c.connectToken.serverToClientKey
  listed : (c.serverAddressIndex : Int) < c.connectToken.numServerAddresses
  enough : c.connectToken.numServerAddresses ≤ c.connectToken.serverAddresses.length
  address : c.connectToken.serverAddresses[c.serverAddressIndex]? = some c.serverAddress

structure Fallback (c : Client) : Prop where
  order : Always InOrder c.trace
  server : c.Sending → OnServer c

theorem Fallback.new (time : ℚ) : Fallback (new time) :=
  ⟨trivial, fun sends => absurd sends.1 (lt_irrefl _)⟩

/-- A step that does not touch the connection process. -/
theorem Fallback.grown (inv : Fallback c) {new : List ClientEffect}
    (trace : c'.trace = new ++ c.trace) (silent : ∀ effect ∈ new, marks effect = false)
    (peer : c'.peer = c.peer) (key : c'.readPacketKey = c.readPacketKey)
    (state : c'.state = c.state) (loopback : c'.loopback = c.loopback) : Fallback c' := by
  simp only [Client.peer, Prod.mk.injEq] at peer
  obtain ⟨token, index, address⟩ := peer
  refine ⟨?_, fun sends => ?_⟩
  · rw [trace]
    exact inv.order.append fun effect member earlier =>
      inOrder_of_silent (silent effect member) earlier
  · obtain ⟨shown, isKey, listed, enough, isAddress⟩ := inv.server
      ⟨by rw [Active, ← state]; exact sends.1, loopback ▸ sends.2⟩
    refine ⟨?_, ?_, ?_, ?_, ?_⟩
    · rw [trace, progress_append silent, shown, token, index, state]
    · rw [key, token, isKey]
    · rw [index, token]
      exact listed
    · rw [token]
      exact enough
    · rw [token, index, address]
      exact isAddress

/-- An accepted token lists between one and as many servers as its array holds. -/
theorem token_servers {old token : ConnectToken} {data : Bytes}
    (reads : old.read data = some (token, true)) :
    0 < token.numServerAddresses ∧ token.numServerAddresses ≤ token.serverAddresses.length := by
  have size : data.length = ConnectTokenBytes := by
    by_contra other
    rw [ConnectToken.read, if_pos other] at reads
    cases reads
  obtain ⟨-, range, fields, rest, isFields, -⟩ := ConnectToken.read_accepted size reads
  refine ⟨range.1, ?_⟩
  by_contra short
  rw [ConnectToken.fields, if_pos (by omega)] at isFields
  cases isFields

theorem PacketOpened.heardFrom {source : Address} {p : Packet} {sequence : UInt64} {call : AeadCall}
    (packet : PacketOpened c source p sequence call) (on : OnServer c)
    (fromServer : source.Equal c.serverAddress = true) :
    HeardFrom c.connectToken c.serverAddressIndex p c.trace := by
  obtain ⟨before, isHead⟩ := packet.head
  exact ⟨source, call, before, c.serverAddress, sequence, isHead, on.address, fromServer,
    packet.key.trans on.key, packet.nonce, packet.decodes⟩

/-- **Every step keeps the order.** -/
theorem Fallback.micro (inv : Fallback c) (held : c.LoopbackConnected)
    (micro : Micro env connects c c') : Fallback c' := by
  cases micro with
  | tick | giveUp | hear | clear =>
    exact inv.grown (List.nil_append _).symm (fun _ member => by cases member) rfl rfl rfl rfl
  | openPacket source data currentTimestamp outcome call hasKeys reads isOpened =>
    exact inv.grown (show _ = [_] ++ c.trace from applyReading_trace isOpened) (by simp [marks])
      rfl rfl rfl rfl
  | sendLoopback =>
    exact inv.grown (show _ = [_] ++ c.trace from rfl) (by simp [marks]) rfl rfl rfl rfl
  | push source payload sequence =>
    exact inv.grown (pushPayload_trace c payload sequence) (by split_ifs <;> simp [marks])
      rfl rfl rfl rfl
  | pushLoopback payload sequence =>
    exact inv.grown (pushPayload_trace c payload sequence) (by split_ifs <;> simp [marks])
      rfl rfl rfl rfl
  | deliver =>
    exact inv.grown (receivePacket_trace c) (by split <;> simp [marks]) rfl rfl rfl rfl
  | send p note active network kind =>
    have silent : ∀ effect ∈ ClientEffect.sent c.serverAddress (writePacket env p c.sequence
        c.writePacketKey c.connectToken.protocolID) :: (sealing env p c.sequence c.writePacketKey
        c.connectToken.protocolID ++ note), marks effect = false := by
      cases kind <;> simp [sealing, requestPacket, marks]
    exact inv.grown (sendPacketToServerInternal_trace c p note) silent rfl rfl rfl rfl
  | challenge source challengeTokenSequence challengeTokenData sequence call state fromServer
      packet =>
    have network := Connecting.network (.inl state) held
    have on := inv.server ⟨active_of_state _ state (by decide), network⟩
    have shown := congrArg (Progress.note · (.state .sendingConnectionResponse)) on.shown
    exact ⟨⟨⟨_, _, _, _, state ▸ on.shown, packet.heardFrom on fromServer⟩, inv.order⟩,
      fun _ => ⟨shown, on.key, on.listed, on.enough, on.address⟩⟩
  | establish source clientIndex maxClients sequence call state fromServer packet =>
    have network := Connecting.network (.inr state) held
    have on := inv.server ⟨active_of_state _ state (by decide), network⟩
    have shown := congrArg (Progress.note · (.state .connected)) on.shown
    exact ⟨⟨⟨_, _, _, _, state ▸ on.shown, packet.heardFrom on fromServer⟩, inv.order⟩,
      fun _ => ⟨shown, on.key, on.listed, on.enough, on.address⟩⟩
  | begin data token serverAddress allowed idle reads first =>
    obtain ⟨positive, enough⟩ := token_servers reads
    exact ⟨⟨⟨token, rfl, positive⟩, trivial, inv.order⟩, fun _ => ⟨rfl, rfl, positive, enough, first⟩⟩
  | reject data token allowed idle reads =>
    exact ⟨⟨trivial, inv.order⟩, fun sends => absurd sends.1
      (not_lt.mpr (show ClientState.invalidConnectToken.code ≤ 0 by decide))⟩
  | nextServer serverAddress active network more next =>
    have on := inv.server ⟨active, network⟩
    have shown := congrArg (Progress.note · (.state .sendingConnectionRequest)) on.shown
    have further : ((progress c.trace).attempts : Int) < c.connectToken.numServerAddresses := by
      rw [on.shown]
      exact more
    exact ⟨⟨⟨c.connectToken, congrArg Progress.token on.shown, further⟩, inv.order⟩,
      fun _ => ⟨shown, on.key, more, on.enough, next⟩⟩
  | reset destination idle last =>
    refine ⟨⟨?_, inv.order⟩, fun sends => absurd sends.1 (not_lt.mpr idle)⟩
    -- the three states that say the client gave up are entered behind the last server
    have tried : GaveUp destination → ∃ token, (progress c.trace).token = some token ∧
        ((progress c.trace).attempts : Int) = token.numServerAddresses := by
      intro gaveUp
      obtain ⟨active, network, few⟩ := last gaveUp
      have on := inv.server ⟨active, network⟩
      have listed := on.listed
      rw [on.shown]
      refine ⟨_, rfl, ?_⟩
      show ((c.serverAddressIndex + 1 : Nat) : Int) = _
      omega
    cases destination with
    | connectionDenied => exact tried (.inl rfl)
    | connectionRequestTimedOut => exact tried (.inr (.inl rfl))
    | connectionResponseTimedOut => exact tried (.inr (.inr rfl))
    | sendingConnectionRequest | sendingConnectionResponse | connected => exact absurd idle (by decide)
    | _ => trivial
  | connectLoopback clientIndex maxClients =>
    exact ⟨inv.order, fun sends => by cases sends.2⟩

theorem Run.fallback (quiet : config.NonReentrant) {calls : List Call}
    (run : Run env config calls c) : Fallback c :=
  (Run.along (fun _ => True) (fun c => c.LoopbackConnected ∧ Fallback c) quiet (fun _ _ _ met => met)
    (fun time => ⟨fun loopback => (by cases loopback), .new time⟩)
    (fun _ _ _ micro _ held => ⟨micro.loopbackConnected held.1, held.2.micro held.1 micro⟩)
    run trivial).2

theorem Fallback.chain (inv : Fallback c) (held : c.LoopbackConnected)
    (chain : ReflTransGen (Micro env connects) c c') : Fallback c' ∧ c'.LoopbackConnected := by
  induction chain with
  | refl => exact ⟨inv, held⟩
  | tail _ last ih => exact ⟨ih.1.micro ih.2 last, last.loopbackConnected ih.2⟩

/-! ### What a call does to the server being tried -/

/-- What the client was told to do at the next `Update`. -/
def told (c : Client) : Bool × ClientState := (c.shouldDisconnect, c.shouldDisconnectState)

/-- **What processing packets leaves**: the server, and a connection unless it is told to leave. -/
structure Received (c c' : Client) : Prop where
  peer : c'.peer = c.peer
  loopback : c'.loopback = c.loopback
  connected : c.state = .connected →
    c'.state = .connected ∧ (c'.told = c.told ∨ c'.told = (true, .disconnected))

theorem Received.refl (c : Client) : Received c c := ⟨rfl, rfl, fun state => ⟨state, .inl rfl⟩⟩

theorem Received.trans {c'' : Client} (first : Received c c') (second : Received c' c'') :
    Received c c'' := by
  refine ⟨second.peer.trans first.peer, second.loopback.trans first.loopback, fun state => ?_⟩
  obtain ⟨stays, told⟩ := first.connected state
  obtain ⟨stays', told'⟩ := second.connected stays
  refine ⟨stays', ?_⟩
  rcases told' with same | leaves
  · rw [same]
    exact told
  · exact .inr leaves

theorem processPacketInternal_received (quiet : config.NonReentrant) (c : Client) (source : Address)
    (p : Packet) (sequence : UInt64) :
    ∃ c', processPacketInternal config c source p sequence = some c' ∧ Received c c' := by
  cases p with
  | connectionRequest | connectionResponse => exact ⟨c, rfl, .refl c⟩
  | connectionDenied =>
    unfold processPacketInternal
    dsimp only
    split_ifs with expected
    · refine ⟨_, rfl, rfl, rfl, fun state => ?_⟩
      rcases expected.1 with other | other
      · cases state.symm.trans other
      · cases state.symm.trans other
    · exact ⟨c, rfl, .refl c⟩
  | connectionChallenge challengeTokenSequence challengeTokenData =>
    unfold processPacketInternal
    dsimp only
    split_ifs with expected
    · rw [setState_eq quiet]
      exact ⟨_, rfl, rfl, rfl, fun state => by cases state.symm.trans expected.1⟩
    · exact ⟨c, rfl, .refl c⟩
  | connectionKeepAlive clientIndex maxClients =>
    unfold processPacketInternal
    dsimp only
    split_ifs with fromServer
    · cases state : c.state with
      | connected => exact ⟨_, rfl, rfl, rfl, fun _ => ⟨rfl, .inl rfl⟩⟩
      | sendingConnectionResponse =>
        dsimp only
        rw [setState_eq quiet]
        exact ⟨_, rfl, rfl, rfl, fun other => by cases state.symm.trans other⟩
      | _ => exact ⟨c, rfl, .refl c⟩
    · exact ⟨c, rfl, .refl c⟩
  | connectionPayload payload =>
    unfold processPacketInternal
    dsimp only
    split_ifs with expected
    · exact ⟨_, rfl, rfl, rfl, fun state => ⟨state, .inl rfl⟩⟩
    · exact ⟨c, rfl, .refl c⟩
  | connectionDisconnect =>
    unfold processPacketInternal
    dsimp only
    split_ifs with expected
    · exact ⟨_, rfl, rfl, rfl, fun state => ⟨state, .inr rfl⟩⟩
    · exact ⟨c, rfl, .refl c⟩

theorem processPacket_received (quiet : config.NonReentrant) (c : Client) (source : Address)
    (data : Bytes) (currentTimestamp : UInt64) :
    ∃ c', processPacket env config c source data currentTimestamp = some c' ∧ Received c c' := by
  obtain ⟨outcome, returns, -⟩ := readPacket_spec env c.connectToken.protocolID currentTimestamp
    0 clientAllowedPackets data (if c.hasPacketKeys then some c.readPacketKey else none) none
    (some c.replayProtection)
  have reading : Received c (c.applyReading source outcome) :=
    ⟨rfl, rfl, fun state => ⟨state, .inl rfl⟩⟩
  unfold processPacket
  simp only [returns, Option.bind_eq_bind, Option.bind_some]
  cases outcome.packet with
  | none => exact ⟨_, rfl, reading⟩
  | some packet =>
    obtain ⟨c', done, received⟩ := processPacketInternal_received quiet
      (c.applyReading source outcome) source packet outcome.sequence
    exact ⟨c', done, reading.trans received⟩

theorem receivePackets_received (quiet : config.NonReentrant) (batch : List Datagram) :
    ∀ c : Client, ∃ c', receivePackets env config c batch = some c' ∧ Received c c' := by
  induction batch with
  | nil => exact fun c => ⟨c, rfl, .refl c⟩
  | cons d rest ih =>
    intro c
    obtain ⟨middle, first, received⟩ := @processPacket_received env config quiet c d.source d.data
      d.currentTimestamp
    obtain ⟨c', others, received'⟩ := ih middle
    refine ⟨c', ?_, received.trans received'⟩
    unfold receivePackets
    rw [List.foldlM_cons, first]
    exact others

theorem sendPackets_received (env : Platform) (c : Client) : Received c (sendPackets env c) := by
  unfold sendPackets
  split_ifs
  · exact .refl c
  · cases state : c.state with
    | connected => exact ⟨rfl, rfl, fun _ => ⟨state, .inl rfl⟩⟩
    | _ => exact ⟨rfl, rfl, fun other => by cases state.symm.trans other⟩

/-- **The server being tried after a call**: the same one, or the next one with everything the old
one left cleared, or none. -/
inductive Turns (c c' : Client) : Prop
  | stays (same : c'.peer = c.peer)
  | next (token : c'.connectToken = c.connectToken)
      (index : c'.serverAddressIndex = c.serverAddressIndex + 1)
      (state : c'.state = .sendingConnectionRequest) (window : c'.replayProtection = .reset)
      (challenge : c'.challengeTokenSequence = 0 ∧ c'.challengeTokenData = .zero _)
      (told : c'.shouldDisconnect = false)
  | ends (idle : ¬ c'.Active)

theorem Checked.turns (checked : Checked env c c') : Turns c c' := by
  cases checked with
  | waits => exact .stays rfl
  | next => exact .next rfl rfl rfl rfl ⟨rfl, rfl⟩ rfl
  | ends destination idle => exact .ends (not_lt.mpr idle)

theorem Turns.of_peer {middle : Client} (same : middle.peer = c.peer) (turns : Turns middle c') :
    Turns c c' := by
  cases turns with
  | stays same' => exact .stays (same'.trans same)
  | next token index =>
    simp only [peer, Prod.mk.injEq] at same
    exact .next (token.trans same.1) (index.trans (by rw [same.2.1])) ‹_› ‹_› ‹_› ‹_›
  | ends idle => exact .ends idle

/-- The end of an `Update` finds the address of the next server. -/
theorem checkTimeouts_returns (quiet : config.NonReentrant)
    (enough : c.connectToken.numServerAddresses ≤ c.connectToken.serverAddresses.length) :
    ∃ c', checkTimeouts env config c = some c' := by
  have leaves : ∀ destination, ∃ c', disconnectInternal env config c destination false = some c' := by
    intro destination
    unfold disconnectInternal
    split_ifs
    · exact ⟨_, rfl⟩
    · exact ⟨_, resetConnectionData_eq quiet _ _⟩
    · exact ⟨_, resetConnectionData_eq quiet _ _⟩
  have moves : ∀ destination,
      ∃ c', connectToNextServerOrDisconnect env config c destination = some c' := by
    intro destination
    unfold connectToNextServerOrDisconnect connectToNextServer
    split_ifs with last
    · exact leaves destination
    · have inside : c.serverAddressIndex + 1 < c.connectToken.serverAddresses.length := by omega
      rw [List.getElem?_eq_getElem inside]
      simp only [Option.bind_eq_bind, Option.bind_some, setState_eq quiet]
      exact ⟨_, rfl⟩
  unfold checkTimeouts
  split
  · exact leaves _
  · split
    · exact moves _
    · cases c.state with
      | sendingConnectionRequest | sendingConnectionResponse =>
        dsimp only
        split_ifs
        · exact moves _
        · exact ⟨c, rfl⟩
      | connected =>
        dsimp only
        split_ifs
        · exact leaves _
        · exact ⟨c, rfl⟩
      | _ => exact ⟨c, rfl⟩

/-- An `Update` of a client that talks to a server, up to its last part. -/
theorem update_middle (quiet : config.NonReentrant) (network : c.loopback = false)
    (settled : c.Settled) (time : ℚ) (batch : List Datagram) :
    ∃ middle, Received c middle ∧ middle.Settled ∧ ReflTransGen (Micro env false) c middle ∧
      update env config c time batch = checkTimeouts env config middle := by
  obtain ⟨heard, receives, received⟩ := @receivePackets_received env config quiet batch
    { c with time := time }
  have ticked : Micro env false c { c with time := time } := .tick c time
  have received : Received c heard := ⟨received.peer, received.loopback, received.connected⟩
  have chain := ((ReflTransGen.single ticked).trans (receivePackets_chain quiet receives).1).trans
    (sendPackets_chain env (received.loopback.trans network))
  refine ⟨sendPackets env heard, received.trans (sendPackets_received env heard),
    settled_of_chain settled chain, chain, ?_⟩
  rw [update_network network, receives]
  rfl

/-- **An `Update` stays with its server, turns to the next one or ends the process.** -/
theorem update_turns (quiet : config.NonReentrant) (settled : c.Settled)
    (network : c.loopback = false)
    (enough : c.connectToken.numServerAddresses ≤ c.connectToken.serverAddresses.length) (time : ℚ)
    (batch : List Datagram) : ∃ c', update env config c time batch = some c' ∧ Turns c c' := by
  obtain ⟨middle, received, settled', -, same⟩ := @update_middle env config c quiet network settled
    time batch
  have token : middle.connectToken = c.connectToken := congrArg Prod.fst received.peer
  obtain ⟨c', done⟩ := @checkTimeouts_returns env config middle quiet (by rwa [token])
  refine ⟨c', same.trans done, ?_⟩
  exact (checkTimeouts_checked quiet settled' (received.loopback.trans network) done).turns.of_peer
    received.peer

/-- **The client tries the servers of its token in the order of the list.** At every point of a run
the changes of state so far were in order. While the client connects, it works on the server at its
index in the list, and as many servers were asked as the index says. An `Update` stays with that
server, turns to the next one with a fresh window, no challenge and nothing to act on, or ends the
process; a packet never changes the server. -/
theorem server_fallback_order (quiet : config.NonReentrant) {calls : List Call}
    (run : Run env config calls c) :
    Always InOrder c.trace ∧
      (c.Connecting →
        ((c.serverAddressIndex : Int) < c.connectToken.numServerAddresses ∧
          c.connectToken.serverAddresses[c.serverAddressIndex]? = some c.serverAddress ∧
          progress c.trace = ⟨some c.connectToken, c.serverAddressIndex + 1, c.state⟩) ∧
        (∀ time batch, ∃ c', update env config c time batch = some c' ∧ Turns c c') ∧
        ∀ source data currentTimestamp, ∃ c',
          processPacket env config c source data currentTimestamp = some c' ∧ c'.peer = c.peer) := by
  have inv := run.fallback quiet
  refine ⟨inv.order, fun connecting => ?_⟩
  have network := connecting.network (run.loopbackConnected quiet)
  have on := inv.server ⟨connecting.active, network⟩
  refine ⟨⟨on.listed, on.address, on.shown⟩,
    fun time batch => update_turns quiet (run.settled quiet) network on.enough time batch,
    fun source data currentTimestamp => ?_⟩
  obtain ⟨c', done, received⟩ := @processPacket_received env config quiet c source data
    currentTimestamp
  exact ⟨c', done, received.peer⟩

end Client

namespace Sample

/-- The first token, for two servers. -/
def twoServers : Bytes := connectTokenData first 1040 [serverAddress, secondAddress]

/-- A packet for the client with the first token, as it arrives from an address. -/
def arrives (source : Address) (p : Packet) (sequence : UInt64) : Client.Datagram :=
  ⟨source, writePacket samplePlatform p sequence first.serverToClientKey protocolID, 1001⟩

/-- A client that the first of its two servers denies, and that the second one challenges. -/
def challengedBySecond : List Client.Call :=
  [.connect twoServers, .update 1 [arrives serverAddress .connectionDenied globalSequenceStart],
    .update 2 [arrives secondAddress (.connectionChallenge 0 firstChallenge) globalSequenceStart]]

end Sample

namespace Client

/-- The second server is the one at index one, and it was asked second. -/
theorem server_fallback_order_denied : ∃ c calls, Run samplePlatform Sample.clientConfig calls c ∧
    c.state = .sendingConnectionResponse ∧ c.serverAddress = Sample.secondAddress ∧
    Always InOrder c.trace ∧ (progress c.trace).attempts = 2 := by
  have runs : (execute samplePlatform Sample.clientConfig (new 0) Sample.challengedBySecond).map
      (fun c => (c.state, c.serverAddress, c.serverAddressIndex)) =
        some (.sendingConnectionResponse, Sample.secondAddress, 1) := by
    decide +kernel
  obtain ⟨c, done, facts⟩ := Option.map_eq_some_iff.mp runs
  simp only [Prod.mk.injEq] at facts
  obtain ⟨state, address, index⟩ := facts
  have run := Run.execute (.new 0) done
  obtain ⟨order, connecting⟩ := server_fallback_order Sample.clientConfig_nonReentrant run
  obtain ⟨⟨-, -, shown⟩, -⟩ := connecting (.inr state)
  refine ⟨c, _, run, state, address, order, ?_⟩
  rw [shown, index]

end Client

end Netcode
