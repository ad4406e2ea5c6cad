/-
**The atomic steps of the client.**

As on the server, a call is a few atomic steps: `Micro` lists them with the checks the code makes
before each and with what the trace shows at that point. An invariant is proved once for each step
and then holds along every call (`step_chain`, `Run.along`). Only `Connect` takes up a token: the
steps that do are there if `connects` is set, which it is for that call alone.
-/

import Netcode.Lib.Trace
import Netcode.Model.Client

namespace Netcode.Client

open Relation (ReflTransGen)

/-- The client is connecting or connected. -/
def Active (c : Client) : Prop := ClientState.disconnected.code < c.state.code

theorem active_of_state {c : Client} (state : ClientState) (isState : c.state = state)
    (positive : ClientState.disconnected.code < state.code) : c.Active := by
  rw [Active, isState]
  exact positive

/-- A packet was just opened with the client's read key. -/
structure PacketOpened (c : Client) (source : Address) (packet : Packet) (sequence : UInt64)
    (call : AeadCall) : Prop where
  head : ∃ earlier, c.trace = .opened source call :: earlier
  hasKeys : c.hasPacketKeys = true
  key : call.key = c.readPacketKey
  nonce : call.nonce = packetNonce sequence
  decodes : ∃ prefixByte type,
    call.additional = packetAdditionalData c.connectToken.protocolID prefixByte ∧
      PacketType.ofCode (prefixByte &&& 0xF) = some type ∧
      decodePacket type call.plaintext = some (some packet)

/-- The packets the client sends, by its state, and what it notes before. -/
inductive Sends (c : Client) : Packet → List ClientEffect → Prop
  | request (state : c.state = .sendingConnectionRequest) : Sends c c.requestPacket []
  | response (state : c.state = .sendingConnectionResponse) :
      Sends c (.connectionResponse c.challengeTokenSequence c.challengeTokenData) []
  | keepAlive (state : c.state = .connected) : Sends c (.connectionKeepAlive 0 0) []
  | payload (payload : Bytes) (state : c.state = .connected) (nonempty : 1 ≤ payload.length)
      (small : payload.length ≤ MaxPacketSize) :
      Sends c (.connectionPayload payload) [.submitted payload c.sequence]
  | disconnect : Sends c .connectionDisconnect []

/-- `setState` with a callback that does not call back. -/
def withState (c : Client) (next : ClientState) : Client :=
  { c with state := next, trace := .state next :: c.trace }

/-- The client after `resetConnectionData`. -/
def afterReset (env : Platform) (c : Client) (destination : ClientState) : Client :=
  { resetBeforeNextConnect env ((clearConnection c).withState destination) with
    packetReceiveQueue := .clear }

/-- Whether a call takes up a token. -/
def Call.connects : Call → Bool
  | .connect _ => true
  | _ => false

/-- The connection process ended because no server took the client. -/
def GaveUp (state : ClientState) : Prop :=
  state = .connectionDenied ∨ state = .connectionRequestTimedOut ∨
    state = .connectionResponseTimedOut

instance (state : ClientState) : Decidable (GaveUp state) :=
  inferInstanceAs (Decidable (_ ∨ _ ∨ _))

/-- The client talks to the last server of its token. -/
def AtLastServer (c : Client) : Prop :=
  c.Active ∧ c.loopback = false ∧ c.connectToken.numServerAddresses ≤ c.serverAddressIndex + 1

section Steps

variable (env : Platform) (connects : Bool)

/-- **One atomic step.** -/
inductive Micro : Client → Client → Prop
  | tick (c : Client) (time : ℚ) : Micro c { c with time := time }
  | openPacket (c : Client) (source : Address) (data : Bytes) (currentTimestamp : UInt64)
      (outcome : ReadOutcome) (call : AeadCall) (hasKeys : c.hasPacketKeys = true)
      (reads : ReadsAs env c.connectToken.protocolID currentTimestamp 0 clientAllowedPackets data
        (some c.readPacketKey) none (some c.replayProtection) outcome)
      (isOpened : outcome.opened = some call) : Micro c (c.applyReading source outcome)
  | giveUp (c : Client) (state : ClientState) (active : c.Active)
      (idle : state.code ≤ ClientState.disconnected.code) :
      Micro c { c with
        shouldDisconnect := true
        shouldDisconnectState := state
        lastPacketReceiveTime := c.time }
  | challenge (c : Client) (source : Address) (challengeTokenSequence : UInt64)
      (challengeTokenData : FixedBytes challengeTokenBytes) (sequence : UInt64) (call : AeadCall)
      (state : c.state = .sendingConnectionRequest)
      (fromServer : source.Equal c.serverAddress = true)
      (packet : PacketOpened c source
        (.connectionChallenge challengeTokenSequence challengeTokenData) sequence call) :
      Micro c (withState { c with
        challengeTokenSequence := challengeTokenSequence
        challengeTokenData := challengeTokenData
        lastPacketReceiveTime := c.time } .sendingConnectionResponse)
  | hear (c : Client) : Micro c { c with lastPacketReceiveTime := c.time }
  | establish (c : Client) (source : Address) (clientIndex maxClients : Int32) (sequence : UInt64)
      (call : AeadCall) (state : c.state = .sendingConnectionResponse)
      (fromServer : source.Equal c.serverAddress = true)
      (packet : PacketOpened c source (.connectionKeepAlive clientIndex maxClients) sequence call) :
      Micro c (withState { c with
        lastPacketReceiveTime := c.time
        clientIndex := clientIndex.toInt
        maxClients := maxClients.toInt } .connected)
  | push (c : Client) (source : Address) (payload : Bytes) (sequence : UInt64) (call : AeadCall)
      (state : c.state = .connected) (fromServer : source.Equal c.serverAddress = true)
      (packet : PacketOpened c source (.connectionPayload payload) sequence call) :
      Micro c { c.pushPayload payload sequence with lastPacketReceiveTime := c.time }
  | send (c : Client) (p : Packet) (note : List ClientEffect) (active : c.Active)
      (network : c.loopback = false) (kind : c.Sends p note) :
      Micro c (sendPacketToServerInternal env { c with trace := note ++ c.trace } p)
  | begin (c : Client) (data : Bytes) (token : ConnectToken) (serverAddress : Address)
      (allowed : connects = true) (idle : ¬ c.Active)
      (reads : c.connectToken.read data = some (token, true))
      (first : token.serverAddresses[0]? = some serverAddress) :
      Micro c (withState (beginConnect env { c with connectToken := token } token serverAddress)
        .sendingConnectionRequest)
  | reject (c : Client) (data : Bytes) (token : ConnectToken) (allowed : connects = true)
      (idle : ¬ c.Active) (reads : c.connectToken.read data = some (token, false)) :
      Micro c (withState { c with connectToken := token } .invalidConnectToken)
  | nextServer (c : Client) (serverAddress : Address) (active : c.Active)
      (network : c.loopback = false)
      (more : c.serverAddressIndex + 1 < c.connectToken.numServerAddresses)
      (next : c.connectToken.serverAddresses[c.serverAddressIndex + 1]? = some serverAddress) :
      Micro c (withState (resetBeforeNextConnect env { c with
        serverAddressIndex := c.serverAddressIndex + 1
        serverAddress := serverAddress }) .sendingConnectionRequest)
  | reset (c : Client) (destination : ClientState)
      (idle : destination.code ≤ ClientState.disconnected.code)
      (last : GaveUp destination → c.AtLastServer) : Micro c (afterReset env c destination)
  | deliver (c : Client) : Micro c c.receivePacket
  | clear (c : Client) (idle : ¬ c.Active) : Micro c { c with packetReceiveQueue := .clear }
  | connectLoopback (c : Client) (clientIndex maxClients : Int) :
      Micro c (c.connectLoopback clientIndex maxClients)
  | pushLoopback (c : Client) (payload : Bytes) (sequence : UInt64) (loopback : c.loopback = true) :
      Micro c (c.pushPayload payload sequence)
  | sendLoopback (c : Client) (payload : Bytes) (loopback : c.loopback = true) :
      Micro c { c with
        sequence := c.sequence + 1
        trace := .sentLoopback payload c.sequence :: c.trace }

end Steps

/-! ### Every call is a chain of steps -/

section Chains

variable {env : Platform} {connects : Bool} {config : ClientConfig} {c c' : Client}

/-- Only an active client has been told to leave, and never for an active state. -/
structure Settled (c : Client) : Prop where
  state : c.shouldDisconnectState.code ≤ ClientState.disconnected.code
  active : c.shouldDisconnect = true → c.Active

theorem Micro.settled (settled : c.Settled) (micro : Micro env connects c c') : c'.Settled := by
  cases micro with
  | giveUp state active idle => exact ⟨idle, fun _ => active⟩
  | begin | nextServer | reset => exact ⟨le_rfl, fun leaves => by cases leaves⟩
  | challenge =>
    exact ⟨settled.state, fun _ => active_of_state .sendingConnectionResponse rfl (by decide)⟩
  | establish | connectLoopback =>
    exact ⟨settled.state, fun _ => active_of_state .connected rfl (by decide)⟩
  | reject data token allowed idle =>
    exact ⟨settled.state, fun leaves => absurd (settled.active leaves) idle⟩
  | _ => exact ⟨settled.state, settled.active⟩

theorem settled_of_chain (settled : c.Settled) (chain : ReflTransGen (Micro env connects) c c') :
    c'.Settled := by
  induction chain with
  | refl => exact settled
  | tail _ last ih => exact last.settled ih

theorem setState_eq (quiet : config.NonReentrant) (c : Client) (next : ClientState) :
    setState config c next = some (c.withState next) := by
  unfold setState
  cases callback : config.stateChangeCallback with
  | none => rfl
  | some callback' =>
    simp only [quiet.stateChange callback' callback, Option.bind_eq_bind, Option.bind_some]
    rfl

theorem resetConnectionData_eq (quiet : config.NonReentrant) (c : Client)
    (destination : ClientState) :
    resetConnectionData env config c destination = some (afterReset env c destination) := by
  unfold resetConnectionData
  rw [setState_eq quiet]
  rfl

/-- The redundant disconnect packets. -/
theorem sendDisconnects_chain (count : List Nat) : ∀ {c : Client}, c.Active → c.loopback = false →
    ReflTransGen (Micro env connects) c (count.foldl
      (fun c _ => sendPacketToServerInternal env c .connectionDisconnect) c) := by
  induction count with
  | nil => exact fun _ _ => .refl
  | cons _ rest ih =>
    intro c active network
    exact .head (.send c _ _ active network .disconnect) (ih active network)

theorem disconnectInternal_chain (quiet : config.NonReentrant) {destination : ClientState}
    (idle : destination.code ≤ ClientState.disconnected.code) (leaves : ¬ GaveUp destination)
    {sends : Bool} (done : disconnectInternal env config c destination sends = some c') :
    ReflTransGen (Micro env connects) c c' := by
  unfold disconnectInternal at done
  split_ifs at done with already talks
  · cases done
    exact .refl
  · have active : c.Active := not_le.mp fun low => already (.inl low)
    simp only [Bool.and_eq_true, Bool.not_eq_true'] at talks
    rw [resetConnectionData_eq quiet] at done
    cases done
    exact (sendDisconnects_chain _ active talks.1).tail (.reset _ destination idle (absurd · leaves))
  · rw [resetConnectionData_eq quiet] at done
    cases done
    exact .single (.reset _ destination idle (absurd · leaves))

theorem disconnectInternal_idle (quiet : config.NonReentrant) {destination : ClientState}
    (idle : destination.code ≤ ClientState.disconnected.code) {sends : Bool}
    (done : disconnectInternal env config c destination sends = some c') : ¬ c'.Active := by
  unfold disconnectInternal at done
  split_ifs at done with already
  · cases done
    rintro active
    rcases already with low | same
    · exact absurd active (not_lt.mpr low)
    · rw [Active, same] at active
      exact absurd active (not_lt.mpr idle)
  · rw [resetConnectionData_eq quiet] at done
    cases done
    exact not_lt.mpr idle
  · rw [resetConnectionData_eq quiet] at done
    cases done
    exact not_lt.mpr idle

theorem connect_chain (quiet : config.NonReentrant) {data : Bytes}
    (done : connect env config c data = some c') : ReflTransGen (Micro env true) c c' := by
  unfold connect disconnect at done
  obtain ⟨left, disconnects, done⟩ := Option.bind_eq_some_iff.mp done
  obtain ⟨⟨token, good⟩, reads, done⟩ := Option.bind_eq_some_iff.mp done
  have idle := disconnectInternal_idle quiet le_rfl disconnects
  refine (disconnectInternal_chain quiet le_rfl (by decide) disconnects).tail ?_
  cases good with
  | false =>
    have done : setState config { left with connectToken := token } .invalidConnectToken =
      some c' := done
    rw [setState_eq quiet] at done
    cases done
    exact .reject left data token rfl idle reads
  | true =>
    obtain ⟨serverAddress, first, done⟩ := Option.bind_eq_some_iff.mp
      (show (token.serverAddresses[0]?.bind fun serverAddress => setState config
        (beginConnect env { left with connectToken := token } token serverAddress)
        .sendingConnectionRequest) = some c' from done)
    rw [setState_eq quiet] at done
    cases done
    exact .begin left data token serverAddress rfl idle reads first

/-- **What `Update` does behind the packets**: nothing, the next server, or the end. -/
inductive Checked (env : Platform) (c : Client) : Client → Prop
  | waits : Checked env c c
  | next (serverAddress : Address) (active : c.Active)
      (more : c.serverAddressIndex + 1 < c.connectToken.numServerAddresses)
      (next : c.connectToken.serverAddresses[c.serverAddressIndex + 1]? = some serverAddress) :
      Checked env c (withState (resetBeforeNextConnect env { c with
        serverAddressIndex := c.serverAddressIndex + 1
        serverAddress := serverAddress }) .sendingConnectionRequest)
  | ends (destination : ClientState) (idle : destination.code ≤ ClientState.disconnected.code)
      (last : GaveUp destination → c.AtLastServer) : Checked env c (afterReset env c destination)

theorem Checked.chain (checked : Checked env c c') (network : c.loopback = false) :
    ReflTransGen (Micro env connects) c c' := by
  cases checked with
  | waits => exact .refl
  | next serverAddress active more next =>
    exact .single (.nextServer c serverAddress active network more next)
  | ends destination idle last => exact .single (.reset c destination idle last)

theorem disconnectInternal_checked (quiet : config.NonReentrant) {destination : ClientState}
    (idle : destination.code ≤ ClientState.disconnected.code)
    (last : GaveUp destination → c.AtLastServer)
    (done : disconnectInternal env config c destination false = some c') : Checked env c c' := by
  unfold disconnectInternal at done
  split_ifs at done with already talks
  · cases done
    exact .waits
  · rw [Bool.and_false] at talks
    cases talks
  · rw [resetConnectionData_eq quiet] at done
    cases done
    exact .ends destination idle last

/-- Giving up on a server. -/
theorem nextServer_checked (quiet : config.NonReentrant) {destination : ClientState}
    (active : c.Active) (network : c.loopback = false)
    (idle : destination.code ≤ ClientState.disconnected.code)
    (done : connectToNextServerOrDisconnect env config c destination = some c') :
    Checked env c c' := by
  unfold connectToNextServerOrDisconnect connectToNextServer at done
  obtain ⟨result, moves, done⟩ := Option.bind_eq_some_iff.mp done
  split_ifs at moves with last
  · cases moves
    exact disconnectInternal_checked quiet idle (fun _ => ⟨active, network, last⟩) done
  · obtain ⟨serverAddress, next, moves⟩ := Option.bind_eq_some_iff.mp moves
    rw [setState_eq quiet] at moves
    cases moves
    cases done
    exact .next serverAddress active (not_le.mp last) next

theorem sendPackets_chain (env : Platform) (network : c.loopback = false) :
    ReflTransGen (Micro env connects) c (sendPackets env c) := by
  unfold sendPackets
  split_ifs with early
  · exact .refl
  · cases state : c.state with
    | sendingConnectionRequest =>
      exact .single (.send c _ _ (active_of_state _ state (by decide)) network (.request state))
    | sendingConnectionResponse =>
      exact .single (.send c _ _ (active_of_state _ state (by decide)) network (.response state))
    | connected =>
      exact .single (.send c _ _ (active_of_state _ state (by decide)) network (.keepAlive state))
    | _ => exact .refl

theorem sendPackets_loopback (env : Platform) (c : Client) :
    (sendPackets env c).loopback = c.loopback := by
  unfold sendPackets
  split_ifs with early
  · rfl
  · cases c.state <;> rfl

theorem checkTimeouts_checked (quiet : config.NonReentrant) (settled : c.Settled)
    (network : c.loopback = false) (done : checkTimeouts env config c = some c') :
    Checked env c c' := by
  unfold checkTimeouts at done
  split at done
  · exact disconnectInternal_checked quiet (by decide) (absurd · (by decide)) done
  by_cases leaves : c.shouldDisconnect = true
  · rw [if_pos leaves] at done
    exact nextServer_checked quiet (settled.active leaves) network settled.state done
  · rw [if_neg leaves] at done
    cases state : c.state with
    | sendingConnectionRequest | sendingConnectionResponse =>
      simp only [state] at done
      split_ifs at done
      · exact nextServer_checked quiet (active_of_state _ state (by decide)) network (by decide) done
      · cases done
        exact .waits
    | connected =>
      simp only [state] at done
      split_ifs at done
      · exact disconnectInternal_checked quiet (by decide) (absurd · (by decide)) done
      · cases done
        exact .waits
    | _ =>
      simp only [state] at done
      cases done
      exact .waits

/-! ### Packets -/

theorem processPacketInternal_chain (quiet : config.NonReentrant) {source : Address} {p : Packet}
    {sequence : UInt64} {call : AeadCall} (packet : PacketOpened c source p sequence call)
    (done : processPacketInternal config c source p sequence = some c') :
    ReflTransGen (Micro env connects) c c' ∧ c'.loopback = c.loopback ∧ c'.time = c.time := by
  cases p with
  | connectionRequest | connectionResponse =>
    cases done
    exact ⟨.refl, rfl, rfl⟩
  | connectionDenied =>
    unfold processPacketInternal at done
    dsimp only at done
    split_ifs at done with expected
    · cases done
      refine ⟨.single (.giveUp c .connectionDenied ?_ (by decide)), rfl, rfl⟩
      rcases expected.1 with state | state
      · exact active_of_state _ state (by decide)
      · exact active_of_state _ state (by decide)
    · cases done
      exact ⟨.refl, rfl, rfl⟩
  | connectionChallenge challengeTokenSequence challengeTokenData =>
    unfold processPacketInternal at done
    dsimp only at done
    split_ifs at done with expected
    · rw [setState_eq quiet] at done
      cases done
      exact ⟨.single (.challenge c source _ _ sequence call expected.1 expected.2 packet), rfl, rfl⟩
    · cases done
      exact ⟨.refl, rfl, rfl⟩
  | connectionKeepAlive clientIndex maxClients =>
    unfold processPacketInternal at done
    dsimp only at done
    by_cases fromServer : source.Equal c.serverAddress = true
    · rw [if_pos fromServer] at done
      cases state : c.state with
      | connected =>
        simp only [state] at done
        cases done
        rw [← state]
        exact ⟨.single (.hear c), rfl, rfl⟩
      | sendingConnectionResponse =>
        simp only [state, setState_eq quiet] at done
        cases done
        exact ⟨.single (.establish c source clientIndex maxClients sequence call state fromServer
          packet), rfl, rfl⟩
      | _ =>
        simp only [state] at done
        cases done
        exact ⟨.refl, rfl, rfl⟩
    · rw [if_neg fromServer] at done
      cases done
      exact ⟨.refl, rfl, rfl⟩
  | connectionPayload payload =>
    unfold processPacketInternal at done
    dsimp only at done
    split_ifs at done with expected
    · cases done
      exact ⟨.single (.push c source payload sequence call expected.1 expected.2 packet), rfl, rfl⟩
    · cases done
      exact ⟨.refl, rfl, rfl⟩
  | connectionDisconnect =>
    unfold processPacketInternal at done
    dsimp only at done
    split_ifs at done with expected
    · cases done
      exact ⟨.single (.giveUp c .disconnected (active_of_state _ expected.1 (by decide)) le_rfl),
        rfl, rfl⟩
    · cases done
      exact ⟨.refl, rfl, rfl⟩

theorem processPacket_chain (quiet : config.NonReentrant) {source : Address} {data : Bytes}
    {currentTimestamp : UInt64}
    (done : processPacket env config c source data currentTimestamp = some c') :
    ReflTransGen (Micro env connects) c c' ∧ c'.loopback = c.loopback ∧ c'.time = c.time := by
  unfold processPacket at done
  obtain ⟨outcome, returns, reads⟩ := readPacket_spec env c.connectToken.protocolID currentTimestamp
    0 clientAllowedPackets data (if c.hasPacketKeys then some c.readPacketKey else none) none
    (some c.replayProtection)
  simp only [returns, Option.bind_eq_bind, Option.bind_some] at done
  have keepsReads := reads
  cases reads with
  | ignored =>
    cases done
    exact ⟨.refl, rfl, rfl⟩
  | request key request call allowed => cases allowed
  | encrypted key prefixByte type sequenceData sequence call packet isKey bytes notRequest isType
      allowed sequenceLength sequenceRange isSequence notReplayed opens decodes =>
    obtain ⟨hasKeys, isKey⟩ := Option.ite_none_right_eq_some.mp isKey
    rw [if_pos hasKeys] at keepsReads
    have first : Micro env connects c _ := .openPacket c source data currentTimestamp _ call hasKeys
      keepsReads rfl
    cases packet with
    | none =>
      cases done
      exact ⟨.single first, rfl, rfl⟩
    | some packet =>
      obtain ⟨isCallKey, isNonce, isAdditional, -, -⟩ := decryptAEAD_eq_some opens
      have opened : PacketOpened (c.applyReading source ⟨some packet, sequence,
          advanceReplay type sequence (some c.replayProtection), some call⟩) source packet sequence
          call :=
        ⟨⟨c.trace, rfl⟩, hasKeys, isCallKey.trans (Option.some_inj.mp isKey).symm, isNonce,
          prefixByte, type, isAdditional, isType, decodes⟩
      obtain ⟨chain, same⟩ := processPacketInternal_chain quiet opened done
      exact ⟨.head first chain, same⟩

theorem receivePackets_chain (quiet : config.NonReentrant) {batch : List Datagram} :
    ∀ {c : Client}, receivePackets env config c batch = some c' →
      ReflTransGen (Micro env connects) c c' ∧ c'.loopback = c.loopback ∧ c'.time = c.time := by
  induction batch with
  | nil =>
    rintro c ⟨⟩
    exact ⟨.refl, rfl, rfl⟩
  | cons d rest ih =>
    intro c done
    unfold receivePackets at done
    rw [List.foldlM_cons] at done
    obtain ⟨middle, first, others⟩ := Option.bind_eq_some_iff.mp done
    obtain ⟨chain, loopback, time⟩ := processPacket_chain quiet first
    obtain ⟨chain', loopback', time'⟩ := ih others
    exact ⟨chain.trans chain', loopback'.trans loopback, time'.trans time⟩

/-! ### The public calls -/

/-- `Update` of a client that talks to a server. -/
theorem update_network (network : c.loopback = false) (time : ℚ) (batch : List Datagram) :
    update env config c time batch =
      (receivePackets env config { c with time := time } batch).bind
        fun heard => checkTimeouts env config (sendPackets env heard) := by
  unfold update
  dsimp only
  rw [if_neg (by simp [network])]
  rfl

theorem update_chain (quiet : config.NonReentrant) (settled : c.Settled) {time : ℚ}
    {batch : List Datagram} (done : update env config c time batch = some c') :
    ReflTransGen (Micro env connects) c c' := by
  refine .head (.tick c time) ?_
  unfold update at done
  dsimp only at done
  split_ifs at done with loopback
  · cases done
    exact .refl
  · obtain ⟨middle, receives, checks⟩ := Option.bind_eq_some_iff.mp done
    obtain ⟨chain, same, -⟩ := receivePackets_chain quiet receives
    have network : middle.loopback = false := same.trans (by simpa using loopback)
    have sends : ReflTransGen (Micro env connects) middle (sendPackets env middle) :=
      sendPackets_chain env network
    have ticked : Settled { c with time := time } := ⟨settled.state, settled.active⟩
    have still := (sendPackets_loopback env middle).trans network
    exact (chain.trans sends).trans ((checkTimeouts_checked quiet
      (settled_of_chain ticked (chain.trans sends)) still checks).chain still)

theorem sendPacket_chain (quiet : config.NonReentrant) {payload : Bytes}
    (done : sendPacket env config c payload = some c') : ReflTransGen (Micro env connects) c c' := by
  unfold sendPacket at done
  split_ifs at done with size other network
  · cases done
    exact .refl
  · cases done
    exact .refl
  · cases done
    have state : c.state = .connected := not_not.mp other
    have isNetwork : c.loopback = false := by simpa using network
    refine .single (.send c _ _ (active_of_state _ state (by decide)) isNetwork
      (.payload payload state ?_ ?_))
    · omega
    · omega
  · obtain ⟨callback, isCallback, done⟩ := Option.bind_eq_some_iff.mp done
    simp only [quiet.sendLoopback callback isCallback, Option.bind_eq_bind, Option.bind_some] at done
    cases done
    exact .single (.sendLoopback c payload (by simpa using network))

theorem close_chain (quiet : config.NonReentrant) (done : close env config c = some c') :
    ReflTransGen (Micro env connects) c c' := by
  unfold close disconnect disconnectLoopback at done
  obtain ⟨middle, leaves, done⟩ := Option.bind_eq_some_iff.mp done
  cases done
  split_ifs at leaves
  · exact (disconnectInternal_chain quiet le_rfl (by decide) leaves).tail
      (.clear middle (disconnectInternal_idle quiet le_rfl leaves))
  · rw [resetConnectionData_eq quiet] at leaves
    cases leaves
    exact .head (.reset c .disconnected le_rfl (absurd · (by decide))) (.single (.clear _ (lt_irrefl _)))

/-- **Every call that returns is a chain of atomic steps.** -/
theorem step_chain (quiet : config.NonReentrant) (settled : c.Settled) {call : Call}
    (done : step env config c call = some c') :
    ReflTransGen (Micro env call.connects) c c' := by
  cases call with
  | connect data => exact connect_chain quiet done
  | update time batch => exact update_chain quiet settled done
  | processPacket source data currentTimestamp => exact (processPacket_chain quiet done).1
  | sendPacket payload => exact sendPacket_chain quiet done
  | receivePacket =>
    cases done
    exact .single (.deliver c)
  | disconnect => exact disconnectInternal_chain quiet le_rfl (by decide) done
  | connectLoopback clientIndex maxClients =>
    cases done
    exact .single (.connectLoopback c clientIndex maxClients)
  | disconnectLoopback =>
    have done : resetConnectionData env config c .disconnected = some c' := done
    rw [resetConnectionData_eq quiet] at done
    cases done
    exact .single (.reset c .disconnected le_rfl (absurd · (by decide)))
  | processLoopbackPacket payload sequence =>
    cases done
    unfold processLoopbackPacket
    split_ifs with network
    · exact .refl
    · exact .refl
    · exact .single (.pushLoopback c payload sequence (by simpa using network))
  | close => exact close_chain quiet done

/-! ### Runs -/

/-- A step shows what it opened. -/
theorem applyReading_trace {source : Address} {outcome : ReadOutcome} {call : AeadCall}
    (isOpened : outcome.opened = some call) :
    (c.applyReading source outcome).trace = .opened source call :: c.trace := by
  simp [applyReading, isOpened]

theorem pushPayload_trace (c : Client) (payload : Bytes) (sequence : UInt64) :
    (c.pushPayload payload sequence).trace =
      (if (c.packetReceiveQueue.push payload sequence).2 then [.queued payload sequence] else []) ++
        c.trace := by
  unfold pushPayload
  dsimp only
  split_ifs <;> rfl

theorem receivePacket_trace (c : Client) :
    c.receivePacket.trace =
      (match c.packetReceiveQueue.pop.2.1 with
        | some payload => [.delivered payload c.packetReceiveQueue.pop.2.2]
        | none => []) ++ c.trace := by
  unfold receivePacket
  dsimp only
  cases c.packetReceiveQueue.pop.2.1 <;> rfl

theorem sendPacketToServerInternal_trace (c : Client) (p : Packet) (note : List ClientEffect) :
    (sendPacketToServerInternal env { c with trace := note ++ c.trace } p).trace =
      (.sent c.serverAddress
          (writePacket env p c.sequence c.writePacketKey c.connectToken.protocolID) ::
        (sealing env p c.sequence c.writePacketKey c.connectToken.protocolID ++ note)) ++ c.trace := by
  simp [sendPacketToServerInternal]

/-- **The trace only grows.** -/
theorem Micro.grows (micro : Micro env connects c c') : c.trace <:+ c'.trace := by
  cases micro with
  | tick | giveUp | hear | clear | connectLoopback => exact List.suffix_refl _
  | challenge | establish | reject | nextServer | reset | sendLoopback =>
    exact List.suffix_cons _ _
  | begin => exact ⟨[_, _], rfl⟩
  | openPacket source data currentTimestamp outcome call hasKeys reads isOpened =>
    rw [applyReading_trace isOpened]
    exact List.suffix_cons _ _
  | push source payload sequence => exact ⟨_, (pushPayload_trace c payload sequence).symm⟩
  | pushLoopback payload sequence => exact ⟨_, (pushPayload_trace c payload sequence).symm⟩
  | send p note => exact ⟨_, (sendPacketToServerInternal_trace c p note).symm⟩
  | deliver => exact ⟨_, (receivePacket_trace c).symm⟩

theorem Run.settled (quiet : config.NonReentrant) {calls : List Call}
    (run : Run env config calls c) : c.Settled := by
  induction run with
  | new time => exact ⟨le_rfl, fun leaves => by cases leaves⟩
  | step _ call done ih => exact settled_of_chain ih (step_chain quiet ih done)

/-- **The invariant rule for runs of a client.** -/
theorem Run.along {calls : List Call} (meets : List ClientEffect → Prop) (holds : Client → Prop)
    (quiet : config.NonReentrant)
    (closed : ∀ before after, before <:+ after → meets after → meets before)
    (start : ∀ time, holds (Client.new time))
    (keeps : ∀ connects c c', Micro env connects c c' → meets c'.trace → holds c → holds c')
    (run : Run env config calls c) (met : meets c.trace) : holds c := by
  induction run with
  | new time => exact start time
  | step run call done ih =>
    have chain := step_chain quiet (run.settled quiet) done
    have grown := Trace.chain_grows (Micro env call.connects) Client.trace (fun _ _ => Micro.grows)
      chain
    exact Trace.along (Micro env call.connects) Client.trace (fun _ _ => Micro.grows) closed
      (keeps call.connects) chain met
      (ih (closed _ _ grown met))

end Chains

end Netcode.Client
