/-
**The client's half of a handshake.**

A client that has taken up a token sends a request, answers the challenge and is connected by the
first keep-alive. Each of these is one `Update`:

* `Handshaking.update_request`, `update_challenge`, `update_keepAlive` — what the client sends, and
  the state it is in, if the packet comes from its server and it does not give up before: its send
  interval has passed, its token has not run out, and it has heard from the server in time;
* `update_sends`, `hear_challenge`, `hear_keepAlive` — the steps these are made of.
-/

import Netcode.Client.Expiry
import Netcode.Codec.Packets

namespace Netcode

/-- The datagrams the client sent, newest first. -/
def sentByClient (trace : List ClientEffect) : List Bytes :=
  trace.filterMap fun
    | .sent _ data => some data
    | _ => none

namespace Client

variable {env : Platform} {config : ClientConfig} {c : Client}

/-! ### Packets and timeouts -/

/-- **A packet the server wrote is processed**, if the replay window has not seen it. -/
theorem processPacket_written {p : Packet} (hasKeys : c.hasPacketKeys = true) (fits : p.Sealable)
    (allowed : clientAllowedPackets p.packetType = true) {sequence : UInt64}
    (fresh : p.packetType.replayProtected = true →
      c.replayProtection.alreadyReceived sequence = false) (source : Address)
    (currentTimestamp : UInt64) :
    processPacket env config c source (writePacket env p sequence c.readPacketKey
        c.connectToken.protocolID) currentTimestamp =
      processPacketInternal config (c.applyReading source
        ⟨some p, sequence, advanceReplay p.packetType sequence (some c.replayProtection),
          some (sealPacket env p sequence c.readPacketKey c.connectToken.protocolID)⟩) source p
        sequence := by
  unfold processPacket
  dsimp only
  rw [if_pos hasKeys, readPacket_writePacket fits sequence c.readPacketKey allowed
    (fun protects replay isReplay => Option.some_inj.mp isReplay ▸ fresh protects), Option.bind_eq_bind,
    Option.bind_some]

theorem processPacketInternal_challenge (quiet : config.NonReentrant) {source : Address}
    (state : c.state = .sendingConnectionRequest) (fromServer : source.Equal c.serverAddress = true)
    (challengeTokenSequence sequence : UInt64) (challengeTokenData : FixedBytes challengeTokenBytes) :
    processPacketInternal config c source
        (.connectionChallenge challengeTokenSequence challengeTokenData) sequence =
      some (withState { c with
        challengeTokenSequence := challengeTokenSequence
        challengeTokenData := challengeTokenData
        lastPacketReceiveTime := c.time } .sendingConnectionResponse) := by
  unfold processPacketInternal
  dsimp only
  rw [if_pos ⟨state, fromServer⟩, setState_eq quiet]

theorem processPacketInternal_keepAlive (quiet : config.NonReentrant) {source : Address}
    (state : c.state = .sendingConnectionResponse) (fromServer : source.Equal c.serverAddress = true)
    (clientIndex maxClients : Int32) (sequence : UInt64) :
    processPacketInternal config c source (.connectionKeepAlive clientIndex maxClients) sequence =
      some (withState { c with
        lastPacketReceiveTime := c.time
        clientIndex := clientIndex.toInt
        maxClients := maxClients.toInt } .connected) := by
  unfold processPacketInternal
  dsimp only
  rw [if_pos fromServer, state]
  dsimp only
  rw [setState_eq quiet]

/-- What `Update` sends changes nothing that its timeouts look at. -/
theorem sendPackets_keeps (env : Platform) (c : Client) :
    (sendPackets env c).state = c.state ∧ (sendPackets env c).connectToken = c.connectToken ∧
      (sendPackets env c).lastPacketReceiveTime = c.lastPacketReceiveTime ∧
      (sendPackets env c).shouldDisconnect = c.shouldDisconnect ∧
      (sendPackets env c).clientIndex = c.clientIndex ∧
      (sendPackets env c).maxClients = c.maxClients := by
  unfold sendPackets
  split_ifs
  · exact ⟨rfl, rfl, rfl, rfl, rfl, rfl⟩
  · split <;> exact ⟨rfl, rfl, rfl, rfl, rfl, rfl⟩

/-- A client that has just heard from its server has not timed out. -/
theorem timedOut_eq_false (isFloat : env.IsFloat64 c.time) (heard : c.lastPacketReceiveTime = c.time) :
    c.timedOut env = false := by
  unfold timedOut
  rw [heard, Bool.and_eq_false_imp]
  intro positive
  rw [decide_eq_true_eq] at positive
  exact decide_eq_false (not_lt.mpr (isFloat.le_add (seconds_nonneg (Int32.le_of_lt positive))))

/-- **The client does not give up.** -/
theorem checkTimeouts_stays (state : c.state = .connected ∨ ¬ (env.float64
      (c.connectToken.expireTimestamp - c.connectToken.createTimestamp).toNat ≤
        env.float64 (c.time - c.connectStartTime)))
    (stays : c.shouldDisconnect = false) (patient : c.timedOut env = false) :
    checkTimeouts env config c = some c := by
  unfold checkTimeouts
  rw [if_neg, if_neg (by simp [stays])]
  · cases c.state with
    | sendingConnectionRequest | sendingConnectionResponse | connected =>
      exact if_neg (by simp [patient])
    | _ => rfl
  · rintro ⟨-, below, expired⟩
    rcases state with connected | lasts
    · rw [connected] at below
      exact absurd below (by decide)
    · exact lasts expired

/-! ### The exchange -/

/-- **A client in a handshake**: it has the keys of its token, and has not heard anything that its
replay window remembers or that makes it leave. -/
structure Handshaking (token : ConnectToken) (serverAddress : Address) (start : ℚ)
    (state : ClientState) (c : Client) : Prop where
  state : c.state = state
  network : c.loopback = false
  isToken : c.connectToken = token
  hasKeys : c.hasPacketKeys = true
  readKey : c.readPacketKey = token.serverToClientKey
  writeKey : c.writePacketKey = token.clientToServerKey
  server : c.serverAddress = serverAddress
  start : c.connectStartTime = start
  window : c.replayProtection = .reset
  stays : c.shouldDisconnect = false

/-- The token has not run out, counted from the start of the connection process. -/
def InLifetime (env : Platform) (token : ConnectToken) (start time : ℚ) : Prop :=
  env.float64 (time - start) < env.float64 (token.expireTimestamp - token.createTimestamp).toNat

/-- The send interval has passed. -/
def Due (env : Platform) (lastPacketSendTime time : ℚ) : Prop :=
  env.float64 (lastPacketSendTime + env.float64 packetSendInterval) < time

section Exchange

variable {token : ConnectToken} {serverAddress source : Address} {start time : ℚ}

/-- The send interval has passed for a client that is connecting. -/
theorem sendPackets_due {p : Packet}
    (due : Due env c.lastPacketSendTime time)
    (isPacket : c.state = .sendingConnectionRequest ∧ p = c.requestPacket ∨
      c.state = .sendingConnectionResponse ∧
        p = .connectionResponse c.challengeTokenSequence c.challengeTokenData) :
    sendPackets env { c with time := time } =
      sendPacketToServerInternal env { c with time := time } p := by
  unfold sendPackets
  rw [if_neg (not_le.mpr due)]
  dsimp only
  rcases isPacket with ⟨state, rfl⟩ | ⟨state, rfl⟩
  · rw [state]
    rfl
  · rw [state]

/-- **`Update` of a client that is connecting**: it sends its packet, and does not give up. -/
theorem update_sends {p : Packet} (network : c.loopback = false)
    (stays : c.shouldDisconnect = false)
    (sends : sendPackets env { c with time := time } =
      sendPacketToServerInternal env { c with time := time } p)
    (lasts : InLifetime env c.connectToken c.connectStartTime time)
    (patient : 0 < c.connectToken.timeoutSeconds →
      time ≤ env.float64 (c.lastPacketReceiveTime + c.connectToken.timeoutSeconds.toInt)) :
    update env config c time [] =
      some (sendPacketToServerInternal env { c with time := time } p) := by
  rw [update_network network]
  show checkTimeouts env config (sendPackets env { c with time := time }) = _
  rw [sends]
  refine checkTimeouts_stays (.inr (not_le.mpr lasts)) stays ?_
  unfold timedOut
  rw [Bool.and_eq_false_imp]
  intro positive
  exact decide_eq_false (not_lt.mpr (patient (of_decide_eq_true positive)))

/-- **The challenge is taken up.** -/
theorem hear_challenge (quiet : config.NonReentrant) (state : c.state = .sendingConnectionRequest)
    (hasKeys : c.hasPacketKeys = true) (fromServer : source.Equal c.serverAddress = true)
    (challengeSequence sequence currentTimestamp : UInt64)
    (challengeData : FixedBytes challengeTokenBytes) :
    ∃ trace, sentByClient trace = sentByClient c.trace ∧
      processPacket env config c source (writePacket env
        (.connectionChallenge challengeSequence challengeData) sequence c.readPacketKey
        c.connectToken.protocolID) currentTimestamp =
      some { c with
        state := .sendingConnectionResponse
        challengeTokenSequence := challengeSequence
        challengeTokenData := challengeData
        lastPacketReceiveTime := c.time
        trace := trace } := by
  -- a challenge is not protected against replay, so it leaves the window alone
  have reads := @processPacket_written env config c (.connectionChallenge challengeSequence challengeData)
    hasKeys trivial rfl sequence (fun protects => by cases protects) source currentTimestamp
  refine ⟨.state .sendingConnectionResponse :: .opened source (sealPacket env
    (.connectionChallenge challengeSequence challengeData) sequence c.readPacketKey
    c.connectToken.protocolID) :: c.trace, rfl,
    reads.trans ((processPacketInternal_challenge quiet ?_ ?_ _ _ _).trans rfl)⟩
  · exact state
  · exact fromServer

/-- **The first keep-alive connects the client.** -/
theorem hear_keepAlive (quiet : config.NonReentrant) (state : c.state = .sendingConnectionResponse)
    (hasKeys : c.hasPacketKeys = true) (fromServer : source.Equal c.serverAddress = true)
    {sequence : UInt64} (fresh : c.replayProtection.alreadyReceived sequence = false)
    (clientIndex maxClients : Int32) (currentTimestamp : UInt64) :
    ∃ trace, sentByClient trace = sentByClient c.trace ∧
      processPacket env config c source (writePacket env (.connectionKeepAlive clientIndex maxClients)
        sequence c.readPacketKey c.connectToken.protocolID) currentTimestamp =
      some { c with
        state := .connected
        clientIndex := clientIndex.toInt
        maxClients := maxClients.toInt
        replayProtection := c.replayProtection.advanceSequence sequence
        lastPacketReceiveTime := c.time
        trace := trace } := by
  have reads := @processPacket_written env config c (.connectionKeepAlive clientIndex maxClients)
    hasKeys trivial rfl sequence (fun _ => fresh) source currentTimestamp
  refine ⟨.state .connected :: .opened source (sealPacket env
    (.connectionKeepAlive clientIndex maxClients) sequence c.readPacketKey
    c.connectToken.protocolID) :: c.trace, rfl,
    reads.trans ((processPacketInternal_keepAlive quiet ?_ ?_ _ _ _).trans rfl)⟩
  · exact state
  · exact fromServer

/-- **The client sends its request.** -/
theorem Handshaking.update_request
    (handshaking : Handshaking token serverAddress start .sendingConnectionRequest c)
    (due : Due env c.lastPacketSendTime time) (lasts : InLifetime env token start time)
    (patient : 0 < token.timeoutSeconds →
      time ≤ env.float64 (c.lastPacketReceiveTime + token.timeoutSeconds.toInt)) :
    ∃ c', update env config c time [] = some c' ∧
      Handshaking token serverAddress start .sendingConnectionRequest c' ∧
      c'.trace = .sent serverAddress (writePacket env c.requestPacket c.sequence
        token.clientToServerKey token.protocolID) :: c.trace ∧
      c'.lastPacketSendTime = time := by
  obtain ⟨state, network, rfl, hasKeys, readKey, writeKey, rfl, rfl, window, stays⟩ := handshaking
  refine ⟨sendPacketToServerInternal env { c with time := time } c.requestPacket,
    update_sends network stays (sendPackets_due due (.inl ⟨state, rfl⟩)) lasts patient,
    ⟨state, network, rfl, hasKeys, readKey, writeKey, rfl, rfl, window, stays⟩, ?_, rfl⟩
  rw [← writeKey]
  rfl

/-- **The client answers the challenge.** -/
theorem Handshaking.update_challenge (quiet : config.NonReentrant)
    (handshaking : Handshaking token serverAddress start .sendingConnectionRequest c)
    (fromServer : source.Equal serverAddress = true) (isFloat : env.IsFloat64 time)
    (due : Due env c.lastPacketSendTime time) (lasts : InLifetime env token start time)
    (challengeSequence sequence currentTimestamp : UInt64)
    (challengeData : FixedBytes challengeTokenBytes) :
    ∃ c', update env config c time [⟨source, writePacket env
          (.connectionChallenge challengeSequence challengeData) sequence token.serverToClientKey
          token.protocolID, currentTimestamp⟩] = some c' ∧
      Handshaking token serverAddress start .sendingConnectionResponse c' ∧
      c'.trace.head? = some (.sent serverAddress (writePacket env
        (.connectionResponse challengeSequence challengeData) c.sequence token.clientToServerKey
        token.protocolID)) := by
  obtain ⟨state, network, rfl, hasKeys, readKey, writeKey, rfl, rfl, window, stays⟩ := handshaking
  obtain ⟨trace, -, received⟩ := @hear_challenge env config { c with time := time } source quiet state
    hasKeys fromServer challengeSequence sequence currentTimestamp challengeData
  -- the client once it has taken up the challenge
  generalize isAnswering : { c with
    time := time
    state := .sendingConnectionResponse
    challengeTokenSequence := challengeSequence
    challengeTokenData := challengeData
    lastPacketReceiveTime := time
    trace := trace } = answering at received
  have sends : sendPackets env { answering with time := time } = sendPacketToServerInternal env
      { answering with time := time } (.connectionResponse challengeSequence challengeData) := by
    subst isAnswering
    exact sendPackets_due due (.inr ⟨rfl, rfl⟩)
  refine ⟨sendPacketToServerInternal env answering (.connectionResponse challengeSequence challengeData),
    ?_, ?_, ?_⟩
  · rw [update_network network]
    unfold receivePackets
    rw [List.foldlM_cons, ← readKey, received, Option.bind_eq_bind, Option.bind_some]
    subst isAnswering
    show checkTimeouts env config (sendPackets env _) = _
    rw [sends]
    exact checkTimeouts_stays (.inr (not_le.mpr lasts)) stays (timedOut_eq_false isFloat rfl)
  · subst isAnswering
    exact ⟨rfl, network, rfl, hasKeys, readKey, writeKey, rfl, rfl, window, stays⟩
  · rw [← isAnswering, ← writeKey]
    rfl

/-- **The keep-alive connects the client.** -/
theorem Handshaking.update_keepAlive (quiet : config.NonReentrant)
    (handshaking : Handshaking token serverAddress start .sendingConnectionResponse c)
    (fromServer : source.Equal serverAddress = true) (isFloat : env.IsFloat64 time)
    (clientIndex maxClients : Int32) (currentTimestamp : UInt64) :
    ∃ c', update env config c time [⟨source, writePacket env
          (.connectionKeepAlive clientIndex maxClients) 0 token.serverToClientKey
          token.protocolID, currentTimestamp⟩] = some c' ∧
      c'.state = .connected ∧ c'.loopback = false ∧ c'.clientIndex = clientIndex.toInt ∧
      c'.maxClients = maxClients.toInt := by
  obtain ⟨state, network, rfl, hasKeys, readKey, writeKey, rfl, rfl, window, stays⟩ := handshaking
  have fresh : c.replayProtection.alreadyReceived 0 = false := by
    rw [window]
    rfl
  obtain ⟨trace, -, received⟩ := @hear_keepAlive env config { c with time := time } source quiet state
    hasKeys fromServer 0 fresh clientIndex maxClients currentTimestamp
  -- the client once it is connected
  generalize isConnected : { c with
    time := time
    state := .connected
    clientIndex := clientIndex.toInt
    maxClients := maxClients.toInt
    replayProtection := c.replayProtection.advanceSequence 0
    lastPacketReceiveTime := time
    trace := trace } = connected at received
  obtain ⟨isState, isToken, heard, isStays, isIndex, isMax⟩ := sendPackets_keeps env connected
  have sameTime := sendPackets_time env connected
  refine ⟨sendPackets env connected, ?_, isState.trans ?_,
    (sendPackets_loopback env connected).trans ?_, isIndex.trans ?_, isMax.trans ?_⟩
  · rw [update_network network]
    unfold receivePackets
    rw [List.foldlM_cons, ← readKey, received, Option.bind_eq_bind, Option.bind_some]
    show checkTimeouts env config (sendPackets env connected) = _
    refine checkTimeouts_stays (.inl (isState.trans ?_)) (isStays.trans ?_)
      (timedOut_eq_false ?_ (heard.trans ?_))
    · rw [← isConnected]
    · rw [← isConnected]
      exact stays
    · rw [sameTime, ← isConnected]
      exact isFloat
    · rw [sameTime, ← isConnected]
  all_goals rw [← isConnected]
  exact network

end Exchange

end Client

end Netcode
