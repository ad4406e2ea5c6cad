/-
**A client that connects once.**

With a token that lists one server, a `Connect` is one connection: it asks, answers a challenge, is
connected by a keep-alive, and when it leaves it is over. What the client did to get where it is, and
what it sealed on the way, can be read off its trace:

* `Established` — a client that is connected was challenged and then sent a keep-alive, both opened
  under the server-to-client key of its token;
* `FirstConnection`, `Run.firstConnection` — **the connection process over whole runs**, with the
  packets the client has sealed at each point of it.
-/

import Netcode.Client.Nonces
import Netcode.Codec.Packets

namespace Netcode.Client

variable {env : Platform} {connects : Bool} {config : ClientConfig} {c c' : Client}
  {token : ConnectToken}

/-- The tokens `Connect` took up. -/
def connections (trace : List ClientEffect) : List ConnectToken := trace.filterMap takesUp

/-- `Connect` took up no token but this one, and this one at most once. -/
def ConnectsOnce (token : ConnectToken) (trace : List ClientEffect) : Prop :=
  connections trace <:+ [token]

instance (token : ConnectToken) (trace : List ClientEffect) : Decidable (ConnectsOnce token trace) :=
  inferInstanceAs (Decidable (_ <:+ _))

theorem ConnectsOnce.of_suffix {before after : List ClientEffect} (suffix : before <:+ after)
    (once : ConnectsOnce token after) : ConnectsOnce token before :=
  (suffix.filterMap takesUp).trans once

/-- The token that was just taken up is the one, and there was none before. -/
theorem ConnectsOnce.first {token' : ConnectToken} {before : List ClientEffect}
    (once : ConnectsOnce token (.connecting token' :: before)) :
    token' = token ∧ connections before = [] := by
  have suffix : token' :: connections before <:+ [token] := once
  have short := suffix.length_le
  have none : connections before = [] := by
    rw [← List.length_eq_zero_iff]
    simpa using short
  rw [none] at suffix
  exact ⟨List.singleton_inj.mp (suffix.eq_of_length rfl), none⟩

/-- The client was challenged. -/
def Challenged (token : ConnectToken) (trace : List ClientEffect) : Prop :=
  ∃ later source call before challengeSequence challengeData sequence,
    trace = later ++ .state .sendingConnectionResponse :: .opened source call :: before ∧
      call.key = token.serverToClientKey ∧
      Decodes token.protocolID call (.connectionChallenge challengeSequence challengeData) sequence

theorem Challenged.grown {new trace : List ClientEffect} (challenged : Challenged token trace) :
    Challenged token (new ++ trace) := by
  obtain ⟨later, source, call, before, challengeSequence, challengeData, sequence, rfl, opened⟩ :=
    challenged
  exact ⟨new ++ later, source, call, before, challengeSequence, challengeData, sequence,
    (List.append_assoc _ _ _).symm, opened⟩

/-- It was challenged before it opened the last packet. -/
theorem Challenged.before_opened {source : Address} {call : AeadCall} {before : List ClientEffect}
    (challenged : Challenged token (.opened source call :: before)) : Challenged token before := by
  obtain ⟨later, source', call', before', challengeSequence, challengeData, sequence, isTrace,
    opened⟩ := challenged
  cases later with
  | nil => cases isTrace
  | cons effect later =>
    exact ⟨later, source', call', before', challengeSequence, challengeData, sequence,
      (List.cons_eq_cons.mp isTrace).2, opened⟩

/-- The packets of a client that is not connected: responses, and the disconnect packets. -/
def OnlyResponses (trace : List ClientEffect) : Prop :=
  ∀ p n call, .sealed p n call ∈ trace → p.packetType = .response ∨ p.packetType = .disconnect

/-- **The client was connected by a keep-alive**, having been challenged and having sealed nothing
but responses. -/
def Established (token : ConnectToken) (c : Client) : Prop :=
  ∃ later source call before clientIndex maxClients sequence,
    c.trace = later ++ .state .connected :: .opened source call :: before ∧
      call.key = token.serverToClientKey ∧
      Decodes token.protocolID call (.connectionKeepAlive clientIndex maxClients) sequence ∧
      c.clientIndex = clientIndex.toInt ∧ c.maxClients = maxClients.toInt ∧
      Challenged token before ∧ OnlyResponses before

theorem Established.grown (established : Established token c) {new : List ClientEffect}
    (trace : c'.trace = new ++ c.trace)
    (slot : c'.clientIndex = c.clientIndex ∧ c'.maxClients = c.maxClients) : Established token c' := by
  obtain ⟨later, source, call, before, clientIndex, maxClients, sequence, isTrace, key, decodes,
    isIndex, isMax, rest⟩ := established
  refine ⟨new ++ later, source, call, before, clientIndex, maxClients, sequence, ?_, key, decodes,
    slot.1.trans isIndex, slot.2.trans isMax, rest⟩
  rw [trace, isTrace, List.append_assoc]

/-- The client holds the keys of the token. -/
structure Holds (token : ConnectToken) (c : Client) : Prop where
  isToken : c.connectToken = token
  readKey : c.readPacketKey = token.serverToClientKey
  writeKey : c.writePacketKey = token.clientToServerKey

/-- **The one connection of a client.** -/
structure FirstConnection (env : Platform) (token : ConnectToken) (c : Client) : Prop where
  idle : connections c.trace = [] → ¬ c.Sending ∧ ∀ p n call, .sealed p n call ∉ c.trace
  holds : c.Sending → Holds token c
  seals : ∀ p n call, .sealed p n call ∈ c.trace → p.packetType ≠ .request ∧
    call = sealPacket env p n token.clientToServerKey token.protocolID ∧
      ∀ payload, p = .connectionPayload payload → .submitted payload n ∈ c.trace
  asking : c.Connecting → OnlyResponses c.trace
  challenged : c.state = .sendingConnectionResponse → Challenged token c.trace
  established : c.state = .connected → c.loopback = false → Established token c

theorem FirstConnection.new (env : Platform) (token : ConnectToken) (time : ℚ) :
    FirstConnection env token (new time) where
  idle := fun _ => ⟨fun sends => absurd sends.1 (lt_irrefl _), fun _ _ _ member => by cases member⟩
  holds := fun sends => absurd sends.1 (lt_irrefl _)
  seals := fun _ _ _ member => by cases member
  asking := fun connecting => absurd connecting.active (lt_irrefl _)
  challenged := fun state => by cases state
  established := fun state => by cases state

theorem not_connecting (state : c.state = .connected) : ¬ c.Connecting := by
  rintro (asks | answers)
  · cases state.symm.trans asks
  · cases state.symm.trans answers

/-- What was sealed before stays as it is. -/
theorem FirstConnection.sealed_grown (inv : FirstConnection env token c) {new : List ClientEffect}
    (trace : c'.trace = new ++ c.trace) (noSeal : ∀ p n call, .sealed p n call ∉ new) {p : Packet}
    {n : UInt64} {call : AeadCall} (member : .sealed p n call ∈ c'.trace) :
    .sealed p n call ∈ c.trace ∧ p.packetType ≠ .request ∧
      call = sealPacket env p n token.clientToServerKey token.protocolID ∧
      ∀ payload, p = .connectionPayload payload → .submitted payload n ∈ c'.trace := by
  rw [trace] at member ⊢
  have old := (List.mem_append.mp member).resolve_left (noSeal p n call)
  obtain ⟨encrypted, isSeal, submitted⟩ := inv.seals p n call old
  exact ⟨old, encrypted, isSeal, fun payload isPayload =>
    List.mem_append_right _ (submitted payload isPayload)⟩

/-- A step that seals nothing, takes up no token and leaves the connection as it is. -/
theorem FirstConnection.grown (inv : FirstConnection env token c) {new : List ClientEffect}
    (trace : c'.trace = new ++ c.trace) (noSeal : ∀ p n call, .sealed p n call ∉ new)
    (noToken : connections new = [])
    (state : c'.state = c.state ∧ c'.loopback = c.loopback)
    (holds : c'.connectToken = c.connectToken ∧ c'.readPacketKey = c.readPacketKey ∧
      c'.writePacketKey = c.writePacketKey)
    (slot : c'.clientIndex = c.clientIndex ∧ c'.maxClients = c.maxClients) :
    FirstConnection env token c' := by
  have sends : c'.Sending ↔ c.Sending := by
    rw [Sending, Sending, Active, Active, state.1, state.2]
  refine ⟨fun none => ?_, fun sending => ?_, fun p n call member => ?_, fun connecting => ?_,
    fun responding => ?_, fun connected network => ?_⟩
  · rw [connections, trace, List.filterMap_append, show List.filterMap takesUp new = [] from noToken,
      List.nil_append] at none
    rw [sends]
    exact ⟨(inv.idle none).1, fun p n call member =>
      (inv.idle none).2 p n call (inv.sealed_grown trace noSeal member).1⟩
  · obtain ⟨isToken, readKey, writeKey⟩ := inv.holds (sends.mp sending)
    exact ⟨holds.1.trans isToken, holds.2.1.trans readKey, holds.2.2.trans writeKey⟩
  · exact (inv.sealed_grown trace noSeal member).2
  · have before : c.Connecting := by rwa [Connecting, ← state.1]
    exact fun p n call member => inv.asking before p n call (inv.sealed_grown trace noSeal member).1
  · rw [trace]
    exact (inv.challenged (state.1 ▸ responding)).grown
  · exact (inv.established (state.1 ▸ connected) (state.2 ▸ network)).grown trace slot

/-- **A packet is sent** under the write key of the token. -/
theorem FirstConnection.send (inv : FirstConnection env token c) {p : Packet}
    {note : List ClientEffect} (sending : c.Sending) (kind : c.Sends p note) :
    FirstConnection env token
      (sendPacketToServerInternal env { c with trace := note ++ c.trace } p) := by
  have noted : FirstConnection env token { c with trace := note ++ c.trace } := by
    refine inv.grown rfl (fun p n call member => ?_) ?_ ⟨rfl, rfl⟩ ⟨rfl, rfl, rfl⟩ ⟨rfl, rfl⟩
    · cases kind <;> simp at member
    · cases kind <;> rfl
  obtain ⟨isToken, -, writeKey⟩ := inv.holds sending
  have isNew : ∀ {q n call}, .sealed q n call ∈
      (sendPacketToServerInternal env { c with trace := note ++ c.trace } p).trace →
      (q = p ∧ n = c.sequence ∧ p.packetType ≠ .request ∧
        call = sealPacket env p n token.clientToServerKey token.protocolID) ∨
      .sealed q n call ∈ note ++ c.trace := by
    intro q n call member
    rw [← writeKey, ← isToken]
    simp only [sendPacketToServerInternal, List.cons_append, List.mem_cons, reduceCtorEq, false_or,
      List.mem_append] at member
    rcases member with new | old
    · cases p <;> simp_all [sealing, Packet.packetType]
    · exact .inr (List.mem_append.mpr old)
  refine ⟨fun none => ?_, fun _ => ⟨isToken, (inv.holds sending).readKey, writeKey⟩,
    fun q n call member => ?_, fun connecting q n call member => ?_, fun state => ?_,
    fun state network => ?_⟩
  · have same : connections (sendPacketToServerInternal env { c with trace := note ++ c.trace } p).trace
        = connections c.trace := by
      cases kind <;> rfl
    exact absurd sending (inv.idle (same ▸ none)).1
  · rcases isNew member with ⟨rfl, rfl, encrypted, isSeal⟩ | old
    · refine ⟨encrypted, isSeal, fun payload isPayload => ?_⟩
      subst isPayload
      cases kind
      simp [sendPacketToServerInternal]
    · obtain ⟨encrypted, isSeal, submitted⟩ := noted.seals q n call old
      refine ⟨encrypted, isSeal, fun payload isPayload => ?_⟩
      exact List.mem_cons_of_mem _ (List.mem_append_right _ (submitted payload isPayload))
  · rcases isNew member with ⟨rfl, rfl, encrypted, -⟩ | old
    · cases kind with
      | request => exact absurd rfl encrypted
      | response => exact .inl rfl
      | disconnect => exact .inr rfl
      | keepAlive state => exact absurd connecting (not_connecting state)
      | payload payload state => exact absurd connecting (not_connecting state)
    · exact noted.asking connecting q n call old
  · rw [sendPacketToServerInternal_trace]
    exact (inv.challenged state).grown
  · exact (inv.established state network).grown (sendPacketToServerInternal_trace c p note)
      ⟨rfl, rfl⟩

/-- **Every step keeps it so**, with a token that lists one server. -/
theorem FirstConnection.micro (inv : FirstConnection env token c) (held : c.LoopbackConnected)
    (single : token.numServerAddresses = 1) (micro : Micro env connects c c')
    (once : ConnectsOnce token c'.trace) : FirstConnection env token c' := by
  cases micro with
  | tick | giveUp | hear | clear =>
    exact inv.grown (List.nil_append _).symm (fun _ _ _ member => by cases member) rfl ⟨rfl, rfl⟩
      ⟨rfl, rfl, rfl⟩ ⟨rfl, rfl⟩
  | openPacket source data currentTimestamp outcome call hasKeys reads isOpened =>
    exact inv.grown (show _ = [_] ++ c.trace from applyReading_trace isOpened) (by simp) rfl
      ⟨rfl, rfl⟩ ⟨rfl, rfl, rfl⟩ ⟨rfl, rfl⟩
  | sendLoopback payload =>
    exact inv.grown (show _ = [_] ++ c.trace from rfl) (by simp) rfl ⟨rfl, rfl⟩ ⟨rfl, rfl, rfl⟩
      ⟨rfl, rfl⟩
  | push source payload sequence | pushLoopback payload sequence =>
    exact inv.grown (pushPayload_trace c payload sequence) (by split_ifs <;> simp)
      (by split_ifs <;> rfl) ⟨rfl, rfl⟩ ⟨rfl, rfl, rfl⟩ ⟨rfl, rfl⟩
  | deliver =>
    exact inv.grown (receivePacket_trace c) (by split <;> simp) (by split <;> rfl) ⟨rfl, rfl⟩
      ⟨rfl, rfl, rfl⟩ ⟨rfl, rfl⟩
  | send p note active network kind => exact inv.send ⟨active, network⟩ kind
  | challenge source challengeTokenSequence challengeTokenData sequence call state fromServer
      packet =>
    have sending : c.Sending :=
      ⟨active_of_state _ state (by decide), Connecting.network (.inl state) held⟩
    have holds := inv.holds sending
    obtain ⟨before, isHead⟩ := packet.head
    refine ⟨fun none => absurd sending (inv.idle none).1, fun _ => ⟨holds.isToken, holds.readKey,
      holds.writeKey⟩, fun p n call member => ?_, fun _ p n call member => ?_, fun _ => ?_,
      fun impossible => (by cases impossible)⟩
    · exact (inv.sealed_grown (show _ = [_] ++ c.trace from rfl) (by simp) member).2
    · exact inv.asking (.inl state) p n call
        (inv.sealed_grown (show _ = [_] ++ c.trace from rfl) (by simp) member).1
    · exact ⟨[], source, call, before, challengeTokenSequence, challengeTokenData, sequence,
        congrArg (_ :: ·) isHead, packet.key.trans holds.readKey, packet.nonce,
        holds.isToken ▸ packet.decodes⟩
  | establish source clientIndex maxClients sequence call state fromServer packet =>
    have sending : c.Sending :=
      ⟨active_of_state _ state (by decide), Connecting.network (.inr state) held⟩
    have holds := inv.holds sending
    obtain ⟨before, isHead⟩ := packet.head
    have challenged := inv.challenged state
    have responses := inv.asking (.inr state)
    rw [isHead] at challenged responses
    refine ⟨fun none => absurd sending (inv.idle none).1, fun _ => ⟨holds.isToken, holds.readKey,
      holds.writeKey⟩, fun p n call member => ?_, fun connecting => absurd connecting
      (not_connecting rfl), fun impossible => (by cases impossible), fun _ _ => ?_⟩
    · exact (inv.sealed_grown (show _ = [_] ++ c.trace from rfl) (by simp) member).2
    · exact ⟨[], source, call, before, clientIndex, maxClients, sequence, congrArg (_ :: ·) isHead,
        packet.key.trans holds.readKey, ⟨packet.nonce, holds.isToken ▸ packet.decodes⟩, rfl, rfl,
        challenged.before_opened, fun p n call member =>
          responses p n call (List.mem_cons_of_mem _ member)⟩
  | begin data token' serverAddress allowed idle reads first =>
    obtain ⟨rfl, none⟩ := ConnectsOnce.first (once.of_suffix (List.suffix_cons _ _))
    refine ⟨fun impossible => (by cases impossible), fun _ => ⟨rfl, rfl, rfl⟩, fun p n call member => ?_,
      fun _ p n call member => ?_, fun impossible => (by cases impossible),
      fun impossible => (by cases impossible)⟩
    · exact (inv.sealed_grown (show _ = [_, _] ++ c.trace from rfl) (by simp) member).2
    · exact absurd (inv.sealed_grown (show _ = [_, _] ++ c.trace from rfl) (by simp) member).1
        ((inv.idle none).2 p n call)
  | reject data token' allowed idle reads =>
    have silent : ¬ ClientState.disconnected.code < ClientState.invalidConnectToken.code := by decide
    refine ⟨fun none => ⟨fun sends => silent sends.1, fun p n call member => ?_⟩,
      fun sends => absurd sends.1 silent, fun p n call member => ?_,
      fun connecting => absurd connecting.active silent, fun impossible => (by cases impossible),
      fun impossible => (by cases impossible)⟩
    · exact (inv.idle none).2 p n call
        (inv.sealed_grown (show _ = [_] ++ c.trace from rfl) (by simp) member).1
    · exact (inv.sealed_grown (show _ = [_] ++ c.trace from rfl) (by simp) member).2
  | nextServer serverAddress active network more next =>
    rw [(inv.holds ⟨active, network⟩).isToken, single] at more
    omega
  | reset destination idle last =>
    have silent : ¬ ClientState.disconnected.code < destination.code := not_lt.mpr idle
    refine ⟨fun none => ⟨fun sends => silent sends.1, fun p n call member => ?_⟩,
      fun sends => absurd sends.1 silent, fun p n call member => ?_,
      fun connecting => absurd connecting.active silent, fun responding => ?_,
      fun connected => ?_⟩
    · exact (inv.idle none).2 p n call
        (inv.sealed_grown (show _ = [_] ++ c.trace from rfl) (by simp) member).1
    · exact (inv.sealed_grown (show _ = [_] ++ c.trace from rfl) (by simp) member).2
    · exact absurd (active_of_state _ responding (by decide)) silent
    · exact absurd (active_of_state _ connected (by decide)) silent
  | connectLoopback clientIndex maxClients =>
    exact ⟨fun none => ⟨fun sends => (by cases sends.2), (inv.idle none).2⟩,
      fun sends => (by cases sends.2), inv.seals, fun connecting => absurd connecting
      (not_connecting rfl), fun impossible => (by cases impossible),
      fun _ impossible => (by cases impossible)⟩

theorem Run.firstConnection {calls : List Call} (quiet : config.NonReentrant)
    (single : token.numServerAddresses = 1) (run : Run env config calls c)
    (once : ConnectsOnce token c.trace) : FirstConnection env token c :=
  (Run.along (ConnectsOnce token) (fun c => c.LoopbackConnected ∧ FirstConnection env token c) quiet
    (fun _ _ suffix once => once.of_suffix suffix)
    (fun time => ⟨fun loopback => (by cases loopback), .new env token time⟩)
    (fun _ _ _ micro once held => ⟨micro.loopbackConnected held.1,
      held.2.micro held.1 single micro once⟩) run once).2

end Netcode.Client
