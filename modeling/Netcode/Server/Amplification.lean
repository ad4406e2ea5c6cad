/-
**The server is no amplifier.**

`ProcessPacket` answers a datagram with one datagram at most, to where it came from, and the answer is
shorter: a request has 1078 bytes and is answered by a challenge of at most 333 or a denial; a
response has at least 326 and is answered by a keep-alive of at most 33 or a denial; nothing else is
answered at all.

* `Replies` — at most one datagram is sent, and how long it can be;
* `no_amplification` — **over every state and every datagram**, with callbacks that may call back
  into the server as long as they send nothing.
-/

import Netcode.Codec.Packets
import Netcode.Model.Sample
import Netcode.Server.Handling

namespace Netcode

/-- The datagrams that were sent, newest first. -/
def sentDatagrams (trace : List Effect) : List (Address × Bytes) :=
  trace.filterMap fun
    | .sent destination data => some (destination, data)
    | _ => none

/-- **The callback sends nothing**, whatever else it does to the server. -/
def ServerConfig.Silent (config : ServerConfig) : Prop :=
  ∀ callback, config.connectDisconnectCallback = some callback → ∀ slot connected s s',
    callback slot connected s = some s' → sentDatagrams s'.trace = sentDatagrams s.trace

theorem ServerConfig.NonReentrant.silent {config : ServerConfig} (quiet : config.NonReentrant) :
    config.Silent := by
  intro callback isCallback slot connected s s' done
  rw [quiet.connectDisconnect callback isCallback slot connected s] at done
  cases done
  rfl

namespace Server

variable {env : Platform} {config : ServerConfig} {s s' s'' : Server} {i : Nat} {source : Address}
  {size : Nat}

/-- **At most one datagram is sent**, to `source` and of at most `size` bytes. -/
def Replies (source : Address) (size : Nat) (s s' : Server) : Prop :=
  sentDatagrams s'.trace = sentDatagrams s.trace ∨
    ∃ reply, sentDatagrams s'.trace = (source, reply) :: sentDatagrams s.trace ∧ reply.length ≤ size

theorem Replies.none (same : sentDatagrams s'.trace = sentDatagrams s.trace) :
    Replies source size s s' := .inl same

/-- Nothing is sent before. -/
theorem Replies.after (replies : Replies source size s' s'')
    (same : sentDatagrams s'.trace = sentDatagrams s.trace) : Replies source size s s'' := by
  rw [Replies, same] at replies
  exact replies

/-- Nothing is sent afterwards. -/
theorem Replies.before (replies : Replies source size s s')
    (same : sentDatagrams s''.trace = sentDatagrams s'.trace) : Replies source size s s'' := by
  rw [Replies, ← same] at replies
  exact replies

theorem Replies.shorter (replies : Replies source size s s') {length : Nat} (long : size < length) :
    sentDatagrams s'.trace = sentDatagrams s.trace ∨
      ∃ reply, sentDatagrams s'.trace = (source, reply) :: sentDatagrams s.trace ∧
        reply.length < length := by
  rcases replies with same | ⟨reply, sent, short⟩
  · exact .inl same
  · exact .inr ⟨reply, sent, short.trans_lt long⟩

theorem notify_silent (silent : config.Silent) {connected : Bool}
    (done : notify config s i connected = some s') :
    sentDatagrams s'.trace = sentDatagrams s.trace := by
  unfold notify at done
  cases isCallback : config.connectDisconnectCallback with
  | none =>
    rw [isCallback] at done
    cases done
    rfl
  | some callback =>
    rw [isCallback] at done
    exact silent callback isCallback i connected s s' done

/-! ### The replies -/

/-- A denial takes at most 25 bytes, a keep-alive 33 and a challenge 333. -/
theorem reply_length (sequence : UInt64) (key : Key) (protocolID : UInt64) :
    (writePacket env .connectionDenied sequence key protocolID).length ≤ 25 ∧
      (∀ clientIndex maxClients, (writePacket env (.connectionKeepAlive clientIndex maxClients)
        sequence key protocolID).length ≤ 33) ∧
      ∀ challengeSequence data, (writePacket env (.connectionChallenge challengeSequence data)
        sequence key protocolID).length ≤ 333 := by
  have few := sequenceNumberBytesRequired_le sequence
  refine ⟨?_, fun clientIndex maxClients => ?_, fun challengeSequence data => ?_⟩
  · have length := (@writePacket_length env .connectionDenied trivial sequence key protocolID).1
    have body : Packet.connectionDenied.body.length = 0 := rfl
    rw [length, body, MacBytes]
    omega
  · have length := (@writePacket_length env (.connectionKeepAlive clientIndex maxClients) trivial
      sequence key protocolID).1
    have body : (Packet.connectionKeepAlive clientIndex maxClients).body.length = 8 := by
      rw [Packet.body, List.length_append, uint32Bytes_length, uint32Bytes_length]
    rw [length, body, MacBytes]
    omega
  · have length := (@writePacket_length env (.connectionChallenge challengeSequence data) trivial
      sequence key protocolID).1
    have body : (Packet.connectionChallenge challengeSequence data).body.length = 308 := by
      rw [Packet.body, List.length_append, uint64Bytes_length, data.length_eq]
      rfl
    rw [length, body, MacBytes]
    omega

theorem sendGlobalPacket_replies {p : Packet} {key : Key}
    (short : (writePacket env p s.globalSequence key config.protocolID).length ≤ size) :
    Replies source size s (sendGlobalPacket env config s p source key) :=
  .inr ⟨_, rfl, short⟩

/-- A request is answered by a challenge or a denial. -/
theorem admitRequest_replies (request : ConnectionRequest) (token : ConnectTokenPrivate)
    (index : Nat) : Replies source 333 s (admitRequest env config s source request token index) := by
  unfold admitRequest
  split_ifs with full
  · exact sendGlobalPacket_replies ((reply_length _ _ _).1.trans (by decide))
  · cases s.encryptionManager.addEncryptionMapping env source token.serverToClientKey
      token.clientToServerKey s.time (mappingExpireTime env s token) token.timeoutSeconds index with
    | none => exact .none rfl
    | some manager =>
      refine (sendGlobalPacket_replies ?_).after rfl
      exact (reply_length _ _ _).2.2 _ _

theorem processConnectionRequestPacket_replies {request : ConnectionRequest} {reading : UInt64}
    (done : processConnectionRequestPacket env config s source request reading = some s') :
    Replies source 333 s s' := by
  rcases processConnectionRequestPacket_cases done with rfl | rfl | ⟨token, index, rfl⟩
  · exact .none rfl
  · exact .none rfl
  · exact (admitRequest_replies request token index).after rfl

theorem sendClientPacket_replies {p : Packet} (isSource : (s.clients i).address = source)
    (short : ∀ sequence key, (writePacket env p sequence key config.protocolID).length ≤ size)
    (done : sendClientPacket env config s p i = some s') : Replies source size s s' := by
  unfold sendClientPacket at done
  obtain ⟨e, -, done⟩ := Option.bind_eq_some_iff.mp done
  cases touched : s.encryptionManager.touch e (s.clients i).address s.time with
  | none =>
    rw [touched] at done
    cases done
    exact .none rfl
  | some manager =>
    rw [touched] at done
    cases done
    rw [← isSource]
    exact .inr ⟨_, rfl, short _ _⟩

/-- A client that is let in is sent a keep-alive. -/
theorem connectClient_replies (silent : config.Silent) {clientID : UInt64} {e : Nat}
    {timeoutSeconds : Int32} {userData : UserData}
    (done : connectClient env config s i source clientID e timeoutSeconds userData = some s') :
    Replies source 33 s s' := by
  unfold connectClient at done
  obtain ⟨middle, sends, calls⟩ := Option.bind_eq_some_iff.mp done
  have isSource : ((installClient s i source clientID e timeoutSeconds userData).clients i).address =
      source := by
    simp [installClient]
  have sent := sendClientPacket_replies isSource (fun sequence key => (reply_length sequence key
    config.protocolID).2.1 _ _) sends
  exact (sent.after rfl).before (notify_silent silent calls)

theorem processConnectionResponsePacket_replies (silent : config.Silent)
    {challengeTokenSequence : UInt64} {challengeTokenData : FixedBytes challengeTokenBytes}
    {encryptionIndex : Option Nat}
    (done : processConnectionResponsePacket env config s source challengeTokenSequence
      challengeTokenData encryptionIndex = some s') : Replies source 33 s s' := by
  obtain ⟨t, examined, outcome⟩ := processConnectionResponsePacket_cases done
  have same : sentDatagrams t.trace = sentDatagrams s.trace := by cases examined <;> rfl
  rcases outcome with rfl | ⟨key, rfl⟩ | ⟨i, clientID, e, timeoutSeconds, userData, connects⟩
  · exact .none same
  · exact (sendGlobalPacket_replies ((reply_length _ _ _).1.trans (by decide))).after same
  · exact (connectClient_replies silent connects).after same

/-- A client that leaves is sent nothing. -/
theorem disconnectClientInternal_sends (silent : config.Silent) {reason : DisconnectReason}
    (done : disconnectClientInternal env config s i false reason = some s') :
    sentDatagrams s'.trace = sentDatagrams s.trace := by
  unfold disconnectClientInternal at done
  obtain ⟨middle, calls, done⟩ := Option.bind_eq_some_iff.mp done
  simp only [Bool.false_eq_true, if_false, Option.bind_eq_bind, Option.bind_some] at done
  obtain ⟨e, -, done⟩ := Option.bind_eq_some_iff.mp done
  cases done
  have called := notify_silent silent calls
  exact called

theorem pushPayload_sends (s : Server) (i : Nat) (payload : Bytes) (sequence : UInt64) :
    sentDatagrams (s.pushPayload i payload sequence).trace = sentDatagrams s.trace := by
  unfold pushPayload
  dsimp only
  split_ifs <;> rfl

/-! ### Packets -/

/-- **A packet is answered by its kind.** -/
theorem processPacketInternal_replies (silent : config.Silent) {p : Packet} {sequence : UInt64}
    {encryptionIndex clientIndex : Option Nat} {reading : UInt64}
    (done : processPacketInternal env config s source p sequence encryptionIndex clientIndex reading =
      some s') :
    sentDatagrams s'.trace = sentDatagrams s.trace ∨
      p.packetType = .request ∧ Replies source 333 s s' ∨
      p.packetType = .response ∧ Replies source 33 s s' := by
  cases processPacketInternal_cases done with
  | dropped p same => exact .inl (by rw [same])
  | request request reading handles =>
    exact .inr (.inl ⟨rfl, processConnectionRequestPacket_replies handles⟩)
  | response _ _ _ handles =>
    exact .inr (.inr ⟨rfl, processConnectionResponsePacket_replies silent handles⟩)
  | keepAlive i _ _ heard => exact .inl (by rw [heard]; rfl)
  | payload i payload sequence heard =>
    rw [heard]
    exact .inl (pushPayload_sends _ i payload sequence)
  | disconnect i handles => exact .inl (disconnectClientInternal_sends silent handles)

theorem applyReading_sends (s : Server) (source : Address) (reading : UInt64)
    (clientIndex : Option Nat) (outcome : ReadOutcome) :
    sentDatagrams (s.applyReading source reading clientIndex outcome).trace =
      sentDatagrams s.trace := by
  have window : (s.setWindow clientIndex outcome.replayProtection).trace = s.trace := by
    unfold setWindow
    split <;> rfl
  unfold applyReading recordReading
  split
  · rw [← window]
    rfl
  · rw [← window]
    rfl
  · rw [window]

theorem locateMapping_trace (env : Platform) (s : Server) (source : Address)
    (clientIndex : Option Nat) : (locateMapping env s source clientIndex).2.trace = s.trace := by
  cases clientIndex <;> rfl

/-- A request has 1078 bytes, a response at least 326. -/
theorem datagram_length {protocolID currentTimestamp least : UInt64} {allowed : PacketType → Bool}
    {data : Bytes} {key privateKey : Option Key} {window : Option ReplayProtection}
    {outcome : ReadOutcome} {p : Packet}
    (reads : ReadsAs env protocolID currentTimestamp least allowed data key privateKey window outcome)
    (isPacket : outcome.packet = some p) :
    (p.packetType = .request → 1078 ≤ data.length) ∧
      (p.packetType = .response → 326 ≤ data.length) := by
  cases reads with
  | ignored => cases isPacket
  | request key request call allowed isKey bytes version protocol unexpired afterStart opens
      isData length =>
    cases isPacket
    refine ⟨fun _ => ?_, fun impossible => by cases impossible⟩
    have sealed := (decryptAEADBigNonce_eq_some opens).2.2.2.2
    rw [length] at sealed
    simp only [bytes, List.length_append, List.length_cons, uint64Bytes_length,
      versionInfo.length_eq, request.connectTokenNonce.length_eq, ← sealed]
    decide
  | encrypted key prefixByte type sequenceData sequence call packet isKey bytes notRequest isType
      allowed sequenceLength sequenceRange isSequence notReplayed opens decodes =>
    obtain rfl : packet = some p := isPacket
    refine ⟨fun isRequest => ?_, fun isResponse => ?_⟩
    · cases p with
      | connectionRequest => exact absurd decodes decodePacket_ne_request
      | _ => cases isRequest
    · have sealed := (decryptAEAD_eq_some opens).2.2.2.2
      obtain rfl : type = .response := (decodePacket_type decodes).symm.trans isResponse
      have plain : call.plaintext.length = 308 := by
        simp only [decodePacket] at decodes
        split_ifs at decodes with size
        · cases decodes
        · exact not_not.mp size
      rw [bytes, List.length_append, List.length_cons, ← sealed, plain, MacBytes]
      omega

/-- **The server is no amplifier.** Whatever state it is in and whatever it receives, `ProcessPacket`
sends nothing, or one datagram, to the source of the received one and strictly shorter than it. In
every state a run reaches, with callbacks that do not call back, it returns. -/
theorem no_amplification (silent : config.Silent) (s : Server) (source : Address) (data : Bytes)
    (currentTimestamp reading : UInt64) :
    (∀ s', processPacket env config s source data currentTimestamp reading = some s' →
      sentDatagrams s'.trace = sentDatagrams s.trace ∨
        ∃ reply, sentDatagrams s'.trace = (source, reply) :: sentDatagrams s.trace ∧
          reply.length < data.length) ∧
    (config.NonReentrant → ∀ calls, Run env config calls s →
      ∃ s', processPacket env config s source data currentTimestamp reading = some s') := by
  refine ⟨fun s' done => ?_, fun quiet calls run => ?_⟩
  · unfold processPacket readAndProcessPacket at done
    dsimp only at done
    have located : sentDatagrams (locateMapping env ((s.record (.clock currentTimestamp)).record
        (.datagram currentTimestamp source data)) source
        (s.findClientIndexByAddress source)).2.trace = sentDatagrams s.trace :=
      (congrArg sentDatagrams (locateMapping_trace env _ source _)).trans rfl
    split_ifs at done
    · cases done
      exact .inl rfl
    · cases done
      exact .inl rfl
    · cases done
      exact .inl located
    · obtain ⟨outcome, returns, done⟩ := Option.bind_eq_some_iff.mp done
      obtain ⟨outcome', returns', reads⟩ := readPacket_spec env config.protocolID currentTimestamp
        _ serverAllowedPackets data _ (some config.privateKey) _
      cases (returns.symm.trans returns')
      have same := (applyReading_sends _ source currentTimestamp
        (s.findClientIndexByAddress source) outcome).trans located
      cases isPacket : outcome.packet with
      | none =>
        rw [isPacket] at done
        cases done
        exact .inl same
      | some p =>
        rw [isPacket] at done
        obtain ⟨request, response⟩ := datagram_length reads isPacket
        rcases processPacketInternal_replies silent done with
          silentPacket | ⟨isRequest, replies⟩ | ⟨isResponse, replies⟩
        · exact .inl (silentPacket.trans same)
        · exact (replies.after same).shorter (lt_of_lt_of_le (by decide) (request isRequest))
        · exact (replies.after same).shorter (lt_of_lt_of_le (by decide) (response isResponse))
  · obtain ⟨s', returns, -⟩ := processPacket_leads quiet (run.binding quiet) source data
      currentTimestamp reading
    exact ⟨s', returns⟩

/-- A connection request is answered by a challenge. -/
theorem no_amplification_challenge :
    ∃ calls s s' reply, Run samplePlatform Sample.config calls s ∧
      processPacket samplePlatform Sample.config s Sample.firstAddress
        (Sample.request Sample.first 1040) 1001 1001 = some s' ∧
      sentDatagrams s'.trace = (Sample.firstAddress, reply) :: sentDatagrams s.trace ∧
      reply.length < (Sample.request Sample.first 1040).length := by
  have starts : (execute samplePlatform Sample.config Sample.server
      [.start 2 Sample.challengeKey 1000]).bind (fun s =>
        (processPacket samplePlatform Sample.config s Sample.firstAddress
          (Sample.request Sample.first 1040) 1001 1001).map fun s' =>
            decide (sentDatagrams s'.trace ≠ sentDatagrams s.trace)) = some true := by
    decide +kernel
  obtain ⟨s, done, processed⟩ := Option.bind_eq_some_iff.mp starts
  obtain ⟨s', returns, answers⟩ := Option.map_eq_some_iff.mp processed
  obtain ⟨reply, sent, short⟩ := ((no_amplification Sample.config_nonReentrant.silent s
    Sample.firstAddress (Sample.request Sample.first 1040) 1001 1001).1 s' returns).resolve_left
      (of_decide_eq_true answers)
  exact ⟨_, s, s', reply, Sample.server_run.execute done, returns, sent, short⟩

end Server

end Netcode
