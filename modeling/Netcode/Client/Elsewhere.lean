/-
**Packets from elsewhere.**

The client acts on a packet only if it comes from the server it talks to, but it looks at the source
after `readPacket` has run, and `readPacket` has recorded the packet's number in the replay window by
then. So a datagram from elsewhere changes nothing but the window, and the window just if it is a
genuine keep-alive, payload or disconnect packet with a number that the window does not have
(`packet_from_elsewhere`).

All servers of a token share its keys, and each numbers its packets from zero. A late keep-alive of a
server the client has given up on takes the number of the next server's keep-alive, which is then
rejected (`keepAlive_lost_to_former_server`).
-/

import Netcode.Client.Fallback

namespace Netcode

namespace ReplayProtection

/-- **The window has a number**: it takes it for a replay, or has recorded it. A recorded number is taken
for a replay, unless it is the one that marks an empty cell. -/
def Has (r : ReplayProtection) (sequence : UInt64) : Prop :=
  r.alreadyReceived sequence = true ∨
    sequence ≤ r.mostRecentSequence ∧ r.receivedPacket (index sequence) = sequence

/-- Recording a number changes the window, unless it is there. -/
theorem advanceSequence_eq_self {r : ReplayProtection} {sequence : UInt64} :
    r.advanceSequence sequence = r ↔
      sequence ≤ r.mostRecentSequence ∧ r.receivedPacket (index sequence) = sequence := by
  constructor
  · intro same
    have cell := congrFun (congrArg receivedPacket same) (index sequence)
    have mostRecent := congrArg mostRecentSequence same
    simp only [advanceSequence, Function.update_self] at cell mostRecent
    refine ⟨?_, cell.symm⟩
    split_ifs at mostRecent with newer
    · rw [← mostRecent]
      exact UInt64.le_refl _
    · exact UInt64.not_lt.mp newer
  · rintro ⟨below, cell⟩
    unfold advanceSequence
    rw [if_neg (UInt64.not_lt.mpr below), Function.update_eq_self_iff.mpr cell.symm]

end ReplayProtection

namespace Client

variable {env : Platform} {config : ClientConfig} {c : Client}

/-- **A genuine packet**: its layout is that of an encrypted packet, with one to eight bytes for the
number, and it opens under the client's read key. -/
def Genuine (env : Platform) (c : Client) (data : Bytes) (type : PacketType) (sequence : UInt64) :
    Prop :=
  c.hasPacketKeys = true ∧ ∃ prefixByte sequenceData call,
    data = prefixByte :: sequenceData ++ call.ciphertext ∧
      PacketType.ofCode (prefixByte &&& 0xF) = some type ∧
      sequenceData.length = (prefixByte >>> 4).toNat ∧
      (1 ≤ sequenceData.length ∧ sequenceData.length ≤ 8) ∧
      sequence = UInt64.ofNat (LittleEndian.leNat sequenceData) ∧
      decryptAEAD env call.ciphertext (packetAdditionalData c.connectToken.protocolID prefixByte)
        (packetNonce sequence) c.readPacketKey = some call

/-- A packet that is not from the server is not acted on. -/
theorem processPacketInternal_elsewhere {source : Address}
    (elsewhere : source.Equal c.serverAddress = false) (p : Packet) (sequence : UInt64) :
    processPacketInternal config c source p sequence = some c := by
  have other : ¬ source.Equal c.serverAddress = true := by simp [elsewhere]
  cases p with
  | connectionRequest | connectionResponse => rfl
  | connectionKeepAlive => exact if_neg other
  | connectionDenied | connectionChallenge | connectionPayload | connectionDisconnect =>
    exact if_neg fun expected => other expected.2

/-- **A genuine packet with a new number** is recorded in the window. -/
theorem Genuine.recorded {data : Bytes} {type : PacketType} {sequence currentTimestamp : UInt64}
    {outcome : ReadOutcome} (genuine : Genuine env c data type sequence)
    (protects : type.replayProtected = true)
    (fresh : c.replayProtection.alreadyReceived sequence = false)
    (returns : readPacket env c.connectToken.protocolID currentTimestamp 0 clientAllowedPackets data
      (if c.hasPacketKeys then some c.readPacketKey else none) none (some c.replayProtection) =
        some outcome) :
    outcome.replayProtection = some (c.replayProtection.advanceSequence sequence) := by
  obtain ⟨hasKeys, prefixByte, sequenceData, call, rfl, isType, length, range, isSequence, opens⟩ :=
    genuine
  obtain ⟨packet, decodes⟩ := decodePacket_isSome type call.plaintext
  have allowed : clientAllowedPackets type = true := by
    cases type with
    | keepAlive | payload | disconnect => rfl
    | _ => cases protects
  rw [if_pos hasKeys, readPacket_opens isType allowed length range isSequence
    (fun _ _ isWindow => Option.some_inj.mp isWindow ▸ fresh) opens decodes] at returns
  cases returns
  exact if_pos protects

/-- **A datagram from elsewhere** changes nothing but the replay window; and it changes nothing at all
just if it is not a genuine packet under replay protection whose number the window does not have. -/
theorem packet_from_elsewhere (c : Client) (source : Address) (data : Bytes)
    (currentTimestamp : UInt64) (elsewhere : source.Equal c.serverAddress = false) :
    ∃ c', processPacket env config c source data currentTimestamp = some c' ∧
      c' = { c with replayProtection := c'.replayProtection, trace := c'.trace } ∧
      (c' = { c with trace := c'.trace } ↔
        ∀ type sequence, Genuine env c data type sequence → type.replayProtected = true →
          c.replayProtection.Has sequence) := by
  obtain ⟨outcome, returns, reads⟩ := readPacket_spec env c.connectToken.protocolID currentTimestamp
    0 clientAllowedPackets data (if c.hasPacketKeys then some c.readPacketKey else none) none
    (some c.replayProtection)
  have done : processPacket env config c source data currentTimestamp =
      some (c.applyReading source outcome) := by
    unfold processPacket
    simp only [returns, Option.bind_eq_bind, Option.bind_some]
    cases outcome.packet with
    | none => rfl
    | some packet =>
      exact @processPacketInternal_elsewhere config (c.applyReading source outcome) source elsewhere
        packet outcome.sequence
  refine ⟨_, done, rfl, fun unchanged type sequence genuine protects => ?_, fun known => ?_⟩
  · by_cases received : c.replayProtection.alreadyReceived sequence = true
    · exact .inl received
    · have window := genuine.recorded protects (by simpa using received) returns
      have same : outcome.replayProtection.getD c.replayProtection = c.replayProtection :=
        congrArg Client.replayProtection unchanged
      rw [window] at same
      exact .inr (ReplayProtection.advanceSequence_eq_self.mp same)
  cases reads with
  | ignored => rfl
  | request key request call allowed => cases allowed
  | encrypted key prefixByte type sequenceData sequence call packet isKey bytes notRequest isType
      allowed sequenceLength sequenceRange isSequence notReplayed opens decodes =>
    obtain ⟨hasKeys, isKey⟩ := Option.ite_none_right_eq_some.mp isKey
    cases isKey
    have same : (advanceReplay type sequence (some c.replayProtection)).getD c.replayProtection =
        c.replayProtection := by
      unfold advanceReplay
      split_ifs with protects
      · -- the window would have told such a packet from a new one
        rcases known type sequence ⟨hasKeys, prefixByte, sequenceData, call, bytes, isType,
          sequenceLength, sequenceRange, isSequence, opens⟩ protects with received | recorded
        · cases (notReplayed protects _ rfl).symm.trans received
        · exact ReplayProtection.advanceSequence_eq_self.mpr recorded
      · rfl
    simp only [applyReading, same]

end Client

/-! ### The packets of a former server -/

namespace Sample

/-- A client that the first of its two servers challenges and then leaves without an answer, until it
turns to the second one, which challenges it as well. -/
def challengedByBoth : List Client.Call :=
  [.connect twoServers,
    .update 1 [arrives serverAddress (.connectionChallenge 0 firstChallenge) globalSequenceStart],
    .update 12 [],
    .update 13 [arrives secondAddress (.connectionChallenge 0 firstChallenge) globalSequenceStart]]

/-- The first server's keep-alive, which arrives late, and the second one's. -/
def lateKeepAlive : Client.Datagram := arrives serverAddress (.connectionKeepAlive 0 2) 0
def keepAlive : Client.Datagram := arrives secondAddress (.connectionKeepAlive 1 2) 0

/-- A datagram is processed on its own. -/
def process (c : Client) (d : Client.Datagram) : Go Client :=
  c.processPacket samplePlatform clientConfig d.source d.data d.currentTimestamp

end Sample

namespace Client

/-- A denial of the former server is not under replay protection: it changes nothing. -/
theorem packet_from_elsewhere_denied : ∃ c c' calls,
    Run samplePlatform Sample.clientConfig calls c ∧ c.state = .sendingConnectionResponse ∧
      Sample.process c (Sample.arrives Sample.serverAddress .connectionDenied 0) = some c' ∧
      c' = { c with trace := c'.trace } := by
  have runs : (execute samplePlatform Sample.clientConfig (new 0) Sample.challengedByBoth).map
      (fun c => (c.state, Sample.serverAddress.Equal c.serverAddress)) =
        some (.sendingConnectionResponse, false) := by
    decide +kernel
  obtain ⟨c, done, facts⟩ := Option.map_eq_some_iff.mp runs
  simp only [Prod.mk.injEq] at facts
  obtain ⟨c', processed, -, unchanged⟩ := packet_from_elsewhere c Sample.serverAddress
    (Sample.arrives Sample.serverAddress .connectionDenied 0).data 1001 facts.2
  refine ⟨c, c', _, Run.execute (.new 0) done, facts.1, processed, unchanged.mpr ?_⟩
  rintro type sequence ⟨-, prefixByte, sequenceData, call, bytes, isType, -⟩ protected'
  have head : (Sample.arrives Sample.serverAddress .connectionDenied 0).data.head? = some 0x11 := by
    decide +kernel
  rw [bytes] at head
  cases Option.some_inj.mp head
  cases (show PacketType.ofCode (0x11 &&& 0xF) = some .denied by decide).symm.trans isType
  cases protected'

/-- **A late packet of a former server takes the number of the server's own packet.** The second
server's keep-alive would connect the client; after the first server's, of the same number, it is
rejected. -/
theorem keepAlive_lost_to_former_server : ∃ c calls late connected stuck,
    Run samplePlatform Sample.clientConfig calls c ∧
      Sample.lateKeepAlive.source.Equal c.serverAddress = false ∧
      Sample.process c Sample.lateKeepAlive = some late ∧
      c.replayProtection.alreadyReceived 0 = false ∧
      late.replayProtection.alreadyReceived 0 = true ∧
      Sample.process c Sample.keepAlive = some connected ∧ connected.state = .connected ∧
      Sample.process late Sample.keepAlive = some stuck ∧
      stuck.state = .sendingConnectionResponse := by
  have runs : (execute samplePlatform Sample.clientConfig (new 0) Sample.challengedByBoth).map
      (fun c => (Sample.lateKeepAlive.source.Equal c.serverAddress,
        c.replayProtection.alreadyReceived 0,
        (Sample.process c Sample.keepAlive).map Client.state,
        (Sample.process c Sample.lateKeepAlive).map fun late =>
          (late.replayProtection.alreadyReceived 0,
            (Sample.process late Sample.keepAlive).map Client.state))) =
      some (false, false, some .connected, some (true, some .sendingConnectionResponse)) := by
    decide +kernel
  obtain ⟨c, done, facts⟩ := Option.map_eq_some_iff.mp runs
  simp only [Prod.mk.injEq] at facts
  obtain ⟨elsewhere, fresh, connects, taken⟩ := facts
  obtain ⟨connected, processes, isConnected⟩ := Option.map_eq_some_iff.mp connects
  obtain ⟨late, processesLate, facts⟩ := Option.map_eq_some_iff.mp taken
  simp only [Prod.mk.injEq] at facts
  obtain ⟨stuck, rejects, isStuck⟩ := Option.map_eq_some_iff.mp facts.2
  exact ⟨c, _, late, connected, stuck, Run.execute (.new 0) done, elsewhere, processesLate, fresh,
    facts.1, processes, isConnected, rejects, isStuck⟩

end Client

end Netcode
