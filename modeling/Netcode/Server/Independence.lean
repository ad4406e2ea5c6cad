/-
**The clients are independent.**

Between its connection and its release, what the server does for a client of the network is a function
of the client's own line and of the calls made: who else is connected, what they send, when they come
and go makes no difference. `Line.step` is that function. It reads the datagrams that come from the
client's address with the keys and the replay window of the line, sends the keep-alives, and gives the
line up when the client says goodbye, when it is overdue, or when the application disconnects it.

* `Line.step` — the machine of one client;
* `Serves.read` — a datagram from the client's address does to the server what it does to the line;
* `Serves.keepsUp` — so does every call;
* `server_keeps_up_with_lines` — **and every sequence of calls**, from every state of the server: as
  long as the machine runs the line of the server is in its state, and the call at which it stops
  releases the slot.
-/

import Netcode.Server.Loopback
import Netcode.Server.Line

namespace Netcode

/-! ### The machine of one client -/

namespace Line

/-- The client was heard from. -/
def confirm (l : Line) : Line :=
  { l with slot := { l.slot with lastPacketReceiveTime := l.time, confirmed := true } }

/-- A packet of the client is processed; after a disconnect packet there is no line any more. -/
def process (p : Packet) (sequence : UInt64) (l : Line) : Option Line :=
  match p with
  | .connectionKeepAlive _ _ => some l.confirm
  | .connectionPayload payload => some (l.confirm.push payload sequence)
  | .connectionDisconnect => none
  | _ => some l

/-- What is left of the line after a reading. -/
def applyReading (outcome : ReadOutcome) (l : Line) : Option Line :=
  let l := { l with slot := { l.slot with
    replayProtection := outcome.replayProtection.getD l.slot.replayProtection } }
  match outcome.packet with
  | none => some l
  | some p => l.process p outcome.sequence

section Machine

variable (env : Platform) (protocolID : UInt64)

/-- A datagram from the client's address. Connection requests are not for the line: they are read with
the private key of the server. -/
def read (data : Bytes) (l : Line) : Option Line :=
  match readPacket env protocolID 0 0 Server.serverAllowedPackets data (some l.receiveKey) none
      (some l.slot.replayProtection) with
  | none => some l -- `readPacket` does not panic
  | some outcome => l.applyReading outcome

/-- A datagram from anywhere. -/
def datagram (source : Address) (data : Bytes) (l : Line) : Option Line :=
  if l.slot.address.Equal source then l.read env protocolID data else some l

instance (l : Line) : Decidable (l.Heard env) :=
  inferInstanceAs (Decidable (_ → _))

/-- The timeout check of `Update`. -/
def check (l : Line) : Option Line := if l.Heard env then some l else none

/-- **What a call does to the line** of the client in slot `i`. -/
def step (i : Nat) (l : Line) : Server.Call → Option Line
  | .update time _ batch => do
    let l ← batch.foldlM (fun l d => l.datagram env protocolID d.source d.data) { l with time := time }
    (l.upkeep env protocolID i).check env
  | .processPacket source data _ _ => l.datagram env protocolID source data
  | .sendPacket clientIndex payload =>
    if clientIndex = i ∧ 0 < payload.length ∧ payload.length ≤ MaxPacketSize then
      some (l.submit env protocolID i payload)
    else some l
  | .receivePacket clientIndex => some (if clientIndex = i then l.pop else l)
  | .disconnectClient clientIndex => if clientIndex = i then none else some l
  | .disconnectAllClients | .stop => none
  | .start maxClients _ _ =>
    if maxClients ≤ 0 ∨ (MaxClients : Int) < maxClients then some l else none
  | .connectLoopbackClient _ _ _ | .disconnectLoopbackClient _ | .processLoopbackPacket _ _ _ => some l

variable {env protocolID} {l l' : Line} {i : Nat}

/-- A client that was heard from in time stays. -/
theorem check_upkeep (heard : l.Heard env) :
    (l.upkeep env protocolID i).check env = some (l.upkeep env protocolID i) := by
  refine if_pos ?_
  unfold upkeep
  split_ifs
  · exact heard
  · exact heard

theorem step_update {time : ℚ} {currentTimestamp : UInt64} {batch : List Server.Datagram}
    (reads : batch.foldlM (fun l d => l.datagram env protocolID d.source d.data)
      { l with time := time } = some l') (heard : l'.Heard env) :
    l.step env protocolID i (.update time currentTimestamp batch) =
      some (l'.upkeep env protocolID i) := by
  rw [step, reads]
  exact check_upkeep heard

end Machine

end Line

namespace Server

variable {env : Platform} {config : ServerConfig} {s s' t u : Server} {source : Address} {i e j : Nat}

/-- **The slot was released** with its mapping on the way from `s` to `s'`. -/
def Released (i e : Nat) (s s' : Server) : Prop :=
  ∃ new, s'.trace = new ++ s.trace ∧ .released i e ∈ new

/-- **The server keeps up with the line** of the client in slot `i`: it is where the line is, or it has
released the slot. -/
inductive KeepsUp (i e : Nat) (s s' : Server) : Option Line → Prop
  | stays {l : Line} (serves : Serves s' i e) (same : s'.line i e = l) : KeepsUp i e s s' (some l)
  | leaves (released : Released i e s s') : KeepsUp i e s s' none

theorem Released.after (released : Released i e s t) (grows : t.trace <:+ u.trace) :
    Released i e s u := by
  obtain ⟨new, trace, member⟩ := released
  obtain ⟨newer, grown⟩ := grows
  exact ⟨newer ++ new, by rw [← grown, trace, List.append_assoc], List.mem_append_right _ member⟩

theorem Released.before (released : Released i e t u) (grows : s.trace <:+ t.trace) :
    Released i e s u := by
  obtain ⟨new, trace, member⟩ := released
  obtain ⟨older, grown⟩ := grows
  exact ⟨new ++ older, by rw [trace, ← grown, List.append_assoc], List.mem_append_left _ member⟩

theorem KeepsUp.of_stays {l : Line} (kept : Serves s' i e ∧ s'.line i e = l) :
    KeepsUp i e s s' (some l) := .stays kept.1 kept.2

theorem KeepsUp.kept {result : Option Line} {l : Line} (keepsUp : KeepsUp i e s s' result)
    (runs : result = some l) : Serves s' i e ∧ s'.line i e = l := by
  subst runs
  cases keepsUp with
  | stays serves same => exact ⟨serves, same⟩

theorem KeepsUp.released {result : Option Line} (keepsUp : KeepsUp i e s s' result)
    (stops : result = none) : Released i e s s' := by
  subst stops
  cases keepsUp with
  | leaves released => exact released

/-- Nothing happened. -/
theorem KeepsUp.idle (serves : Serves s i e) (same : some s = some s') :
    KeepsUp i e s s' (some (s.line i e)) := by
  cases same
  exact .stays serves rfl

theorem KeepsUp.before {result : Option Line} (keepsUp : KeepsUp i e t u result)
    (grows : s.trace <:+ t.trace) : KeepsUp i e s u result := by
  cases keepsUp with
  | stays serves same => exact .stays serves same
  | leaves released => exact .leaves (released.before grows)

theorem KeepsUp.bind {result : Option Line} {next : Line → Option Line}
    (first : KeepsUp i e s t result) (grown : s.trace <:+ t.trace) (grows : t.trace <:+ u.trace)
    (rest : Serves t i e → KeepsUp i e t u (next (t.line i e))) :
    KeepsUp i e s u (result.bind next) := by
  cases first with
  | stays serves same =>
    subst same
    exact (rest serves).before grown
  | leaves released => exact .leaves (released.after grows)

/-! ### The trace grows -/

/-- The slots are in order, and the trace has grown. -/
structure Advances (s s' : Server) : Prop where
  ok : s'.slotTable.Ok
  grows : s.trace <:+ s'.trace

theorem Advances.refl (ok : s.slotTable.Ok) : Advances s s := ⟨ok, List.suffix_rfl⟩

theorem Advances.trans (first : Advances s t) (second : Advances t u) : Advances s u :=
  ⟨second.ok, first.grows.trans second.grows⟩

theorem Advances.of_idle (ok : s.slotTable.Ok) (idle : some s = some s') : Advances s s' := by
  cases idle
  exact .refl ok

theorem Advances.loop {β : Type} {body : Server → β → Go Server}
    (each : ∀ t item t', t.slotTable.Ok → body t item = some t' → Advances t t') (items : List β)
    (ok : s.slotTable.Ok) (done : items.foldlM body s = some s') : Advances s s' :=
  @Trace.foldlM_keeps Server β (Advances s) body
    (fun t item t' held visits => held.trans (each t item t' held.ok visits)) items s s' (.refl ok) done

/-- **A loop keeps up with the line** if its body does. -/
theorem KeepsUp.loop {β : Type} {body : Server → β → Go Server} {change : Line → β → Option Line}
    (each : ∀ t item t', t.slotTable.Ok → body t item = some t' → Advances t t')
    (keepsUp : ∀ t item t', Serves t i e → body t item = some t' →
      KeepsUp i e t t' (change (t.line i e) item)) :
    ∀ (items : List β) {s s' : Server}, Serves s i e → items.foldlM body s = some s' →
      KeepsUp i e s s' (items.foldlM change (s.line i e))
  | [], s, s', serves, done => .idle serves done
  | item :: items, s, s', serves, done => by
    rw [List.foldlM_cons] at done ⊢
    obtain ⟨t, visits, rest⟩ := Option.bind_eq_some_iff.mp done
    have first := each s item t serves.ok visits
    exact (keepsUp s item t serves visits).bind first.grows (Advances.loop each items first.ok rest).grows
      fun servesT => KeepsUp.loop each keepsUp items servesT rest

/-- A datagram of any source. -/
theorem Advances.datagram (quiet : config.NonReentrant) (ok : s.slotTable.Ok) {data : Bytes}
    {currentTimestamp reading : UInt64}
    (done : readAndProcessPacket env config s source data currentTimestamp reading = some s') :
    Advances s s' := by
  obtain ⟨t, returns, accounted⟩ := readAndProcessPacket_slots env quiet ok source data
    currentTimestamp reading
  cases done.symm.trans returns
  obtain ⟨new, trace, -⟩ := accounted.shows
  exact ⟨ok.steps accounted.moves.table, new, trace.symm⟩

theorem sendClientPacket_grows {p : Packet} (done : sendClientPacket env config s p j = some s') :
    s.trace <:+ s'.trace := by
  obtain ⟨e', -, done⟩ := Option.bind_eq_some_iff.mp done
  split at done
  · cases done
    exact List.suffix_cons _ _
  · cases done
    exact (List.suffix_cons _ _).trans (List.suffix_cons _ _)

/-- **A client that is let go is released.** -/
theorem disconnectClientInternal_releases (quiet : config.NonReentrant) {sends : Bool}
    {reason : DisconnectReason} (mapped : (s.clients j).encryptionIndex = some e)
    (done : disconnectClientInternal env config s j sends reason = some s') : Released j e s s' := by
  let noted := s.setClient j { s.clients j with disconnectReason := reason }
  have index : (noted.clients j).encryptionIndex = some e := by simpa [noted, setClient] using mapped
  simp only [disconnectClientInternal, notify_eq quiet, Option.bind_eq_bind, Option.bind_some] at done
  obtain ⟨t, said, rest⟩ := Option.bind_eq_some_iff.mp done
  obtain ⟨e', isIndex, rest⟩ := Option.bind_eq_some_iff.mp rest
  cases rest
  have kept : (t.clients j).encryptionIndex = some e ∧ s.trace <:+ t.trace := by
    cases sends with
    | false =>
      cases said
      exact ⟨index, List.suffix_rfl⟩
    | true =>
      obtain ⟨u, returns, within⟩ := sendDisconnects_within (List.range numDisconnectPackets)
        (.refl env noted j) index
      cases said.symm.trans returns
      refine ⟨within.slot.encryptionIndex.trans index, ?_⟩
      exact @Trace.foldlM_keeps Server Nat (fun u => s.trace <:+ u.trace) _
        (fun _ _ _ held visits => held.trans (sendClientPacket_grows visits)) _ noted t
        List.suffix_rfl said
  obtain ⟨new, grown⟩ := kept.2
  rw [kept.1] at isIndex
  cases isIndex
  refine ⟨.released j e :: new, ?_, List.mem_cons_self⟩
  show .released j e :: t.trace = _
  rw [← grown, List.cons_append]

/-- Packets to clients of the network and their releases only add to the trace. -/
theorem Advances.pass (env : Platform) (quiet : config.NonReentrant) (s : Server) :
    Pass env config (Advances s) where
  send := by
    intro t t' j p before connected network done
    obtain ⟨e', mapped, -⟩ := mapped_address before.ok connected network
    obtain ⟨_, returns, within⟩ := sendClientPacket_within env config p mapped
    cases done.symm.trans returns
    exact before.trans ⟨before.ok.steps (within.moves before.ok connected).table,
      sendClientPacket_grows done⟩
  leave := by
    intro t t' j sends reason before connected network done
    obtain ⟨e', mapped, -⟩ := mapped_address before.ok connected network
    obtain ⟨_, returns, moves, -⟩ := disconnectClientInternal_moves env quiet before.ok connected
      network sends reason
    cases done.symm.trans returns
    obtain ⟨new, trace, -⟩ := disconnectClientInternal_releases quiet mapped done
    exact before.trans ⟨before.ok.steps moves.table, new, trace.symm⟩

/-! ### Datagrams -/

/-- A packet that is not a connection request is read alike with and without the private key. -/
theorem readPacket_encrypted {data : Bytes} {currentTimestamp least : UInt64}
    {allowed : PacketType → Bool} {key privateKey : Option Key} {window : Option ReplayProtection}
    {protocolID : UInt64} (notRequest : data.head? ≠ some PacketType.request.code) :
    readPacket env protocolID currentTimestamp least allowed data key privateKey window =
      readPacket env protocolID 0 0 allowed data key none window := by
  cases data with
  | nil => rfl
  | cons prefixByte rest =>
    have other : prefixByte ≠ PacketType.request.code := by simpa using notRequest
    simp only [readPacket, if_neg other]

/-- Connection requests are nothing to the line, and neither are datagrams of one byte. -/
theorem read_ignored {data : Bytes} {protocolID : UInt64} {l : Line}
    (ignored : data.head? = some PacketType.request.code ∨ data.length ≤ 1) :
    l.read env protocolID data = some l := by
  obtain ⟨outcome, reads, spec⟩ := readPacket_spec env protocolID 0 0 serverAllowedPackets data
    (some l.receiveKey) none (some l.slot.replayProtection)
  unfold Line.read
  rw [reads]
  cases spec with
  | ignored => rfl
  | request key _ _ _ isKey => cases isKey
  | encrypted key prefixByte _ sequenceData _ _ _ _ bytes notRequest _ _ _ range =>
    rw [bytes] at ignored
    rcases ignored with request | short
    · exact absurd (Option.some_inj.mp request) notRequest
    · simp only [List.cons_append, List.length_cons, List.length_append] at short
      omega

/-- **What the client wrote is processed**, if the replay window has not seen it. -/
theorem read_written {p : Packet} (fits : p.Sealable)
    (allowed : serverAllowedPackets p.packetType = true) {sequence protocolID : UInt64} {l : Line}
    (protects : p.packetType.replayProtected = true)
    (fresh : l.slot.replayProtection.alreadyReceived sequence = false) :
    l.read env protocolID (writePacket env p sequence l.receiveKey protocolID) =
      ({ l with slot := { l.slot with
          replayProtection := l.slot.replayProtection.advanceSequence sequence } } : Line).process p
        sequence := by
  unfold Line.read
  rw [readPacket_writePacket fits sequence _ allowed fun _ replay isReplay =>
    Option.some_inj.mp isReplay ▸ fresh]
  simp only [Line.applyReading, advanceReplay, if_pos protects]
  rfl

/-- A client that is connected asks for nothing: its requests are dropped. -/
theorem processConnectionRequestPacket_known {request : ConnectionRequest} {reading : UInt64}
    (known : s.findClientIndexByAddress source ≠ none)
    (done : processConnectionRequestPacket env config s source request reading = some s') : s' = s := by
  unfold processConnectionRequestPacket at done
  obtain ⟨token?, -, done⟩ := Option.bind_eq_some_iff.mp done
  cases token? with
  | none =>
    cases done
    rfl
  | some token =>
    dsimp only at done
    rw [if_pos known] at done
    split_ifs at done
    · cases done
      rfl
    · cases done
      rfl

/-- Its responses only show in the trace. -/
theorem processConnectionResponsePacket_known {challengeTokenSequence : UInt64}
    {challengeTokenData : FixedBytes challengeTokenBytes} {encryptionIndex : Option Nat}
    (known : s.findClientIndexByAddress source ≠ none)
    (done : processConnectionResponsePacket env config s source challengeTokenSequence
      challengeTokenData encryptionIndex = some s') :
    ∃ trace, s' = { s with trace := trace } ∧ sentDatagrams trace = sentDatagrams s.trace := by
  unfold processConnectionResponsePacket at done
  split at done
  · cases done
    exact ⟨s.trace, rfl, rfl⟩
  · obtain ⟨challenge?, -, done⟩ := Option.bind_eq_some_iff.mp done
    cases challenge? with
    | none =>
      cases done
      exact ⟨_, rfl, rfl⟩
    | some challenge =>
      cases encryptionIndex with
      | none =>
        cases done
        exact ⟨_, rfl, rfl⟩
      | some e =>
        dsimp only at done
        rw [if_pos (by exact known)] at done
        cases done
        exact ⟨_, rfl, rfl⟩

/-- The marks of a reading: the window of the slot, and the trace. -/
theorem applyReading_marks (s : Server) (source : Address) (currentTimestamp : UInt64) (i : Nat)
    {outcome : ReadOutcome} {window : ReplayProtection}
    (isWindow : outcome.replayProtection = some window) :
    ∃ trace, s.applyReading source currentTimestamp (some i) outcome =
        { s.setClient i { s.clients i with replayProtection := window } with trace := trace } ∧
      sentDatagrams trace = sentDatagrams s.trace ∧ s.trace <:+ trace := by
  refine ⟨(s.applyReading source currentTimestamp (some i) outcome).trace, ?_,
    applyReading_sends s source currentTimestamp (some i) outcome, ?_⟩
  · unfold applyReading setWindow recordReading
    rw [isWindow]
    split <;> rfl
  · unfold applyReading setWindow recordReading
    rw [isWindow]
    split
    · exact (List.suffix_cons _ _).trans (List.suffix_cons _ _)
    · exact List.suffix_cons _ _
    · exact List.suffix_rfl

namespace Serves

/-- **A packet from the client's address** does to the server what it does to the line. -/
theorem process (quiet : config.NonReentrant) (serves : Serves s i e)
    (fromPeer : (s.clients i).address.Equal source = true) {p : Packet} {sequence reading : UInt64}
    (done : processPacketInternal env config s source p sequence (some e) (some i) reading = some s') :
    KeepsUp i e s s' ((s.line i e).process p sequence) := by
  have known : s.findClientIndexByAddress source ≠ none := by
    rw [serves.found fromPeer]
    simp
  cases p with
  | connectionRequest request =>
    simp only [processPacketInternal] at done
    split_ifs at done
    · rw [processConnectionRequestPacket_known known done]
      exact .stays serves rfl
    · exact .idle serves done
  | connectionResponse challengeTokenSequence challengeTokenData =>
    simp only [processPacketInternal] at done
    split_ifs at done
    · obtain ⟨trace, rfl, silent⟩ := processConnectionResponsePacket_known known done
      exact .of_stays (serves.aside serves.ok rfl rfl (sentTo_congr silent _) rfl rfl)
    · exact .idle serves done
  | connectionDenied | connectionChallenge => exact .idle serves done
  | connectionKeepAlive clientIndex maxClients =>
    cases done
    exact .of_stays (serves.change (s.line i e).confirm.slot ⟨rfl, rfl, rfl, rfl, rfl, rfl⟩ s.trace)
  | connectionPayload payload =>
    cases done
    rw [confirmClient, pushPayload]
    obtain ⟨stays, same⟩ := serves.change ((s.line i e).confirm.push payload sequence).slot
      ⟨rfl, rfl, rfl, rfl, rfl, rfl⟩ ((if ((s.clients i).packetQueue.push payload sequence).2 then
        [.queued i payload sequence] else []) ++ s.trace)
    have unsent : sentDatagrams ((if ((s.clients i).packetQueue.push payload sequence).2 then
        [.queued i payload sequence] else []) ++ s.trace) = sentDatagrams s.trace := by
      split_ifs <;> rfl
    rw [sentTo_congr unsent] at same
    simp only [setClient, Function.update_self, Function.update_idem]
    revert stays same
    split_ifs
    · exact fun stays same => .stays stays same
    · exact fun stays same => .stays stays same
  | connectionDisconnect => exact .leaves (disconnectClientInternal_releases quiet serves.mapped done)

/-- **A datagram from the client's address** does to the server what it does to the line. -/
theorem read (quiet : config.NonReentrant) (serves : Serves s i e)
    (fromPeer : (s.clients i).address.Equal source = true) {data : Bytes}
    {currentTimestamp reading : UInt64}
    (done : readAndProcessPacket env config s source data currentTimestamp reading = some s') :
    KeepsUp i e s s' ((s.line i e).read env config.protocolID data) := by
  by_cases short : data.length ≤ 1
  · rw [read_ignored (.inr short)]
    unfold readAndProcessPacket at done
    dsimp only at done
    rw [if_neg (by simp [record, serves.running]), if_pos short] at done
    cases done
    exact .of_stays (serves.tick s.time (.datagram currentTimestamp source data) rfl)
  obtain ⟨outcome, reads, spec⟩ := readPacket_spec env config.protocolID currentTimestamp
    s.minConnectTokenExpireTimestamp serverAllowedPackets data (some (s.line i e).receiveKey)
    (some config.privateKey) (some (s.clients i).replayProtection)
  obtain ⟨window, isWindow⟩ : ∃ window, outcome.replayProtection = some window := by
    cases spec with
    | ignored | request => exact ⟨_, rfl⟩
    | encrypted key prefixByte type =>
      unfold advanceReplay
      split_ifs
      · exact ⟨_, rfl⟩
      · exact ⟨_, rfl⟩
  obtain ⟨trace, marks, silent, grown⟩ := applyReading_marks
    (s.record (.datagram currentTimestamp source data)) source currentTimestamp i isWindow
  obtain ⟨servesT, lineT⟩ := serves.change { s.clients i with replayProtection := window }
    ⟨rfl, rfl, rfl, rfl, rfl, rfl⟩ trace
  rw [sentTo_congr silent] at lineT
  rw [serves.reads fromPeer (by omega) reads marks.symm] at done
  have handled : KeepsUp i e s s' ((s.line i e).applyReading outcome) := by
    unfold Line.applyReading
    rw [isWindow]
    cases isPacket : outcome.packet with
    | none =>
      rw [isPacket] at done
      cases done
      exact .stays servesT lineT
    | some p =>
      rw [isPacket] at done
      have processed := servesT.process quiet (by simpa [setClient] using fromPeer) done
      rw [lineT] at processed
      exact processed.before (List.IsSuffix.trans (List.suffix_cons _ _) grown)
  by_cases request : data.head? = some PacketType.request.code
  · have nothing : (s.line i e).applyReading outcome = some (s.line i e) := by
      cases spec with
      | ignored | request => rfl
      | encrypted key prefixByte _ _ _ _ _ _ bytes notRequest =>
        rw [bytes] at request
        exact absurd (Option.some_inj.mp request) notRequest
    rw [read_ignored (.inl request), ← nothing]
    exact handled
  · rw [readPacket_encrypted request] at reads
    unfold Line.read
    rw [show (s.line i e).slot.replayProtection = (s.clients i).replayProtection from rfl, reads]
    exact handled

/-- **A datagram from anywhere.** -/
theorem datagram (quiet : config.NonReentrant) (serves : Serves s i e) {data : Bytes}
    {currentTimestamp reading : UInt64}
    (done : readAndProcessPacket env config s source data currentTimestamp reading = some s') :
    KeepsUp i e s s' ((s.line i e).datagram env config.protocolID source data) := by
  unfold Line.datagram
  split_ifs with fromPeer
  · exact serves.read quiet fromPeer done
  · exact .of_stays (serves.elsewhere quiet (Bool.eq_false_of_not_eq_true fromPeer) done)

end Serves

/-! ### Passes over the slots -/

/-- **A pass over the slots** that does something to the client in its own slot only. -/
theorem KeepsUp.forEachSlot {body : Server → Nat → Go Server} {change : Line → Option Line}
    (each : ∀ t j t', t.slotTable.Ok → body t j = some t' → Advances t t')
    (away : ∀ t j t', Serves t i e → j ≠ i → body t j = some t' → KeepsUp i e t t' (some (t.line i e)))
    (here : ∀ t t', Serves t i e → body t i = some t' → KeepsUp i e t t' (change (t.line i e)))
    (serves : Serves s i e) (done : Server.forEachSlot body s = some s') :
    KeepsUp i e s s' (change (s.line i e)) := by
  have small : i ∈ List.range MaxClients :=
    List.mem_range.mpr (serves.small.trans_le serves.ok.size)
  rw [← Trace.foldlM_only change List.nodup_range small]
  refine KeepsUp.loop (fun t j t' okT visits => ?_) (fun t j t' servesT visits => ?_) _ serves done
  · split_ifs at visits
    · exact each t j t' okT visits
    · exact .of_idle okT visits
  · by_cases isHere : j = i
    · subst isHere
      rw [if_pos rfl]
      rw [if_pos servesT.small] at visits
      exact here t t' servesT visits
    · rw [if_neg isHere]
      split_ifs at visits
      · exact away t j t' servesT isHere visits
      · exact .idle servesT visits

theorem disconnectLoopbackClient_trace (quiet : config.NonReentrant) {clientIndex : Int}
    (done : disconnectLoopbackClient config s clientIndex = some s') : s'.trace = s.trace := by
  simp only [disconnectLoopbackClient, notify_eq quiet, Option.bind_eq_bind, Option.bind_some] at done
  split at done
  · cases done
    rfl
  · split_ifs at done
    · cases done
      rfl
    · cases done
      rfl

/-- `Stop` starts with `DisconnectAllClients`. -/
theorem stop_leaves (quiet : config.NonReentrant) (running : s.running = true)
    (done : Server.stop env config s = some s') :
    ∃ t, Server.disconnectAllClients env config s = some t ∧ t.trace <:+ s'.trace := by
  unfold Server.stop at done
  rw [if_neg (by simp [running])] at done
  obtain ⟨t, leave, done⟩ := Option.bind_eq_some_iff.mp done
  obtain ⟨u, hosts, done⟩ := Option.bind_eq_some_iff.mp done
  cases done
  have grown : t.trace <:+ u.trace := by
    refine @Trace.foldlM_keeps Server Nat (fun v => t.trace <:+ v.trace) _ (fun v k v' held visits => ?_)
      _ t u List.suffix_rfl hosts
    dsimp only at visits
    split_ifs at visits
    · rwa [disconnectLoopbackClient_trace quiet visits]
    · cases visits
      exact held
    · cases visits
      exact held
  exact ⟨t, leave, grown.trans (List.suffix_cons _ _)⟩

namespace Serves

/-- **The keep-alives.** -/
theorem sendPackets (quiet : config.NonReentrant) (serves : Serves s i e)
    (done : Server.sendPackets env config s = some s') :
    KeepsUp i e s s' (some ((s.line i e).upkeep env config.protocolID i)) := by
  unfold Server.sendPackets at done
  rw [if_neg (by simp [serves.running])] at done
  refine @KeepsUp.forEachSlot s s' i e _ (fun l => some (l.upkeep env config.protocolID i))
    (fun t j t' okT visits => (Advances.pass env quiet t).keepAlive (.refl okT) visits)
    (fun t j t' servesT other visits => ?_) (fun t t' servesT visits => ?_) serves done
  · split_ifs at visits with due
    · simp only [Bool.and_eq_true, Bool.not_eq_true'] at due
      exact .of_stays (servesT.sends_other due.1.1 due.1.2 other visits).1
    · exact .idle servesT visits
  · simp only [servesT.connected, servesT.network, Bool.not_false, Bool.and_self, Bool.true_and,
      decide_eq_true_eq] at visits
    unfold Line.upkeep
    split_ifs at visits with due
    · rw [if_pos (by exact due)]
      exact .of_stays (servesT.sends visits)
    · rw [if_neg (by exact due)]
      exact .idle servesT visits

/-- **The timeouts.** -/
theorem check (quiet : config.NonReentrant) (serves : Serves s i e)
    (done : Server.checkForTimeouts env config s = some s') :
    KeepsUp i e s s' ((s.line i e).check env) := by
  unfold Server.checkForTimeouts at done
  rw [if_neg (by simp [serves.running])] at done
  refine KeepsUp.forEachSlot (fun t j t' okT visits => (Advances.pass env quiet t).timeout (.refl okT) visits)
    (fun t j t' servesT other visits => ?_) (fun t t' servesT visits => ?_) serves done
  · split_ifs at visits with gone never isLoopback late
    · exact .idle servesT visits
    · exact .idle servesT visits
    · exact .idle servesT visits
    · exact .of_stays (servesT.leave_other quiet (by simpa using gone) (by simpa using isLoopback) other
        visits)
    · exact .idle servesT visits
  · rw [servesT.connected, servesT.network] at visits
    simp only [Bool.not_true, Bool.false_eq_true, if_false] at visits
    unfold Line.check
    split_ifs at visits with never late
    · rw [if_pos (show (t.line i e).Heard env from fun positive =>
        absurd never (Int32.not_le.mpr positive))]
      exact .idle servesT visits
    · rw [if_neg fun heard => absurd late (not_le.mpr (heard (Int32.not_le.mp never)))]
      exact .leaves (disconnectClientInternal_releases quiet servesT.mapped visits)
    · rw [if_pos (show (t.line i e).Heard env from fun _ => not_le.mp late)]
      exact .idle servesT visits

/-- **The end of `Update`**, once the datagrams are read. -/
theorem sendAndCheck (quiet : config.NonReentrant) (serves : Serves s i e)
    (done : (Server.sendPackets env config s).bind (Server.checkForTimeouts env config) = some s') :
    KeepsUp i e s s' (((s.line i e).upkeep env config.protocolID i).check env) := by
  obtain ⟨t, sent, checked⟩ := Option.bind_eq_some_iff.mp done
  have sends := (Advances.pass env quiet s).sendPackets (.refl serves.ok) sent
  have checks := (Advances.pass env quiet t).checkForTimeouts (.refl sends.ok) checked
  exact (serves.sendPackets quiet sent).bind sends.grows checks.grows fun servesT =>
    servesT.check quiet checked

/-- **`DisconnectAllClients`.** -/
theorem disconnected (quiet : config.NonReentrant) (serves : Serves s i e)
    (done : Server.disconnectAllClients env config s = some s') : Released i e s s' := by
  unfold Server.disconnectAllClients at done
  rw [if_neg (by simp [serves.running])] at done
  have leaves := @KeepsUp.forEachSlot s s' i e _ (fun _ => none)
    (fun t j t' okT visits => (Advances.pass env quiet t).disconnect (.refl okT) visits)
    (fun t j t' servesT other visits => by
      split_ifs at visits with present
      · simp only [Bool.and_eq_true, Bool.not_eq_true'] at present
        exact .of_stays (servesT.leave_other quiet present.1 present.2 other visits)
      · exact .idle servesT visits)
    (fun t t' servesT visits => by
      rw [servesT.connected, servesT.network] at visits
      exact .leaves (disconnectClientInternal_releases quiet servesT.mapped visits)) serves done
  exact leaves.released rfl

/-- **`Update`.** -/
theorem updated (quiet : config.NonReentrant) (serves : Serves s i e) {time : ℚ}
    {currentTimestamp : UInt64} {batch : List Datagram}
    (done : Server.update env config s time currentTimestamp batch = some s') :
    KeepsUp i e s s' ((s.line i e).step env config.protocolID i
      (.update time currentTimestamp batch)) := by
  obtain ⟨t, received, finishes⟩ := Option.bind_eq_some_iff.mp done
  obtain ⟨u, sent, checked⟩ := Option.bind_eq_some_iff.mp finishes
  obtain ⟨servesR, lineR⟩ := serves.tick time (.clock currentTimestamp) rfl
  have each : ∀ t (d : Datagram) t', t.slotTable.Ok → readAndProcessPacket env config t d.source
      d.data currentTimestamp d.reading = some t' → Advances t t' :=
    fun _ _ _ okT visits => .datagram quiet okT visits
  have reads := @KeepsUp.loop i e Datagram _
    (fun l d => l.datagram env config.protocolID d.source d.data) each
    (fun t d t' servesT visits => servesT.datagram quiet visits) batch _ t servesR received
  have reading := Advances.loop each batch servesR.ok received
  have pass := Advances.pass env quiet t
  have finishing := pass.checkForTimeouts (pass.sendPackets (.refl reading.ok) sent) checked
  rw [lineR] at reads
  exact (reads.bind reading.grows finishing.grows fun servesT =>
    servesT.sendAndCheck quiet finishes).before (List.suffix_cons _ _)

/-! ### Calls that name a slot -/

/-- A payload to another client. -/
theorem submits_other (serves : Serves s i e) (connected : (s.clients j).connected = true)
    (network : (s.clients j).loopback = false) (other : j ≠ i) {payload : Bytes}
    (done : sendPayload env config s j payload = some s') :
    Serves s' i e ∧ s'.line i e = s.line i e := by
  obtain ⟨t, fronts, sends⟩ := Option.bind_eq_some_iff.mp done
  have first : (Serves t i e ∧ t.line i e = s.line i e) ∧ SameSession (s.clients j) (t.clients j) := by
    split_ifs at fronts
    · exact serves.sends_other connected network other fronts
    · cases fronts
      exact ⟨⟨serves, rfl⟩, .refl _⟩
  obtain ⟨servesN, lineN⟩ := first.1.1.tick t.time (.submitted j payload (t.clients j).sequence) rfl
  obtain ⟨stays, same⟩ := (servesN.sends_other (first.2.connected.trans connected)
    (first.2.loopback.trans network) other sends).1
  exact ⟨stays, same.trans (lineN.trans first.1.2)⟩

/-- **A call that names another slot** leaves the line as it is. -/
theorem named_other (quiet : config.NonReentrant) (serves : Serves s i e) (ok : s'.slotTable.Ok)
    (named : Named env config s j s') (other : j ≠ i) : KeepsUp i e s s' (some (s.line i e)) := by
  have slot := named.others quiet serves.ok other.symm
  cases named with
  | idle same => exact .idle serves same
  | submit payload connected network done =>
    exact .of_stays (serves.submits_other connected network other done)
  | leave connected network done =>
    exact .of_stays (serves.leave_other quiet connected network other done)
  | change _ trace _ silent done =>
    cases done
    exact .of_stays (serves.aside ok slot rfl (sentTo_congr silent _) rfl rfl)

/-- **A payload is sent to the client.** -/
theorem submits (serves : Serves s i e) {payload : Bytes}
    (done : sendPayload env config s i payload = some s') :
    Serves s' i e ∧ s'.line i e = (s.line i e).submit env config.protocolID i payload := by
  obtain ⟨t, fronts, sends⟩ := Option.bind_eq_some_iff.mp done
  have first : Serves t i e ∧ t.line i e = if (s.clients i).confirmed then s.line i e
      else (s.line i e).keepAlive env config.protocolID i := by
    cases confirmed : (s.clients i).confirmed with
    | true =>
      rw [confirmed] at fronts
      cases fronts
      exact ⟨serves, rfl⟩
    | false =>
      rw [confirmed] at fronts
      exact serves.sends fronts
  obtain ⟨servesN, lineN⟩ := first.1.tick t.time (.submitted i payload (t.clients i).sequence) rfl
  obtain ⟨stays, same⟩ := servesN.sends sends
  refine ⟨stays, same.trans ?_⟩
  rw [lineN]
  show Line.write env config.protocolID _ (t.line i e) = _
  rw [first.2]
  rfl

/-- The application takes the oldest payload. -/
theorem receives (serves : Serves s i e) : Serves (Server.receivePacket s i) i e ∧
    (Server.receivePacket s i).line i e = (s.line i e).pop := by
  have silent : sentDatagrams ((popped (s.clients i).packetQueue).map
      (fun entry => .delivered i entry.1 entry.2) ++ s.trace) = sentDatagrams s.trace := by
    rw [popped]
    cases (s.clients i).packetQueue.pop.2.1 <;> rfl
  obtain ⟨stays, same⟩ := serves.change ((s.line i e).pop).slot ⟨rfl, rfl, rfl, rfl, rfl, rfl⟩
    ((popped (s.clients i).packetQueue).map (fun entry => .delivered i entry.1 entry.2) ++ s.trace)
  rw [receivePacket_eq serves.valid serves.connected]
  refine ⟨stays, same.trans ?_⟩
  rw [sentTo_congr silent]
  rfl

/-- **A call that names the slot.** -/
theorem named (quiet : config.NonReentrant) (serves : Serves s i e) {call : Call}
    (isTarget : call.target = some (i : Int)) (done : step env config s call = some s') :
    KeepsUp i e s s' ((s.line i e).step env config.protocolID i call) := by
  cases call with
  | start | stop | processPacket | update | disconnectAllClients => cases isTarget
  | sendPacket clientIndex payload =>
    cases isTarget
    simp only [Line.step, true_and]
    simp only [step, Server.sendPacket, serves.valid, serves.connected, serves.network] at done
    by_cases fits : 0 < payload.length ∧ payload.length ≤ MaxPacketSize
    · rw [if_neg (by omega)] at done
      rw [if_pos fits]
      exact .of_stays (serves.submits done)
    · rw [if_pos (by omega)] at done
      rw [if_neg fits]
      exact .idle serves done
  | receivePacket clientIndex =>
    cases isTarget
    cases done
    simp only [Line.step, if_pos]
    exact .of_stays serves.receives
  | disconnectClient clientIndex =>
    cases isTarget
    simp only [Line.step, if_pos]
    simp only [step, disconnectClient, serves.valid, serves.connected, serves.network] at done
    exact .leaves (disconnectClientInternal_releases quiet serves.mapped done)
  | connectLoopbackClient clientIndex clientID userData =>
    cases isTarget
    simp only [step, connectLoopbackClient, serves.valid, serves.connected] at done
    exact .idle serves done
  | disconnectLoopbackClient clientIndex =>
    cases isTarget
    simp only [step, disconnectLoopbackClient, serves.valid, serves.connected, serves.network] at done
    exact .idle serves done
  | processLoopbackPacket clientIndex payload sequence =>
    cases isTarget
    simp only [step, processLoopbackPacket, serves.valid, serves.connected, serves.network] at done
    exact .idle serves done

/-- **`Stop`.** -/
theorem stopped (quiet : config.NonReentrant) (serves : Serves s i e)
    (done : Server.stop env config s = some s') : Released i e s s' := by
  obtain ⟨t, leave, grown⟩ := stop_leaves quiet serves.running done
  exact (serves.disconnected quiet leave).after grown

/-- A call that names another slot is nothing to the line. -/
theorem step_other {call : Call} {clientIndex : Int} {protocolID : UInt64} {l : Line}
    (isTarget : call.target = some clientIndex) (other : clientIndex ≠ i) :
    l.step env protocolID i call = some l := by
  cases call with
  | start | stop | processPacket | update | disconnectAllClients => cases isTarget
  | sendPacket =>
    cases isTarget
    exact if_neg fun both => other both.1
  | receivePacket =>
    cases isTarget
    exact congrArg some (if_neg other)
  | disconnectClient =>
    cases isTarget
    exact if_neg other
  | connectLoopbackClient | disconnectLoopbackClient | processLoopbackPacket => rfl

/-- **Every call keeps up with the line.** -/
theorem keepsUp (quiet : config.NonReentrant) (serves : Serves s i e) {call : Call}
    (done : step env config s call = some s') :
    KeepsUp i e s s' ((s.line i e).step env config.protocolID i call) := by
  cases isTarget : call.target with
  | some clientIndex =>
    by_cases here : clientIndex = i
    · exact serves.named quiet (isTarget.trans (congrArg some here)) done
    · rw [step_other isTarget here]
      cases valid : s.validSlot clientIndex with
      | none => exact .idle serves ((step_invalid isTarget valid).symm.trans done)
      | some k =>
        refine serves.named_other quiet
          (serves.ok.steps (step_moves (.of_quiet env quiet) serves.ok done).table)
          (step_named quiet isTarget valid done) ?_
        rintro rfl
        exact here (validSlot_index valid)
  | none =>
    cases call with
    | update time currentTimestamp batch => exact serves.updated quiet done
    | processPacket source data currentTimestamp reading =>
      obtain ⟨servesT, lineT⟩ := serves.tick s.time (.clock currentTimestamp) rfl
      have reads := servesT.datagram quiet done
      rw [lineT] at reads
      exact reads.before (List.suffix_cons _ _)
    | disconnectAllClients => exact .leaves (serves.disconnected quiet done)
    | stop => exact .leaves (serves.stopped quiet done)
    | start maxClients challengeKey reading =>
      simp only [Line.step]
      simp only [step, start, serves.running, if_true] at done
      split_ifs at done ⊢ with range
      · exact .idle serves done
      · obtain ⟨t, stops, done⟩ := Option.bind_eq_some_iff.mp done
        cases done
        exact .leaves ((serves.stopped quiet stops).after
          ((List.suffix_cons _ _).trans (List.suffix_cons _ _)))
    | sendPacket | receivePacket | disconnectClient | connectLoopbackClient | disconnectLoopbackClient
    | processLoopbackPacket => cases isTarget

/-- **Calls that the line survives.** -/
theorem run (quiet : config.NonReentrant) {l : Line} (calls : List Call) : ∀ {s : Server},
    Serves s i e → calls.foldlM (step env config) s = some t →
    calls.foldlM (Line.step env config.protocolID i) (s.line i e) = some l →
      Serves t i e ∧ t.line i e = l := by
  induction calls with
  | nil =>
    intro s serves done runs
    cases done
    cases runs
    exact ⟨serves, rfl⟩
  | cons call calls ih =>
    intro s serves done runs
    rw [List.foldlM_cons] at done runs
    obtain ⟨u, first, rest⟩ := Option.bind_eq_some_iff.mp done
    obtain ⟨lineU, steps, runs⟩ := Option.bind_eq_some_iff.mp runs
    obtain ⟨servesU, rfl⟩ := (serves.keepsUp quiet first).kept steps
    exact ih servesU rest runs

/-- A call that the line survives returns, if it sends no payload to another client. -/
theorem call (quiet : config.NonReentrant) (serves : Serves s i e) {call : Call} {l : Line}
    (own : ∀ clientIndex payload, call = .sendPacket clientIndex payload → clientIndex = i)
    (steps : (s.line i e).step env config.protocolID i call = some l) :
    ∃ s', step env config s call = some s' ∧ Serves s' i e ∧ s'.line i e = l := by
  rcases step_slots (.of_quiet env quiet) serves.ok call with
    ⟨s', returns, -⟩ | ⟨clientIndex, payload, j, isCall, valid, isLoopback, -⟩
  · exact ⟨s', returns, (serves.keepsUp quiet returns).kept steps⟩
  · rw [own clientIndex payload isCall, serves.valid] at valid
    cases valid
    rw [serves.network] at isLoopback
    cases isLoopback

end Serves

end Server

/-- A second client connects, is sent a payload, and is disconnected; the first is sent one too. -/
def Sample.secondVisits : List Server.Call :=
  [.update 1 1001 [⟨secondAddress, request second 1040, 1001⟩,
      ⟨secondAddress, response second second 1 1, 1001⟩],
    .sendPacket 1 [1, 2, 3],
    .sendPacket 0 [4, 5],
    .disconnectClient 1,
    .update 2 1002 [⟨firstAddress, [1, 2, 3], 1002⟩]]

namespace Server

variable {env : Platform} {config : ServerConfig} {s s' t : Server} {i e : Nat}

/-- **Clients are independent.** Take a client that is connected over the network, in any state of a
server, any calls made from there that the machine of the client survives, and one more call. The
server still serves the client, and its line is in the state of the machine; the one more call does to
the line what it does to the machine, and if the machine stops the server has released the slot. So
nothing that concerns the other clients makes a difference to this one. -/
theorem server_keeps_up_with_lines (quiet : config.NonReentrant) {before calls : List Call}
    {call : Call} {l : Line} (reached : Reached env config before s)
    (connected : (s.clients i).connected = true) (network : (s.clients i).loopback = false)
    (mapped : (s.clients i).encryptionIndex = some e)
    (done : calls.foldlM (step env config) s = some t)
    (runs : calls.foldlM (Line.step env config.protocolID i) (s.line i e) = some l)
    (last : step env config t call = some s') :
    ((t.clients i).connected = true ∧ (t.clients i).encryptionIndex = some e ∧ t.line i e = l) ∧
    (∀ l', l.step env config.protocolID i call = some l' →
      (s'.clients i).connected = true ∧ (s'.clients i).encryptionIndex = some e ∧
        s'.line i e = l') ∧
    (l.step env config.protocolID i call = none →
      ∃ new, s'.trace = new ++ t.trace ∧ .released i e ∈ new) := by
  have serves : Serves s i e := ⟨(reached.ok quiet).1, connected, network, mapped⟩
  obtain ⟨servesT, rfl⟩ := serves.run quiet calls done runs
  have keepsUp := servesT.keepsUp quiet last
  refine ⟨⟨servesT.connected, servesT.mapped, rfl⟩, fun l' steps => ?_, keepsUp.released⟩
  obtain ⟨stays, same⟩ := keepsUp.kept steps
  exact ⟨stays.connected, stays.mapped, same⟩

/-- A second client connects and leaves again, and then the first is disconnected. -/
theorem server_keeps_up_with_lines_second : ∃ s t s' : Server,
    Sample.secondVisits.foldlM (step samplePlatform Sample.config) s = some t ∧
      (t.clients 0).connected = true ∧
      Sample.secondVisits.foldlM (Line.step samplePlatform Sample.config.protocolID 0) (s.line 0 0) =
        some (t.line 0 0) ∧
      step samplePlatform Sample.config t (.disconnectClient 0) = some s' ∧
      ∃ new, s'.trace = new ++ t.trace ∧ .released 0 0 ∈ new := by
  have runs : (execute samplePlatform Sample.config Sample.server Sample.connectFirst).bind (fun s =>
      (Sample.secondVisits.foldlM (step samplePlatform Sample.config) s).bind fun t =>
        (step samplePlatform Sample.config t (.disconnectClient 0)).map fun _ => decide
          ((s.clients 0).connected = true ∧ (s.clients 0).loopback = false ∧
            (s.clients 0).encryptionIndex = some 0 ∧ (Sample.secondVisits.foldlM
              (Line.step samplePlatform Sample.config.protocolID 0) (s.line 0 0)).isSome)) =
      some true := by
    decide +kernel
  obtain ⟨s, done, rest⟩ := Option.bind_eq_some_iff.mp runs
  obtain ⟨t, visits, rest⟩ := Option.bind_eq_some_iff.mp rest
  obtain ⟨s', ends, facts⟩ := Option.map_eq_some_iff.mp rest
  obtain ⟨connected, network, mapped, returns⟩ := of_decide_eq_true facts
  obtain ⟨l, isLine⟩ := Option.isSome_iff_exists.mp returns
  obtain ⟨⟨stays, -, same⟩, -, leaves⟩ := server_keeps_up_with_lines Sample.config_nonReentrant
    (Sample.server_run.execute done).reached connected network mapped visits isLine ends
  exact ⟨s, t, s', visits, stays, same ▸ isLine, ends, leaves rfl⟩

end Server

end Netcode
