/-
**Every call is a chain of atomic steps.**

From a state in which slots and mappings agree, every function of the server returns, and what it
does is a chain of the steps of `Netcode.Server.Atom`. The checks that the code makes between two
steps become the guards of the next one.

* `step_atoms` — **the public calls**: the only call that can panic is `SendPacket` to a loopback
  client without a `SendLoopbackPacketCallback`; every other call is a chain of atoms.
* `Run.binding` — slots and mappings agree in every state a run reaches.
* `Run.along` — **the invariant rule for runs**: what every atom keeps, under an assumption on the
  trace, holds in every state reached.
-/

import Netcode.Server.Binding
import Netcode.Server.Loops

namespace Netcode.Server

open Relation

section Chains

variable {env : Platform} {config : ServerConfig} {s : Server} {i : Nat}

/-- The function returns, through atomic steps. -/
def Leads (env : Platform) (config : ServerConfig) (s : Server) (result : Go Server) : Prop :=
  ∃ s', result = some s' ∧ ReflTransGen (Micro env config) s s'

theorem Leads.done (s : Server) : Leads env config s (some s) := ⟨s, rfl, .refl⟩

theorem Leads.step {middle : Server} {result : Go Server} (first : Micro env config s middle)
    (rest : Leads env config middle result) : Leads env config s result := by
  obtain ⟨s', returns, chain⟩ := rest
  exact ⟨s', returns, chain.head first⟩

theorem Leads.last {s' : Server} (micro : Micro env config s s') : Leads env config s (some s') :=
  .step micro (.done s')

/-- A chain of atomic steps keeps slots and mappings in agreement. -/
theorem Binding.steps {s' : Server} (inv : Binding env s)
    (chain : ReflTransGen (Micro env config) s s') : Binding env s' := by
  induction chain with
  | refl => exact inv
  | tail _ last ih => exact ih.micro last

/-- Atomic steps are atoms. -/
theorem atoms_of_micros {s' : Server} (chain : ReflTransGen (Micro env config) s s') :
    ReflTransGen (Atom env config) s s' :=
  ReflTransGen.mono (fun _ _ => Atom.micro) _ _ chain

/-! ### Sending to a client -/

/-- **`sendClientPacket` never fails its `touch` check** for a connected client. -/
theorem sendClientPacket_eq (config : ServerConfig) (inv : Binding env s)
    (connected : (s.clients i).connected = true)
    (network : (s.clients i).loopback = false) (p : Packet) :
    ∃ e, Bound s i e ∧ sendClientPacket env config s p i =
      some (writeToClient env config
        { s with encryptionManager := s.encryptionManager.access e s.time } p i
        (s.encryptionManager.mapping e).sendKey) := by
  obtain ⟨e, bound⟩ := inv.bound i connected network
  refine ⟨e, bound, ?_⟩
  have key : ((s.encryptionManager.access e s.time).mapping e).sendKey =
      (s.encryptionManager.mapping e).sendKey := by
    simp [EncryptionManager.access, EncryptionManager.set]
  simp [sendClientPacket, bound.index, EncryptionManager.touch, bound.address, key]

/-- What a disconnection leaves of the mapping table: the client's mapping is cleared, and of the
others only expired ones without a client may lose their address. -/
structure Cleared (env : Platform) (s s' : Server) (e : Nat) : Prop where
  here : s'.encryptionManager.mapping e =
    { (s.encryptionManager.mapping e).cleared with clientIndex := none }
  others : ∀ j, j ≠ e → s'.encryptionManager.mapping j = s.encryptionManager.mapping j ∨
    s'.encryptionManager.mapping j = (s.encryptionManager.mapping j).dropped ∧
      (s.encryptionManager.mapping j).expired env s.time = true ∧
      (s.encryptionManager.mapping j).clientIndex = none

/-- Between the start of a disconnection and the release of the slot. -/
structure Leaving (env : Platform) (s t : Server) (i e : Nat) : Prop where
  binding : Binding env t
  connected : (t.clients i).connected = true
  network : (t.clients i).loopback = false
  index : (t.clients i).encryptionIndex = some e
  maxClients : t.maxClients = s.maxClients
  running : t.running = s.running
  time : t.time = s.time
  slots : ∀ j, j ≠ i → t.clients j = s.clients j
  here : (t.encryptionManager.mapping e).cleared = (s.encryptionManager.mapping e).cleared
  mappings : ∀ j, j ≠ e → t.encryptionManager.mapping j = s.encryptionManager.mapping j

/-- The disconnect packets leave a connected slot and touch no other. -/
theorem Leaving.sends {t : Server} {e : Nat} (leaving : Leaving env s t i e) :
    ∃ t', (List.range numDisconnectPackets).foldlM
        (fun s _ => sendClientPacket env config s .connectionDisconnect i) t = some t' ∧
      ReflTransGen (Micro env config) t t' ∧ Leaving env s t' i e := by
  obtain ⟨t', returns, chain, held, -, -⟩ := Trace.foldlM_chain (Leaving env s · i e)
    (fun _ _ => True) (fun s (_ : Nat) => sendClientPacket env config s .connectionDisconnect i)
    (fun t _ held => by
      obtain ⟨e', bound, returns⟩ := sendClientPacket_eq config held.binding held.connected
        held.network .connectionDisconnect
      have isE : e' = e := Option.some_inj.mp (bound.index.symm.trans held.index)
      subst isE
      have micro : Micro env config t _ := .send t .connectionDisconnect i e' [] held.connected
        held.network bound.index .disconnect
      refine ⟨_, returns, .single micro, ⟨held.binding.micro micro, ?_, ?_, ?_, held.maxClients,
        held.running, held.time, fun j other => ?_, ?_, fun j other => ?_⟩, trivial,
        fun _ _ => trivial⟩
      · simpa [writeToClient] using held.connected
      · simpa [writeToClient] using held.network
      · simpa [writeToClient] using held.index
      · simpa [writeToClient, other] using held.slots j other
      · rw [← held.here]
        simp [writeToClient, EncryptionManager.access, EncryptionManager.set,
          EncryptionMapping.cleared]
      · rw [← held.mappings j other]
        simp [writeToClient, EncryptionManager.access, EncryptionManager.set, other])
    (List.range numDisconnectPackets) t leaving
  exact ⟨t', returns, chain, held⟩

/-- **A disconnection returns**: it empties the slot and clears its mapping. -/
theorem disconnectClientInternal_leads (quiet : config.NonReentrant) (inv : Binding env s)
    (connected : (s.clients i).connected = true) (network : (s.clients i).loopback = false)
    (sendDisconnectPackets : Bool) (reason : DisconnectReason) :
    ∃ s', disconnectClientInternal env config s i sendDisconnectPackets reason = some s' ∧
      ReflTransGen (Micro env config) s s' ∧ Vacated s s' i ∧
      ∀ e, (s.clients i).encryptionIndex = some e → Cleared env s s' e := by
  obtain ⟨e, boundS⟩ := inv.bound i connected network
  let noted := s.setClient i { s.clients i with disconnectReason := reason }
  have first : Micro env config s noted := .change s i _ _ (.reason reason)
  have slot : noted.clients i = { s.clients i with disconnectReason := reason } :=
    Function.update_self _ _ _
  have atFirst : Leaving env s noted i e :=
    ⟨inv.micro first, by rw [slot]; exact connected, by rw [slot]; exact network,
      by rw [slot]; exact boundS.index, rfl, rfl, rfl,
      fun j other => Function.update_of_ne other _ _, rfl, fun _ _ => rfl⟩
  have sends : ∃ t, (if sendDisconnectPackets then
        (List.range numDisconnectPackets).foldlM
          (fun s _ => sendClientPacket env config s .connectionDisconnect i) noted
      else some noted) = some t ∧ ReflTransGen (Micro env config) noted t ∧
      Leaving env s t i e := by
    cases sendDisconnectPackets with
    | false => exact ⟨noted, rfl, .refl, atFirst⟩
    | true => exact atFirst.sends
  obtain ⟨t, returns, chain, held⟩ := sends
  have bound := held.binding.boundAt held.connected held.network held.index
  have last : Micro env config t (releaseClient env t i e) :=
    .release t i e held.connected held.network held.index
  refine ⟨releaseClient env t i e, ?_, (chain.head first).tail last,
    ⟨held.maxClients, held.running, ?_, ?_⟩, fun e' isE => ?_⟩
  · have notified : notify config noted i false = some noted := notify_eq quiet noted i false
    simp only [disconnectClientInternal, Option.bind_eq_bind]
    rw [notified, Option.bind_some, returns, Option.bind_some, held.index, Option.bind_some]
    rfl
  · rw [releaseClient_slot]
    rfl
  · intro j other
    rw [releaseClient_others t i e other]
    exact held.slots j other
  · have same : e' = e := Option.some_inj.mp (isE.symm.trans boundS.index)
    subst same
    obtain ⟨-, here, others⟩ := held.binding.table.release (by rw [bound.client]; exact nofun)
      bound.address
    refine ⟨here.trans (by rw [held.here]), fun j other => ?_⟩
    rcases others j other with unchanged | ⟨gone, expired, free⟩
    · exact .inl (unchanged.trans (held.mappings j other))
    · rw [held.mappings j other] at gone expired free
      rw [held.time] at expired
      exact .inr ⟨gone, expired, free⟩

/-- A payload is pushed onto the queue of a slot. -/
theorem pushPayload_micro {payload : Bytes} {sequence : UInt64}
    (change : LocalChange config s i
      { s.clients i with packetQueue := ((s.clients i).packetQueue.push payload sequence).1 }
      (if ((s.clients i).packetQueue.push payload sequence).2 then [.queued i payload sequence]
        else [])) : Micro env config s (s.pushPayload i payload sequence) := by
  have micro : Micro env config s _ := .change s i _ _ change
  unfold pushPayload
  dsimp only
  split_ifs with accepted
  · rw [if_pos accepted] at micro
    exact micro
  · rw [if_neg accepted] at micro
    exact micro

/-- `SendPacket` to a client of the network: a keep-alive in front until it is confirmed. -/
theorem sendPayload_leads (inv : Binding env s) (connected : (s.clients i).connected = true)
    (network : (s.clients i).loopback = false) (payload : Bytes) :
    Leads env config s (sendPayload env config s i payload) := by
  -- the keep-alive in front, if the client is not confirmed yet
  have prefixed : ∃ t, (if !(s.clients i).confirmed then
        sendClientPacket env config s (s.keepAlivePacket i) i else some s) = some t ∧
      ReflTransGen (Micro env config) s t ∧ (t.clients i).connected = true ∧
      (t.clients i).loopback = false := by
    split_ifs
    · obtain ⟨e, bound, returns⟩ := sendClientPacket_eq config inv connected network
        (s.keepAlivePacket i)
      refine ⟨_, returns, .single (.send s _ i e [] connected network bound.index .keepAlive), ?_, ?_⟩
      · simpa [writeToClient] using connected
      · simpa [writeToClient] using network
    · exact ⟨s, rfl, .refl, connected, network⟩
  obtain ⟨t, returns, chain, connectedT, networkT⟩ := prefixed
  have noted := (inv.steps chain).record (.submitted i payload (t.clients i).sequence)
  obtain ⟨e, bound, sends⟩ := sendClientPacket_eq config noted
    (show ((t.record _).clients i).connected = true from connectedT) networkT
    (.connectionPayload payload)
  have last : Micro env config t _ := .send t (.connectionPayload payload) i e _ connectedT networkT
    bound.index (.payload payload)
  refine ⟨_, ?_, chain.tail last⟩
  unfold sendPayload
  rw [returns, Option.bind_eq_bind, Option.bind_some]
  exact sends

/-- **The loops over the slots follow the atomic steps.** -/
theorem stepwise (quiet : config.NonReentrant) :
    Stepwise env config (Micro env config) (Binding env) where
  keeps := Binding.micro
  size := Binding.slots
  inUse := Binding.inUse
  send := fun {s i} inv connected network => by
    obtain ⟨e, bound, returns⟩ := sendClientPacket_eq config inv connected network
      (s.keepAlivePacket i)
    exact ⟨_, returns, .single (.send s _ i e [] connected network bound.index .keepAlive)⟩
  leave := fun inv connected network sends reason => by
    obtain ⟨s', returns, chain, vacated, -⟩ := disconnectClientInternal_leads quiet inv connected
      network sends reason
    exact ⟨s', returns, chain, vacated.left⟩
  notifyLeft := fun {s i} _ _ => ⟨s, notify_eq quiet s i false, .refl, .refl s⟩
  notifyJoined := fun {s i} _ => ⟨s, notify_eq quiet s i true, .refl⟩
  quietLoopback := quiet.sendLoopback
  reason := fun {s i} _ _ reason => .single (.change s i _ _ (.reason reason))
  leaveLoopback := fun {s i} _ connected loopback => .single (.disconnectLoopback s i connected loopback)
  reset := fun {s} _ gone => .single (.reset s gone)
  start := fun {s maxClients} _ idle positive small challengeKey reading =>
    .single (.start s maxClients challengeKey reading idle positive small)
  submit := fun inv connected network payload => sendPayload_leads inv connected network payload
  sendLoopback := fun {s i} _ connected loopback payload =>
    .single (.change s i _ _ (.sendLoopback payload connected loopback))
  deliver := fun {s i} _ connected => by
    have micro : Micro env config s _ := .change s i _ _ (.deliver connected)
    unfold deliverPacket
    dsimp only
    revert micro
    cases (s.clients i).packetQueue.pop.2.1 with
    | none => exact .single
    | some payload => exact .single
  connectLoopback := fun {s i} _ small free clientID userData =>
    .single (.connectLoopback s i clientID userData small free)
  hearLoopback := fun {s i} _ _ loopback payload sequence => by
    have first : Micro env config s _ := .change s i _ _ (.hearLoopback loopback)
    refine (ReflTransGen.single first).tail (pushPayload_micro (.push payload sequence (.inl ?_)))
    simpa [setClient] using loopback

/-! ### The handshake -/

theorem connectClient_leads (quiet : config.NonReentrant) (inv : Binding env s) {source : Address}
    {e : Nat} {challenge : ChallengeToken} {challengeTokenSequence : UInt64} {call : AeadCall}
    (responding : Responding env s source e challenge challengeTokenSequence call)
    (strangerAddress : s.findClientIndexByAddress source = none)
    (strangerID : s.findClientIndexByID challenge.clientID = none)
    (found : s.encryptionManager.lookup env source s.time = some e)
    (free : s.findFreeClientIndex = some i) :
    Leads env config s (connectClient env config s i source challenge.clientID e
      (s.encryptionManager.mapping e).timeout challenge.userData) := by
  have first : Micro env config s _ := .install s source e i challenge challengeTokenSequence call
    responding strangerAddress strangerID found free
  refine .step first ?_
  unfold connectClient
  have invT := inv.micro first
  have slot : ((installClient s i source challenge.clientID e
      (s.encryptionManager.mapping e).timeout challenge.userData).clients i).connected = true ∧
      ((installClient s i source challenge.clientID e
        (s.encryptionManager.mapping e).timeout challenge.userData).clients i).loopback = false := by
    simp only [installClient, Function.update_self]
    exact ⟨trivial, inv.vacant i (findFreeClientIndex_eq_some free).2⟩
  generalize installClient s i source challenge.clientID e
    (s.encryptionManager.mapping e).timeout challenge.userData = t at *
  obtain ⟨e', bound, returns⟩ := sendClientPacket_eq config invT slot.1 slot.2 (t.keepAlivePacket i)
  have second : Micro env config t _ :=
    .send t (t.keepAlivePacket i) i e' [] slot.1 slot.2 bound.index .keepAlive
  refine .step second ?_
  dsimp only
  rw [returns, Option.bind_eq_bind, Option.bind_some, notify_eq quiet]
  exact .done _

theorem processConnectionResponsePacket_leads (quiet : config.NonReentrant) (inv : Binding env s)
    (running : s.running = true) {source : Address} {clientIndex : Option Nat} {e : Nat}
    {sequence challengeTokenSequence : UInt64} {data : FixedBytes challengeTokenBytes}
    {packetCall : AeadCall} (located : Located env s source clientIndex e)
    (packet : PacketOpened config s source e (.connectionResponse challengeTokenSequence data)
      sequence packetCall) :
    Leads env config s (processConnectionResponsePacket env config s source challengeTokenSequence
      data (some e)) := by
  unfold processConnectionResponsePacket
  cases opens : decryptChallengeToken env data challengeTokenSequence s.challengeKey with
  | none => exact .done s
  | some call =>
    have first : Micro env config s _ := .respond s source clientIndex e sequence
      challengeTokenSequence data packetCall call located packet opens
    refine .step first ?_
    have invT := inv.micro first
    obtain ⟨-, -, -, -, plain⟩ := decryptAEAD_eq_some opens
    obtain ⟨challenge, reads⟩ := ChallengeToken.read_isSome (call.plaintext ++
        data.bytes.drop (challengeTokenBytes - MacBytes)) (by
      rw [data.length_eq] at plain
      rw [List.length_append, List.length_drop, data.length_eq]
      simp only [challengeTokenBytes, MacBytes] at plain ⊢
      omega)
    dsimp only
    rw [reads, Option.bind_eq_bind, Option.bind_some]
    dsimp only
    have keys : Responding env ((s.record (.opened .challengeToken call)).record
        (.responded source challengeTokenSequence (s.encryptionManager.mapping e).sendKey
          (s.encryptionManager.mapping e).receiveKey)) source e challenge
        challengeTokenSequence call := by
      obtain ⟨reading, bytes, earlier, head⟩ := packet.head
      refine ⟨running, ⟨packetCall, reading, bytes, earlier, ?_, packet.key⟩,
        ⟨data, opens, reads⟩⟩
      show _ :: _ :: s.trace = _
      rw [head]
      rfl
    have foundIn : s.findClientIndexByAddress source = none →
        s.encryptionManager.lookup env source s.time = some e := by
      intro stranger
      obtain ⟨isIndex, mapped⟩ := located
      rw [stranger] at isIndex
      subst isIndex
      exact mapped
    split_ifs with known sameID full
    · exact .done _
    · exact .done _
    · rw [not_not] at known
      exact .last (.deny _ source _ running (.inr ⟨e, foundIn known, rfl⟩))
    · rw [not_not] at known sameID
      obtain ⟨i, free⟩ := invT.free full
      have free' : ((s.record (.opened .challengeToken call)).record (.responded source
        challengeTokenSequence
        ((s.record (.opened .challengeToken call)).encryptionManager.mapping e).sendKey
        ((s.record (.opened .challengeToken call)).encryptionManager.mapping e).receiveKey)
        ).findFreeClientIndex = some i := free
      rw [free', Option.bind_eq_bind, Option.bind_some]
      exact connectClient_leads quiet invT keys known sameID (foundIn known) free

theorem processConnectionRequestPacket_leads {source : Address} {request : ConnectionRequest}
    {call : AeadCall} {batchReading : UInt64} {earlier : List Effect} (reading : UInt64)
    (running : s.running = true)
    (head : s.trace = .requested source request batchReading call :: earlier) :
    Leads env config s (processConnectionRequestPacket env config s source request reading) := by
  unfold processConnectionRequestPacket
  obtain ⟨token?, reads⟩ := ConnectTokenPrivate.read_isSome request.connectTokenData
  rw [reads, Option.bind_eq_bind, Option.bind_some]
  cases token? with
  | none => exact .done s
  | some token =>
    dsimp only
    split_ifs with unlisted known sameID
    · exact .done s
    · exact .done s
    · exact .done s
    rw [not_not] at known sameID
    have listed : s.serverAddressListed token = true := by simpa using unlisted
    have asking : Asking s source request token :=
      ⟨running, ⟨batchReading, call, earlier, head⟩, reads, listed, known, sameID⟩
    have asks : Micro env config s _ := .ask s source request token reading asking
    cases admits : (consult s source request reading).2 with
    | historyFull => exact .last asks
    | refused => exact .last asks
    | entry index =>
      -- the request stays in the trace of this run
      have presented : ∀ manager, Presented
          { noteRequest s source request reading with encryptionManager := manager }
          source request token := by
        refine fun manager => ⟨⟨batchReading, call, ?_⟩, reads, listed⟩
        show _ ∈ thisRun (.clock reading :: s.trace)
        rw [head, thisRun_cons rfl, thisRun_cons rfl]
        exact List.mem_cons_of_mem _ List.mem_cons_self
      show Leads env config s (some (admitRequest env config
        (noteRequest s source request reading) source request token index))
      unfold admitRequest
      split_ifs with full
      · exact .step asks (.last (.deny _ source _ running
          (.inl ⟨request, token, presented s.encryptionManager, rfl⟩)))
      · cases added : (noteRequest s source request reading).encryptionManager.addEncryptionMapping
            env source token.serverToClientKey token.clientToServerKey
            (noteRequest s source request reading).time
            (mappingExpireTime env (noteRequest s source request reading) token)
            token.timeoutSeconds index with
        | none => exact .last asks
        | some manager =>
          exact .step (.grant s source request token reading index manager asking admits full added)
            (.last (.issue _ source request token running (presented manager)))

/-! ### Packets -/

/-- The search by address looks at sessions only. -/
theorem findClientIndexByAddress_congr (s s' : Server) (maxClients : s'.maxClients = s.maxClients)
    (slots : ∀ j, SameSession (s.clients j) (s'.clients j)) (source : Address) :
    s'.findClientIndexByAddress source = s.findClientIndexByAddress source := by
  unfold findClientIndexByAddress
  rw [maxClients]
  congr 1
  funext j
  rw [(slots j).connected, (slots j).address]

/-- A mapping that was found is found again after it was accessed. -/
theorem lookup_access {m : EncryptionManager} {source : Address} {time : ℚ} {e : Nat}
    (isFloat : env.IsFloat64 time) (found : m.lookup env source time = some e) :
    (m.access e time).lookup env source time = some e := by
  obtain ⟨small, equal, live, earlier⟩ := EncryptionManager.lookup_eq_some.mp found
  have here : (m.access e time).mapping e = { m.mapping e with lastAccessTime := time } :=
    Function.update_self _ _ _
  have others : ∀ j, j ≠ e → (m.access e time).mapping j = m.mapping j :=
    fun j other => Function.update_of_ne other _ _
  refine EncryptionManager.lookup_eq_some.mpr ⟨small, ?_, ?_, fun p less same => ?_⟩
  · rw [here]
    exact equal
  · -- the time of the access plus a positive timeout does not round below that time
    rw [here]
    simp only [EncryptionMapping.expired, Bool.or_eq_false_iff, Bool.and_eq_false_imp,
      decide_eq_true_eq, decide_eq_false_iff_not] at live ⊢
    refine ⟨fun positive => ?_, live.2⟩
    exact not_lt.mpr (isFloat.le_add (seconds_nonneg (Int32.le_of_lt positive)))
  · rw [others p (by omega)] at same ⊢
    exact earlier p less same

/-- A packet that was opened is processed. -/
theorem processPacketInternal_leads (quiet : config.NonReentrant) (inv : Binding env s)
    (running : s.running = true) {source : Address} {clientIndex : Option Nat} {e : Nat}
    {packet : Packet} {sequence : UInt64} {call : AeadCall} (reading : UInt64)
    (notRequest : ∀ request, packet ≠ .connectionRequest request)
    (located : Located env s source clientIndex e)
    (opened : PacketOpened config s source e packet sequence call) :
    Leads env config s (processPacketInternal env config s source packet sequence (some e)
      clientIndex reading) := by
  have onNetwork : ∀ i, clientIndex = some i →
      (s.clients i).connected = true ∧ (s.clients i).loopback = false := by
    rintro i rfl
    exact inv.found located.1
  cases packet with
  | connectionRequest request => exact absurd rfl (notRequest request)
  | connectionDenied => cases clientIndex <;> exact .done s
  | connectionChallenge => cases clientIndex <;> exact .done s
  | connectionResponse challengeTokenSequence data =>
    show Leads env config s (if s.flags &&& serverFlagIgnoreConnectionResponsePackets = 0 then _
      else some s)
    split_ifs
    · exact processConnectionResponsePacket_leads quiet inv running located opened
    · exact .done s
  | connectionKeepAlive =>
    cases clientIndex with
    | none => exact .done s
    | some i => exact .last (.change s i _ _ .hear)
  | connectionPayload payload =>
    cases clientIndex with
    | none => exact .done s
    | some i =>
      have first : Micro env config s (s.confirmClient i) := .change s i _ _ .hear
      refine .step first ?_
      have slots : ∀ j, SameSession (s.clients j) ((s.confirmClient i).clients j) :=
        SameSession.update ⟨rfl, rfl, rfl, rfl, rfl, rfl⟩
      have second : Micro env config (s.confirmClient i) _ :=
        pushPayload_micro (.push payload sequence (.inr ⟨source, e, call,
          (findClientIndexByAddress_congr s (s.confirmClient i) rfl slots source).trans located.1,
          (slots i).encryptionIndex.trans located.2,
          ⟨opened.head, opened.key, opened.nonce, opened.decodes⟩⟩))
      exact .last second
  | connectionDisconnect =>
    cases clientIndex with
    | none => exact .done s
    | some i =>
      obtain ⟨connected, network⟩ := onNetwork i rfl
      obtain ⟨s', returns, chain, -⟩ := disconnectClientInternal_leads quiet inv connected network
        false .clientDisconnect
      exact ⟨s', returns, chain⟩

/-- Locating the mapping of a datagram is at most one step. -/
theorem locateMapping_leads (config : ServerConfig) (inv : Binding env s) (source : Address) :
    ∃ manager, (locateMapping env s source (s.findClientIndexByAddress source)).2 =
        { s with encryptionManager := manager } ∧
      ReflTransGen (Micro env config) s { s with encryptionManager := manager } ∧
      ∀ e, (locateMapping env s source (s.findClientIndexByAddress source)).1 = some e →
        Located env { s with encryptionManager := manager } source
          (s.findClientIndexByAddress source) e := by
  cases isIndex : s.findClientIndexByAddress source with
  | some i => exact ⟨s.encryptionManager, rfl, .refl, fun e mapped => ⟨isIndex, mapped⟩⟩
  | none =>
    unfold locateMapping EncryptionManager.findEncryptionMapping
    cases found : s.encryptionManager.lookup env source s.time with
    | none => exact ⟨s.encryptionManager, rfl, .refl, nofun⟩
    | some e =>
      refine ⟨s.encryptionManager.access e s.time, rfl,
        .single (.refresh s source e isIndex found), ?_⟩
      rintro e' ⟨⟩
      exact ⟨isIndex, lookup_access inv.isFloat found⟩

/-- **What a datagram does**: nothing, refresh its mapping, or open something and go on from there. -/
theorem readAndProcessPacket_cases (quiet : config.NonReentrant) (inv : Binding env s)
    (source : Address) (data : Bytes) (currentTimestamp reading : UInt64) {t : Server}
    (arrived : t = s.record (.datagram currentTimestamp source data)) :
    readAndProcessPacket env config s source data currentTimestamp reading = some t ∨
      readAndProcessPacket env config s source data currentTimestamp reading =
        some (locateMapping env t source (t.findClientIndexByAddress source)).2 ∨
      ∃ u kind call new,
        Micro env config (locateMapping env t source (t.findClientIndexByAddress source)).2 u ∧
        u.trace = new ++ t.trace ∧ .opened kind call ∈ new ∧
        Leads env config u
          (readAndProcessPacket env config s source data currentTimestamp reading) := by
  have invT := inv.record (.datagram currentTimestamp source data)
  have head : ∃ earlier, t.trace = .datagram currentTimestamp source data :: earlier :=
    ⟨s.trace, by rw [arrived]; rfl⟩
  unfold readAndProcessPacket
  rw [← arrived] at invT ⊢
  clear arrived
  dsimp only
  by_cases stopped : (!t.running) = true
  · rw [if_pos stopped]
    exact .inl rfl
  by_cases short : data.length ≤ 1
  · rw [if_neg stopped, if_pos short]
    exact .inl rfl
  rw [if_neg stopped, if_neg short]
  right
  have running : t.running = true := by simpa using stopped
  obtain ⟨manager, isState, chain, located⟩ := locateMapping_leads config invT source
  rcases hLocate : locateMapping env t source (t.findClientIndexByAddress source) with ⟨index, after⟩
  rw [hLocate] at isState located
  dsimp only at isState located ⊢
  subst isState
  have invU := invT.steps chain
  -- from here on the state is the one after the mapping was located
  generalize hIndex : t.findClientIndexByAddress source = clientIndex at *
  split_ifs with unknown
  · exact .inl rfl
  obtain ⟨outcome, returns, reads⟩ := readPacket_spec env config.protocolID currentTimestamp
    t.minConnectTokenExpireTimestamp serverAllowedPackets data (manager.getReceiveKey index)
    (some config.privateKey) (clientIndex.map fun i => (t.clients i).replayProtection)
  rw [returns, Option.bind_eq_bind, Option.bind_some]
  have keepsReads := reads
  cases reads with
  | ignored =>
    have same : ({ t with encryptionManager := manager } : Server).applyReading source
        currentTimestamp clientIndex
        (.ignored (clientIndex.map fun i => (t.clients i).replayProtection)) =
        { t with encryptionManager := manager } := by
      cases clientIndex with
      | none => rfl
      | some i => simp [applyReading, setWindow, recordReading, ReadOutcome.ignored, setClient]
    show some (Server.applyReading _ _ _ _ _) = _ ∨ _
    rw [same]
    exact .inl rfl
  | request key request call allowed isKey bytes version protocol unexpired afterStart opens isData
      length =>
    have same : ({ t with encryptionManager := manager } : Server).applyReading source
        currentTimestamp clientIndex ⟨some (.connectionRequest request), 0,
          clientIndex.map fun i => (t.clients i).replayProtection, some call⟩ =
        (({ t with encryptionManager := manager } : Server).record
          (.opened .connectToken call)).record
            (.requested source request currentTimestamp call) := by
      cases clientIndex with
      | none => rfl
      | some i => simp [applyReading, setWindow, recordReading, setClient]
    dsimp only
    rw [same]
    refine .inr ⟨_, .connectToken, call, [_, _], .openRequest _ source currentTimestamp data request
      call _ _ running head keepsReads, rfl, by simp, ?_⟩
    show Leads env config _ (if t.flags &&& serverFlagIgnoreConnectionRequestPackets = 0 then _
      else _)
    split_ifs
    · exact processConnectionRequestPacket_leads reading running rfl
    · exact .done _
  | encrypted key prefixByte type sequenceData sequence call packet isKey bytes notRequest isType
      allowed sequenceLength sequenceRange isSequence notReplayed opens decodes =>
    cases index with
    | none => cases isKey
    | some e =>
      have locatedE := located e rfl
      have isReceiveKey : (manager.mapping e).receiveKey = key := Option.some_inj.mp isKey
      have noRequest : ∀ request, packet ≠ some (.connectionRequest request) := by
        rintro request rfl
        exact decodePacket_ne_request decodes
      have first : Micro env config _ _ := .openPacket { t with encryptionManager := manager } source
        currentTimestamp data clientIndex e _ call running head locatedE keepsReads rfl noRequest
      have invV := invU.micro first
      obtain ⟨clients, same, windows⟩ := applyReading_eq { t with encryptionManager := manager }
        source currentTimestamp clientIndex ⟨packet, sequence, advanceReplay type sequence
          (clientIndex.map fun i => (t.clients i).replayProtection), some call⟩ rfl noRequest
      have slots : ∀ j, SameSession (t.clients j) (clients j) := fun j => .of_window (windows j)
      rw [same] at invV first ⊢
      refine .inr ⟨_, .packet, call, [_], first, rfl, List.mem_singleton_self _, ?_⟩
      cases packet with
      | none => exact .done _
      | some packet =>
        obtain ⟨isCallKey, isNonce, isAdditional, -, -⟩ := decryptAEAD_eq_some opens
        refine processPacketInternal_leads quiet invV running reading
          (fun request same => noRequest request (congrArg some same)) ?_
          ⟨?_, isCallKey.trans isReceiveKey.symm, isNonce,
            ⟨prefixByte, type, isAdditional, isType, decodes⟩⟩
        · refine ⟨(findClientIndexByAddress_congr t { t with
            clients := clients
            encryptionManager := manager
            trace := .opened .packet call :: t.trace } rfl slots source).trans locatedE.1, ?_⟩
          cases clientIndex with
          | none => exact locatedE.2
          | some i => exact (slots i).encryptionIndex.trans locatedE.2
        · obtain ⟨earlier, isHead⟩ := head
          exact ⟨currentTimestamp, data, earlier, by rw [isHead]⟩

/-- **A datagram is a chain of steps** from its arrival. -/
theorem readAndProcessPacket_leads (quiet : config.NonReentrant) (inv : Binding env s)
    (source : Address) (data : Bytes) (currentTimestamp reading : UInt64) :
    Leads env config (s.record (.datagram currentTimestamp source data))
      (readAndProcessPacket env config s source data currentTimestamp reading) := by
  obtain ⟨manager, located, chain, -⟩ := locateMapping_leads config
    (inv.record (.datagram currentTimestamp source data)) source
  rcases readAndProcessPacket_cases quiet inv source data currentTimestamp reading rfl with
    returns | returns | ⟨u, kind, call, new, opens, -, -, s', returns, rest⟩
  · rw [returns]
    exact .done _
  · rw [returns, located]
    exact ⟨_, rfl, chain⟩
  · rw [located] at opens
    exact ⟨s', returns, (chain.tail opens).trans rest⟩

/-! ### The public calls -/

/-- A batch of datagrams is a chain of atoms. -/
theorem receivePackets_atoms (quiet : config.NonReentrant) (inv : Binding env s)
    (currentTimestamp : UInt64) (batch : List Datagram) :
    ∃ s', receivePackets env config s currentTimestamp batch = some s' ∧
      ReflTransGen (Atom env config) s s' := by
  have first : Micro env config s (s.record (.clock currentTimestamp)) := .clock s currentTimestamp
  obtain ⟨s', returns, chain, -, -, -⟩ := Trace.foldlM_chain (Binding env) (fun _ _ => True)
    (fun s (d : Datagram) =>
      readAndProcessPacket env config s d.source d.data currentTimestamp d.reading)
    (fun t d heldT => by
      obtain ⟨t', returns, chain⟩ := readAndProcessPacket_leads quiet heldT d.source d.data
        currentTimestamp d.reading
      exact ⟨t', returns,
        (atoms_of_micros chain).head (.arrive t currentTimestamp d.source d.data),
        (heldT.record _).steps chain, trivial, fun _ _ => trivial⟩)
    batch (s.record (.clock currentTimestamp)) (inv.micro first)
  exact ⟨s', returns, chain.head (.micro first)⟩

/-- A chain of atoms keeps slots and mappings in agreement. -/
theorem Binding.atoms {s' : Server} (inv : Binding env s)
    (chain : ReflTransGen (Atom env config) s s') : Binding env s' := by
  induction chain with
  | refl => exact inv
  | tail _ last ih => exact ih.atom last

theorem update_atoms (quiet : config.NonReentrant) (inv : Binding env s) {time : ℚ}
    (forward : s.time ≤ time) (isFloat : env.IsFloat64 time) (currentTimestamp : UInt64)
    (batch : List Datagram) :
    ∃ s', update env config s time currentTimestamp batch = some s' ∧
      ReflTransGen (Atom env config) s s' := by
  have first : Micro env config s { s with time := time } := .tick s time forward isFloat
  obtain ⟨t, received, chain⟩ := receivePackets_atoms quiet (inv.micro first) currentTimestamp batch
  obtain ⟨u, finishes, chain'⟩ := (stepwise quiet).sendAndCheck ((inv.micro first).atoms chain)
  refine ⟨u, ?_, (chain.head (.micro first)).trans (atoms_of_micros chain')⟩
  unfold update
  rw [received, Option.bind_eq_bind, Option.bind_some]
  exact finishes

/-- An `update` that receives nothing. -/
theorem update_leads (quiet : config.NonReentrant) (inv : Binding env s) {time : ℚ}
    (forward : s.time ≤ time) (isFloat : env.IsFloat64 time) (currentTimestamp : UInt64) :
    Leads env config s (update env config s time currentTimestamp []) := by
  have ticks : Micro env config s { s with time := time } := .tick s time forward isFloat
  have reads : Micro env config _ _ := .clock { s with time := time } currentTimestamp
  exact .step ticks (.step reads ((stepwise quiet).sendAndCheck ((inv.micro ticks).micro reads)))

/-- **A call that brings no datagram is a chain of atomic steps**, but for the call of a nil
function. -/
theorem step_leads (quiet : config.NonReentrant) (inv : Binding env s) (call : Call)
    (forward : Forward env s call) (alone : call.datagrams = []) :
    Leads env config s (step env config s call) ∨ NilLoopbackCallback config s call := by
  by_cases isUpdate : ∃ time currentTimestamp batch, call = .update time currentTimestamp batch
  · obtain ⟨time, currentTimestamp, batch, rfl⟩ := isUpdate
    cases alone
    exact .inl (update_leads quiet inv forward.1 forward.2 currentTimestamp)
  · exact (stepwise quiet).call inv call alone fun time currentTimestamp batch same =>
      isUpdate ⟨time, currentTimestamp, batch, same⟩

/-- A datagram that arrives on its own. -/
theorem processPacket_leads (quiet : config.NonReentrant) (inv : Binding env s) (source : Address)
    (data : Bytes) (currentTimestamp reading : UInt64) :
    ∃ s', step env config s (.processPacket source data currentTimestamp reading) = some s' ∧
      ReflTransGen (Micro env config) ((s.record (.clock currentTimestamp)).record
        (.datagram currentTimestamp source data)) s' :=
  readAndProcessPacket_leads quiet (inv.record (.clock currentTimestamp)) source data
    currentTimestamp reading

/-- **Every call is a chain of atoms**, but for the call of a nil function. -/
theorem step_atoms (quiet : config.NonReentrant) (inv : Binding env s) (call : Call)
    (forward : Forward env s call) :
    (∃ s', step env config s call = some s' ∧ ReflTransGen (Atom env config) s s') ∨
      NilLoopbackCallback config s call := by
  by_cases alone : call.datagrams = []
  · rcases step_leads quiet inv call forward alone with ⟨s', returns, chain⟩ | nil
    · exact .inl ⟨s', returns, atoms_of_micros chain⟩
    · exact .inr nil
  · cases call with
    | processPacket source data currentTimestamp reading =>
      obtain ⟨s', returns, chain⟩ := processPacket_leads quiet inv source data currentTimestamp
        reading
      exact .inl ⟨s', returns, ((atoms_of_micros chain).head (.arrive _ _ _ _)).head
        (.micro (.clock s currentTimestamp))⟩
    | update time currentTimestamp batch =>
      exact .inl (update_atoms quiet inv forward.1 forward.2 currentTimestamp batch)
    | _ => exact absurd rfl alone

/-! ### Runs -/

/-- A call that reaches the nil function does not return, but where it does nothing at all. -/
theorem NilLoopbackCallback.returns {s' : Server} {call : Call} (nil : NilLoopbackCallback config s call)
    (done : step env config s call = some s') : s' = s := by
  obtain ⟨clientIndex, payload, i, rfl, valid, loopback, isNil⟩ := nil
  simp only [step, sendPacket, valid, loopback, isNil, Bool.not_true, Bool.false_eq_true,
    if_false, Option.bind_eq_bind, Option.bind_none] at done
  split_ifs at done
  · exact (Option.some_inj.mp done).symm
  · exact (Option.some_inj.mp done).symm

/-- A call without datagrams that returned is a chain of atomic steps. -/
theorem step_micros {s' : Server} {call : Call} (quiet : config.NonReentrant) (inv : Binding env s)
    (forward : Forward env s call) (alone : call.datagrams = [])
    (done : step env config s call = some s') : ReflTransGen (Micro env config) s s' := by
  rcases step_leads quiet inv call forward alone with ⟨t, returns, chain⟩ | nil
  · rw [done] at returns
    cases returns
    exact chain
  · rw [nil.returns done]

/-- A call that returned is a chain of atoms. -/
theorem step_chain {s' : Server} {call : Call} (quiet : config.NonReentrant) (inv : Binding env s)
    (forward : Forward env s call)
    (done : step env config s call = some s') : ReflTransGen (Atom env config) s s' := by
  rcases step_atoms quiet inv call forward with ⟨t, returns, chain⟩ | nil
  · rw [done] at returns
    cases returns
    exact chain
  · rw [nil.returns done]

/-- **Slots and mappings agree in every state a run reaches.** -/
theorem Run.binding {calls : List Call} (quiet : config.NonReentrant) (run : Run env config calls s) :
    Binding env s := by
  induction run with
  | new address address2 time isFloat => exact Binding.new env address address2 time isFloat
  | step _ call forward done ih => exact ih.atoms (step_chain quiet ih forward done)

/-- **The trace only grows**, and only an arrival adds a datagram to it. -/
theorem Micro.shows {s' : Server} (micro : Micro env config s s') :
    ∃ new, s'.trace = new ++ s.trace ∧
      ∀ reading source data, .datagram reading source data ∉ new := by
  cases micro with
  | tick | refresh | connectLoopback | disconnectLoopback => exact ⟨[], rfl, by simp⟩
  | clock | ask | grant | install | release | reset => exact ⟨[_], rfl, by simp⟩
  | openRequest | respond | deny | start => exact ⟨[_, _], rfl, by simp⟩
  | send p i e note connected network mapped kind =>
    exact ⟨_ :: _ :: note, rfl, by cases kind <;> simp⟩
  | openPacket source reading data clientIndex e outcome call running head located reads isOpened
      notRequest =>
    obtain ⟨clients, same, -⟩ := applyReading_eq s source reading clientIndex outcome isOpened
      notRequest
    rw [same]
    exact ⟨[_], rfl, by simp⟩
  | issue => exact ⟨[_, _, _, _], rfl, by simp⟩
  | change i slot effects change =>
    refine ⟨effects, rfl, fun reading source data => ?_⟩
    cases change with
    | push => split_ifs <;> simp
    | deliver => cases (s.clients i).packetQueue.pop.2.1 <;> simp
    | _ => simp

theorem Atom.grows {s' : Server} (atom : Atom env config s s') : s.trace <:+ s'.trace := by
  cases atom with
  | arrive => exact List.suffix_cons _ _
  | micro micro =>
    obtain ⟨new, trace, -⟩ := micro.shows
    exact ⟨new, trace.symm⟩

/-- **The invariant rule for runs.** An assumption on the trace that holds at the end of a run, and
is closed under forgetting the newest effects, may be used at every atom of it. -/
theorem Run.along {calls : List Call} (meets : List Effect → Prop) (holds : Server → Prop)
    (quiet : config.NonReentrant)
    (closed : ∀ before after, before <:+ after → meets after → meets before)
    (start : ∀ address address2 time, holds (Server.new address address2 time))
    (keeps : ∀ s s', Binding env s → Atom env config s s' → meets s'.trace → holds s → holds s')
    (run : Run env config calls s) (met : meets s.trace) : holds s := by
  induction run with
  | new address address2 time _ => exact start address address2 time
  | step run call forward done ih =>
    have inv := run.binding quiet
    have chain := step_chain quiet inv forward done
    have grown := Trace.chain_grows (Atom env config) Server.trace (fun _ _ => Atom.grows) chain
    refine Trace.along (fun s s' => Binding env s ∧ Atom env config s s') Server.trace
      (fun _ _ both => both.2.grows) closed (fun _ _ both => keeps _ _ both.1 both.2) ?_ met
      (ih (closed _ _ grown met))
    clear ih done grown met forward
    induction chain with
    | refl => exact .refl
    | tail chain last ih => exact ih.tail ⟨inv.atoms chain, last⟩

end Chains

end Netcode.Server
