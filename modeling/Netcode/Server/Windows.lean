/-
**What a replay window knows.**

The replay window of a slot moves when a packet is opened under the receive key of the slot, and at no
other time: nothing that does not open can move it. So every number that a window has recorded belongs
to a packet that was opened under the key.

* `Recorded` — what a window has recorded was opened under a key;
* `Atom.windowStep` — **what one atom can do to the window** of a slot;
* `Run.windows` — in every state of a run the windows of all clients are so recorded, and those of the
  other slots are reset.
-/

import Netcode.Server.Inboxes

namespace Netcode

open ReplayProtection

/-- A packet of a kind that is under replay protection, sealed under the number. -/
structure Numbered (protocolID : UInt64) (call : AeadCall) (n : UInt64) : Prop where
  nonce : call.nonce = packetNonce n
  kind : ∃ prefixByte type, call.additional = packetAdditionalData protocolID prefixByte ∧
    PacketType.ofCode (prefixByte &&& 0xF) = some type ∧ type.replayProtected = true

/-- A sealed packet has its own number and kind. -/
theorem Numbered.of_seal {env : Platform} {p : Packet} {sequence n : UInt64} {key : Key}
    {protocolID protocolID' : UInt64}
    (numbered : Numbered protocolID (sealPacket env p sequence key protocolID') n) :
    sequence = n ∧ p.packetType.replayProtected = true := by
  obtain ⟨isNonce, prefixByte, type, additional, isType, protects⟩ := numbered
  refine ⟨packetNonce_injective isNonce, ?_⟩
  rw [← (packetAdditionalData_injective additional).2, packetPrefixByte_type] at isType
  cases isType
  exact protects

/-- **What the window has recorded** was opened under the key. -/
def Recorded (protocolID : UInt64) (opened : AeadCall → Prop) (key : Key) (window : ReplayProtection) :
    Prop :=
  ∃ accepted, window.Tracks accepted ∧ ∀ n ∈ accepted, ∃ call, opened call ∧ call.key = key ∧
    Numbered protocolID call n

section Recorded

variable {protocolID : UInt64} {opened opened' : AeadCall → Prop} {key : Key}
  {window : ReplayProtection}

theorem recorded_reset (protocolID : UInt64) (opened : AeadCall → Prop) (key : Key) :
    Recorded protocolID opened key .reset :=
  ⟨[], tracks_reset, fun _ member => by cases member⟩

theorem Recorded.grown (recorded : Recorded protocolID opened key window)
    (more : ∀ call, opened call → opened' call) : Recorded protocolID opened' key window := by
  obtain ⟨accepted, tracks, origin⟩ := recorded
  refine ⟨accepted, tracks, fun n member => ?_⟩
  obtain ⟨call, isOpened, rest⟩ := origin n member
  exact ⟨call, more call isOpened, rest⟩

/-- **`readPacket` records what it opens**, unless it is of a kind that the window does not protect. -/
theorem Recorded.reads {env : Platform} {currentTimestamp minConnectTokenExpireTimestamp : UInt64}
    {allowedPackets : PacketType → Bool} {buffer : Bytes} {privateKey : Option Key}
    {outcome : ReadOutcome} {call : AeadCall} (recorded : Recorded protocolID opened key window)
    (reads : ReadsAs env protocolID currentTimestamp minConnectTokenExpireTimestamp allowedPackets
      buffer (some key) privateKey (some window) outcome)
    (isOpened : outcome.opened = some call)
    (notRequest : ∀ request, outcome.packet ≠ some (.connectionRequest request)) (now : opened call) :
    Recorded protocolID opened key (outcome.replayProtection.getD window) := by
  cases reads with
  | ignored => cases isOpened
  | request key request => exact absurd rfl (notRequest request)
  | encrypted key' prefixByte type sequenceData sequence call' packet isKey bytes notRequest isType
      allowed sequenceLength sequenceRange isSequence notReplayed opens decodes =>
    cases isOpened
    cases isKey
    dsimp only [advanceReplay]
    split_ifs with protects
    · obtain ⟨accepted, tracks, origin⟩ := recorded
      obtain ⟨isKey, isNonce, isAdditional, -⟩ := decryptAEAD_eq_some opens
      refine ⟨_, tracks.advance (notReplayed protects window rfl), fun n member => ?_⟩
      rcases List.mem_cons.mp member with rfl | before
      · exact ⟨call, now, isKey, isNonce, prefixByte, type, isAdditional, isType, protects⟩
      · exact origin n before
    · exact recorded

/-- **A number under which nothing was opened is fresh**, if nothing was opened far ahead of it. -/
theorem Recorded.fresh {n : UInt64} (recorded : Recorded protocolID opened key window)
    (never : ∀ call, opened call → call.key = key → ¬ Numbered protocolID call n)
    (near : ∀ call m, opened call → call.key = key → Numbered protocolID call m →
      m.toNat < 256 + n.toNat) : window.alreadyReceived n = false := by
  obtain ⟨accepted, tracks, origin⟩ := recorded
  refine tracks.fresh (fun member => ?_) fun m member => ?_
  · obtain ⟨call, isOpened, isKey, numbered⟩ := origin n member
    exact never call isOpened isKey numbered
  · obtain ⟨call, isOpened, isKey, numbered⟩ := origin m member
    exact near call m isOpened isKey numbered

end Recorded

namespace Server

variable {env : Platform} {config : ServerConfig} {s s' : Server} {i e : Nat}

/-- A client of the network is in the slot. -/
def OnNetwork (s : Server) (i : Nat) : Prop :=
  (s.clients i).connected = true ∧ (s.clients i).loopback = false

theorem OnNetwork.same (before : OnNetwork s i) (session : SameSession (s.clients i) (s'.clients i)) :
    OnNetwork s' i :=
  ⟨session.connected.trans before.1, session.loopback.trans before.2⟩

/-- **What one atom can do to the window of a slot**: reset it, leave it alone, or open a packet under
the receive key of the client. -/
inductive WindowStep (env : Platform) (config : ServerConfig) (s s' : Server) (i : Nat) : Prop
  | cleared (gone : (s'.clients i).connected = false)
      (window : (s'.clients i).replayProtection = .reset)
  | keep (stays : OnNetwork s i → OnNetwork s' i)
      (window : (s'.clients i).replayProtection = (s.clients i).replayProtection)
  | opened (reading : UInt64) (data : Bytes) (e : Nat) (outcome : ReadOutcome) (call : AeadCall)
      (session : SameSession (s.clients i) (s'.clients i)) (onNetwork : OnNetwork s i)
      (mapped : (s.clients i).encryptionIndex = some e)
      (reads : ReadsAs env config.protocolID reading s.minConnectTokenExpireTimestamp
        serverAllowedPackets data (some (s.encryptionManager.mapping e).receiveKey)
        (some config.privateKey) (some (s.clients i).replayProtection) outcome)
      (isOpened : outcome.opened = some call)
      (notRequest : ∀ request, outcome.packet ≠ some (.connectionRequest request))
      (trace : s'.trace = .opened .packet call :: s.trace)
      (window : (s'.clients i).replayProtection =
        outcome.replayProtection.getD (s.clients i).replayProtection)

/-- A slot is written, and its window is not. -/
theorem WindowStep.write {k : Nat} {slot : ClientSlot}
    (clients : s'.clients = Function.update s.clients k slot)
    (stays : OnNetwork s k → slot.connected = true ∧ slot.loopback = false)
    (window : slot.replayProtection = (s.clients k).replayProtection) :
    WindowStep env config s s' i := by
  by_cases here : i = k
  · subst here
    have same : s'.clients i = slot := by rw [clients, Function.update_self]
    refine .keep (fun before => ?_) (by rw [same, window])
    rw [OnNetwork, same]
    exact stays before
  · have same : s'.clients i = s.clients i := by rw [clients, Function.update_of_ne here]
    refine .keep (fun before => ?_) (by rw [same])
    rw [OnNetwork, same]
    exact before

/-- **Every atom is such a step.** -/
theorem Atom.windowStep (inv : Binding env s) (atom : Atom env config s s') (i : Nat) :
    WindowStep env config s s' i := by
  cases atom with
  | arrive => exact .keep id rfl
  | micro micro =>
    cases micro with
    | tick | clock | refresh | openRequest | respond | deny | ask | grant | issue | reset =>
      exact .keep id rfl
    | openPacket source reading data clientIndex e outcome call running head located reads isOpened
        notRequest =>
      have slot := applyReading_slot s source reading clientIndex outcome i
      have session : SameSession (s.clients i)
          ((s.applyReading source reading clientIndex outcome).clients i) := by
        rw [slot]
        split_ifs
        · exact ⟨rfl, rfl, rfl, rfl, rfl, rfl⟩
        · exact .refl _
      by_cases here : clientIndex = some i
      · subst here
        rw [if_pos rfl] at slot
        obtain ⟨clients, same, -⟩ := applyReading_eq s source reading (some i) outcome isOpened
          notRequest
        exact .opened reading data e outcome call session (inv.found located.1) located.2 reads isOpened
          notRequest (by rw [same]) (by rw [slot])
      · rw [if_neg here] at slot
        exact .keep (fun before => before.same session) (by rw [slot])
    | install source e k challenge sequence call responding strangerAddress strangerID found free =>
      refine .write rfl (fun before => ?_) rfl
      have vacant := (findFreeClientIndex_eq_some free).2
      rw [before.1] at vacant
      cases vacant
    | send p k e note connected network => exact .write rfl (fun _ => ⟨connected, network⟩) rfl
    | release k e =>
      by_cases here : i = k
      · subst here
        exact .cleared (by rw [releaseClient_slot]; rfl) (by rw [releaseClient_slot]; rfl)
      · have slot := @releaseClient_others env s k e i here
        refine .keep (fun before => ?_) (by rw [slot])
        rw [OnNetwork, slot]
        exact before
    | change k slot effects change =>
      refine .write rfl (fun before => ?_) ?_
      · cases change <;> exact before
      · cases change <;> rfl
    | connectLoopback k clientID userData small free =>
      refine .write rfl (fun before => ?_) rfl
      rw [before.1] at free
      cases free
    | disconnectLoopback k connected loopback =>
      refine .write rfl (fun before => ?_) rfl
      rw [before.2] at loopback
      cases loopback
    | start maxClients challengeKey reading idle =>
      refine .keep (fun before => ?_) rfl
      rw [inv.running before.1] at idle
      cases idle

/-! ### Every slot -/

/-- **The windows of a server.** -/
structure Windows (config : ServerConfig) (s : Server) : Prop where
  idle : ∀ i, ¬ OnNetwork s i → (s.clients i).replayProtection = .reset
  recorded : ∀ i e, OnNetwork s i → (s.clients i).encryptionIndex = some e →
    Recorded config.protocolID (fun call => .opened .packet call ∈ s.trace)
      (s.encryptionManager.mapping e).receiveKey (s.clients i).replayProtection

theorem Windows.new (config : ServerConfig) (address address2 : Address) (time : ℚ) :
    Windows config (new address address2 time) where
  idle := fun _ _ => rfl
  recorded := fun _ _ onNetwork => by cases onNetwork.1

/-- **Every step keeps the windows so.** -/
theorem Windows.step (inv : Windows config s) (binding : Binding env s) (atom : Atom env config s s') :
    Windows config s' := by
  refine ⟨fun i offNetwork => ?_, fun i e onNetwork mapped => ?_⟩
  · cases atom.windowStep binding i with
    | cleared _ window => exact window
    | keep stays window => rw [window, inv.idle i fun before => offNetwork (stays before)]
    | opened reading data e outcome call session onNetwork =>
      exact absurd (onNetwork.same session) offNetwork
  · rcases atom.cameFrom binding onNetwork.1 onNetwork.2 with
      ⟨connected, network, f, mappedF, held⟩ | ⟨f, source, challenge, sequence, call, installing⟩
    · obtain rfl : f = e := by
        rw [held.session.encryptionIndex, mappedF] at mapped
        exact Option.some_inj.mp mapped
      have recorded := (inv.recorded i f ⟨connected, network⟩ mappedF).grown fun call member =>
        atom.grows.subset member
      rw [held.receiveKey]
      cases atom.windowStep binding i with
      | cleared gone =>
        rw [onNetwork.1] at gone
        cases gone
      | keep _ window => rwa [window]
      | opened reading data g outcome call session _ mappedG reads isOpened notRequest trace window =>
        obtain rfl := Option.some_inj.mp (mappedG.symm.trans mappedF)
        rw [window]
        exact recorded.reads reads isOpened notRequest (by rw [trace]; exact List.mem_cons_self)
    · -- a new client finds the window of its slot reset
      have vacant : ¬ OnNetwork s i := fun before => by
        have free := (findFreeClientIndex_eq_some installing.free).2
        rw [before.1] at free
        cases free
      obtain rfl := installing.after
      have window : ((installClient s i source challenge.clientID f
          (s.encryptionManager.mapping f).timeout challenge.userData).clients i).replayProtection =
            .reset := by
        rw [← inv.idle i vacant]
        simp [installClient]
      rw [window]
      exact recorded_reset _ _ _

theorem Run.windows {calls : List Call} (quiet : config.NonReentrant)
    (run : Run env config calls s) : Windows config s :=
  Run.along (fun _ => True) (Windows config) quiet (fun _ _ _ met => met)
    (fun address address2 time => .new config address address2 time)
    (fun _ _ binding atom _ held => held.step binding atom) run trivial

end Server

end Netcode
