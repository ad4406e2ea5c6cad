/-
**Where the keys of a mapping come from.**

Every mapping a lookup can find holds the keys of a private connect token that was presented, from
the mapping's own address, in a connection request of this run; and every such request was opened
under the private key and passed the checks of `readPacket`.

* `TokenStep` — **what one atom can do to tokens**: read a request, consult the history, admit a
  request, install a client, begin or end a run, or nothing (`Quiet`);
* `Provenance.step`, `Run.provenance` — the invariant, for one atom and for runs.
-/

import Netcode.Server.Chain

namespace Netcode

/-- Effects that are about tokens: a request, an installation, the start or end of a run. -/
def Effect.tokenEvent : Effect → Bool
  | .requested _ _ _ _ => true
  | .installed _ _ _ _ _ => true
  | effect => effect.boundary

theorem Effect.inside_of_quiet {effect : Effect} (quiet : effect.tokenEvent = false) :
    effect.boundary = false := by
  cases effect <;> first | rfl | exact quiet

theorem thisRun_append {new trace : List Effect} (inside : ∀ effect ∈ new, effect.boundary = false) :
    thisRun (new ++ trace) = new ++ thisRun trace := by
  induction new with
  | nil => rfl
  | cons effect new ih =>
    rw [List.cons_append, thisRun_cons (inside effect List.mem_cons_self),
      ih fun other member => inside other (List.mem_cons_of_mem _ member), List.cons_append]

namespace Server

open Relation

variable {env : Platform} {config : ServerConfig} {s s' : Server}

/-! ### What a step does to tokens -/

/-- An address that equals itself, so that a lookup can find it. -/
def Usable (address : Address) : Prop := address.Equal address = true

theorem usable_of_equal {address other : Address} (equal : address.Equal other = true) :
    Usable address := Address.Equal.trans equal (Address.Equal.symm equal)

/-- Nothing a lookup can find got a new address, key or entry. -/
structure Quiet (env : Platform) (s s' : Server) : Prop where
  trace : ∃ new, s'.trace = new ++ s.trace ∧ new.any Effect.tokenEvent = false
  addresses : s'.address = s.address ∧ s'.address2 = s.address2
  floor : s'.minConnectTokenExpireTimestamp = s.minConnectTokenExpireTimestamp
  entries : s'.connectTokenEntries = s.connectTokenEntries
  kept : ∀ e, Usable (s'.encryptionManager.mapping e).address →
    (s'.encryptionManager.mapping e).address = (s.encryptionManager.mapping e).address ∧
      (s'.encryptionManager.mapping e).sendKey = (s.encryptionManager.mapping e).sendKey ∧
      (s'.encryptionManager.mapping e).receiveKey = (s.encryptionManager.mapping e).receiveKey ∧
      (s'.encryptionManager.mapping e).connectTokenEntryIndex =
        (s.encryptionManager.mapping e).connectTokenEntryIndex
  /-- What has a client keeps it, and what is expired without one stays expired. -/
  settled : ∀ e, Usable (s'.encryptionManager.mapping e).address →
    ((s.encryptionManager.mapping e).clientIndex ≠ none →
        (s'.encryptionManager.mapping e).clientIndex ≠ none) ∧
      ((s.encryptionManager.mapping e).clientIndex = none →
        (s.encryptionManager.mapping e).expired env s.time = true →
        (s'.encryptionManager.mapping e).expired env s'.time = true)

/-- **What one atom can do to tokens.** -/
inductive TokenStep (env : Platform) (config : ServerConfig) (s : Server) : Server → Prop
  | quiet {s' : Server} (quiet : Quiet env s s') : TokenStep env config s s'
  | openRequest (source : Address) (reading : UInt64) (data : Bytes) (request : ConnectionRequest)
      (call : AeadCall) (key : Option Key) (window : Option ReplayProtection)
      (running : s.running = true)
      (head : ∃ earlier, s.trace = .datagram reading source data :: earlier)
      (reads : ReadsAs env config.protocolID reading s.minConnectTokenExpireTimestamp
        serverAllowedPackets data key (some config.privateKey) window
        ⟨some (.connectionRequest request), 0, window, some call⟩) :
      TokenStep env config s ((s.record (.opened .connectToken call)).record
        (.requested source request reading call))
  | ask (source : Address) (request : ConnectionRequest) (token : ConnectTokenPrivate)
      (reading : UInt64) (asking : Asking s source request token) :
      TokenStep env config s (noteRequest s source request reading)
  | grant (source : Address) (request : ConnectionRequest) (token : ConnectTokenPrivate)
      (reading : UInt64) (index e : Nat) (mapping : EncryptionMapping) (manager : EncryptionManager)
      (asking : Asking s source request token)
      (admits : (consult s source request reading).2 = .entry index)
      (writes : manager.mapping = Function.update s.encryptionManager.mapping e mapping)
      (added : EncryptionManager.Added mapping token.serverToClientKey token.clientToServerKey s.time
        (mappingExpireTime env s token) token.timeoutSeconds index)
      (address : mapping.address = source ∨ mapping.address.Equal source = true) :
      TokenStep env config s { noteRequest s source request reading with
        encryptionManager := manager }
  | install (source : Address) (e i : Nat) (clientID : UInt64) (userData : UserData)
      (found : s.encryptionManager.lookup env source s.time = some e)
      (free : (s.encryptionManager.mapping e).clientIndex = none) :
      TokenStep env config s (installClient s i source clientID e
        (s.encryptionManager.mapping e).timeout userData)
  | boundary {s' : Server} (effect : Effect) (new : List Effect)
      (isBoundary : effect.boundary = true) (noToken : new.any Effect.tokenEvent = false)
      (trace : s'.trace = effect :: (new ++ s.trace))
      (entries : s'.connectTokenEntries = connectTokenEntriesReset)
      (manager : s'.encryptionManager = .reset) : TokenStep env config s s'

/-- A step that leaves the two tables and the settings alone. -/
theorem Quiet.of_tables (new : List Effect) (trace : s'.trace = new ++ s.trace)
    (noToken : new.any Effect.tokenEvent = false)
    (addresses : s'.address = s.address ∧ s'.address2 = s.address2)
    (floor : s'.minConnectTokenExpireTimestamp = s.minConnectTokenExpireTimestamp)
    (entries : s'.connectTokenEntries = s.connectTokenEntries)
    (manager : s'.encryptionManager = s.encryptionManager) (time : s'.time = s.time) :
    Quiet env s s' where
  trace := ⟨new, trace, noToken⟩
  addresses := addresses
  floor := floor
  entries := entries
  kept := by
    intro e _
    rw [manager]
    exact ⟨rfl, rfl, rfl, rfl⟩
  settled := by
    intro e _
    rw [manager, time]
    exact ⟨id, fun _ => id⟩

/-- A mapping is accessed that has a client or has not expired. -/
theorem Quiet.of_access (new : List Effect) {p : Nat} (trace : s'.trace = new ++ s.trace)
    (noToken : new.any Effect.tokenEvent = false)
    (addresses : s'.address = s.address ∧ s'.address2 = s.address2)
    (floor : s'.minConnectTokenExpireTimestamp = s.minConnectTokenExpireTimestamp)
    (entries : s'.connectTokenEntries = s.connectTokenEntries)
    (manager : s'.encryptionManager = s.encryptionManager.access p s.time)
    (time : s'.time = s.time)
    (live : (s.encryptionManager.mapping p).clientIndex ≠ none ∨
      (s.encryptionManager.mapping p).expired env s.time = false) : Quiet env s s' where
  trace := ⟨new, trace, noToken⟩
  addresses := addresses
  floor := floor
  entries := entries
  kept := by
    intro e _
    obtain ⟨_, same⟩ := access_mapping s.encryptionManager p e s.time
    rw [manager, same]
    exact ⟨rfl, rfl, rfl, rfl⟩
  settled := by
    intro e _
    rw [manager, time]
    by_cases here : e = p
    · subst here
      obtain ⟨_, same⟩ := access_mapping s.encryptionManager e e s.time
      rw [same]
      refine ⟨id, fun free expired => ?_⟩
      rcases live with held | alive
      · exact absurd free held
      · rw [expired] at alive
        cases alive
    · have same : (s.encryptionManager.access p s.time).mapping e = s.encryptionManager.mapping e :=
        Function.update_of_ne here _ _
      rw [same]
      exact ⟨id, fun _ => id⟩

/-- A tick ages mappings and does nothing else to them. -/
theorem Quiet.of_tick {time : ℚ} (forward : s.time ≤ time) :
    Quiet env s { s with time := time } where
  trace := ⟨[], rfl, rfl⟩
  addresses := ⟨rfl, rfl⟩
  floor := rfl
  entries := rfl
  kept := fun _ _ => ⟨rfl, rfl, rfl, rfl⟩
  settled := fun _ _ => ⟨id, fun _ => EncryptionManager.expired_mono forward⟩

/-- A released mapping cannot be found any more, and no other mapping changes but by losing its
address. -/
theorem Quiet.of_release {i e : Nat} (inv : Binding env s) (bound : Bound s i e) :
    Quiet env s (releaseClient env s i e) := by
  obtain ⟨-, here, others⟩ := inv.table.release (by rw [bound.client]; exact nofun) bound.address
  have same : ∀ j, Usable ((releaseClient env s i e).encryptionManager.mapping j).address →
      (releaseClient env s i e).encryptionManager.mapping j = s.encryptionManager.mapping j := by
    intro j usable
    have valid := Address.Equal.type_ne_none usable
    by_cases isE : j = e
    · subst isE
      exact absurd (congrArg (fun mapping => mapping.address.type) here) valid
    · rcases others j isE with unchanged | ⟨gone, -, -⟩
      · exact unchanged
      · exact absurd (congrArg (fun mapping => mapping.address.type) gone) valid
  refine ⟨⟨[.released i e], rfl, rfl⟩, ⟨rfl, rfl⟩, rfl, rfl, fun j usable => ?_, fun j usable => ?_⟩
  · rw [same j usable]
    exact ⟨rfl, rfl, rfl, rfl⟩
  · rw [same j usable]
    exact ⟨id, fun _ => id⟩

/-- What a change of one slot shows is not about tokens. -/
theorem LocalChange.noToken {i : Nat} {slot : ClientSlot} {effects : List Effect}
    (change : LocalChange config s i slot effects) : effects.any Effect.tokenEvent = false := by
  cases change with
  | push payload sequence => split <;> rfl
  | deliver => split <;> rfl
  | _ => rfl

theorem Micro.tokenStep (inv : Binding env s) (micro : Micro env config s s') :
    TokenStep env config s s' := by
  cases micro with
  | tick time forward => exact .quiet (.of_tick forward)
  | clock reading => exact .quiet (.of_tables [.clock reading] rfl rfl ⟨rfl, rfl⟩ rfl rfl rfl rfl)
  | refresh source e stranger found =>
    exact .quiet (.of_access [] rfl rfl ⟨rfl, rfl⟩ rfl rfl rfl rfl
      (.inr (EncryptionManager.lookup_eq_some.mp found).2.2.1))
  | openRequest source reading data request call key window running head reads =>
    exact .openRequest source reading data request call key window running head reads
  | openPacket source reading data clientIndex e outcome call running head located reads isOpened
      notRequest =>
    obtain ⟨clients, same, -⟩ := applyReading_eq s source reading clientIndex outcome isOpened
      notRequest
    rw [same]
    exact .quiet (.of_tables [.opened .packet call] rfl rfl ⟨rfl, rfl⟩ rfl rfl rfl rfl)
  | respond source clientIndex e sequence challengeTokenSequence data packetCall call =>
    exact .quiet (.of_tables [.responded _ _ _ _, .opened .challengeToken call] rfl rfl ⟨rfl, rfl⟩
      rfl rfl rfl rfl)
  | deny destination key =>
    exact .quiet (.of_tables [.sent _ _, .sealed _ _] rfl rfl ⟨rfl, rfl⟩ rfl rfl rfl rfl)
  | ask source request token reading asking => exact .ask source request token reading asking
  | grant source request token reading index manager asking admits room added =>
    obtain ⟨e, mapping, writes, fields, -, place⟩ :=
      EncryptionManager.addEncryptionMapping_cases added
    refine .grant source request token reading index e mapping manager asking admits writes fields ?_
    rcases place with ⟨found, address, -⟩ | ⟨-, -, address, -⟩
    · exact .inr (address ▸ (EncryptionManager.lookup_eq_some.mp found).2.1)
    · exact .inl address
  | issue source request token =>
    exact .quiet (.of_tables [.sent _ _, .sealed _ _, .challenged _ _ _, .sealed _ _] rfl rfl
      ⟨rfl, rfl⟩ rfl rfl rfl rfl)
  | install source e i challenge sequence call responding strangerAddress strangerID found free =>
    exact .install source e i _ _ found
      (inv.stranger strangerAddress (EncryptionManager.lookup_eq_some.mp found).2.1)
  | send p i e note connected network mapped kind =>
    have bound := inv.boundAt connected network mapped
    exact .quiet (.of_access (.sent _ _ :: .sealed _ _ :: note) rfl (by cases kind <;> rfl)
      ⟨rfl, rfl⟩ rfl rfl rfl rfl (.inl (by rw [bound.client]; exact nofun)))
  | release i e connected network mapped =>
    exact .quiet (.of_release inv (inv.boundAt connected network mapped))
  | change i slot effects change =>
    exact .quiet (.of_tables effects rfl change.noToken ⟨rfl, rfl⟩ rfl rfl rfl rfl)
  | connectLoopback => exact .quiet (.of_tables [] rfl rfl ⟨rfl, rfl⟩ rfl rfl rfl rfl)
  | disconnectLoopback => exact .quiet (.of_tables [] rfl rfl ⟨rfl, rfl⟩ rfl rfl rfl rfl)
  | reset => exact .boundary .stopped [] rfl rfl rfl rfl rfl
  | start maxClients challengeKey reading idle =>
    obtain ⟨-, entries, manager⟩ := inv.idle idle
    exact .boundary (.started maxClients challengeKey reading) [.clock reading] rfl rfl rfl entries
      manager

theorem Atom.tokenStep (inv : Binding env s) (atom : Atom env config s s') :
    TokenStep env config s s' := by
  cases atom with
  | arrive reading source data =>
    exact .quiet (.of_tables [.datagram reading source data] rfl rfl ⟨rfl, rfl⟩ rfl rfl rfl rfl)
  | micro micro => exact micro.tokenStep inv

/-! ### Requests and the keys they bring -/

/-- What `readPacket` checked of a connection request. -/
structure Accepted (config : ServerConfig) (s : Server) (request : ConnectionRequest)
    (reading : UInt64) (call : AeadCall) : Prop where
  opened : .opened .connectToken call ∈ thisRun s.trace
  key : call.key = config.privateKey
  additional : call.additional =
    connectTokenAdditionalData config.protocolID request.connectTokenExpireTimestamp
  data : request.connectTokenData.bytes =
    call.plaintext ++ call.ciphertext.drop (connectTokenPrivateBytes - MacBytes)
  length : call.plaintext.length = connectTokenPrivateBytes - MacBytes
  unexpired : reading < request.connectTokenExpireTimestamp
  afterStart : s.minConnectTokenExpireTimestamp ≤ request.connectTokenExpireTimestamp

/-- The mapping holds the keys of a token presented from its address. -/
structure Origin (s : Server) (e : Nat) (source : Address) (request : ConnectionRequest)
    (token : ConnectTokenPrivate) : Prop where
  presented : Presented s source request token
  address : source.Equal (s.encryptionManager.mapping e).address = true
  sendKey : (s.encryptionManager.mapping e).sendKey = token.serverToClientKey
  receiveKey : (s.encryptionManager.mapping e).receiveKey = token.clientToServerKey

/-- **Every key comes from an accepted request.** -/
structure Provenance (config : ServerConfig) (s : Server) : Prop where
  accepted : ∀ source request reading call,
    .requested source request reading call ∈ thisRun s.trace → Accepted config s request reading call
  origin : ∀ e, Usable (s.encryptionManager.mapping e).address →
    ∃ source request token, Origin s e source request token

section Growth

variable {effect : Effect}

/-- What a run has shown stays shown. -/
theorem mem_thisRun_of_grown {new : List Effect} (trace : s'.trace = new ++ s.trace)
    (inside : ∀ effect ∈ new, effect.boundary = false) (member : effect ∈ thisRun s.trace) :
    effect ∈ thisRun s'.trace := by
  rw [trace, thisRun_append inside]
  exact List.mem_append_right _ member

theorem Quiet.inside {new : List Effect} (noToken : new.any Effect.tokenEvent = false) :
    ∀ effect ∈ new, effect.boundary = false := fun effect member =>
  Effect.inside_of_quiet (by simpa using List.any_eq_false.mp noToken effect member)

theorem Presented.grown {source : Address} {request : ConnectionRequest}
    {token : ConnectTokenPrivate} (presented : Presented s source request token)
    (addresses : s'.address = s.address ∧ s'.address2 = s.address2)
    (grown : thisRun s.trace ⊆ thisRun s'.trace) : Presented s' source request token := by
  obtain ⟨reading, call, member⟩ := presented.requested
  refine ⟨⟨reading, call, grown member⟩, presented.reads, ?_⟩
  unfold serverAddressListed
  rw [addresses.1, addresses.2]
  exact presented.listed

theorem Accepted.grown {request : ConnectionRequest} {reading : UInt64} {call : AeadCall}
    (accepted : Accepted config s request reading call)
    (floor : s'.minConnectTokenExpireTimestamp = s.minConnectTokenExpireTimestamp)
    (grown : thisRun s.trace ⊆ thisRun s'.trace) : Accepted config s' request reading call :=
  ⟨grown accepted.opened, accepted.key, accepted.additional, accepted.data, accepted.length,
    accepted.unexpired, floor ▸ accepted.afterStart⟩

/-- A step that shows no request and leaves the keys of each mapping as they were. -/
theorem Provenance.grown (inv : Provenance config s) (new : List Effect)
    (trace : s'.trace = new ++ s.trace)
    (noRequest : ∀ source request reading call, .requested source request reading call ∉ new)
    (inside : ∀ effect ∈ new, effect.boundary = false)
    (addresses : s'.address = s.address ∧ s'.address2 = s.address2)
    (floor : s'.minConnectTokenExpireTimestamp = s.minConnectTokenExpireTimestamp)
    (origin : ∀ e, Usable (s'.encryptionManager.mapping e).address →
      (∃ source request token, Origin s' e source request token) ∨
      (s'.encryptionManager.mapping e).address = (s.encryptionManager.mapping e).address ∧
        (s'.encryptionManager.mapping e).sendKey = (s.encryptionManager.mapping e).sendKey ∧
        (s'.encryptionManager.mapping e).receiveKey = (s.encryptionManager.mapping e).receiveKey) :
    Provenance config s' := by
  have grown : thisRun s.trace ⊆ thisRun s'.trace :=
    fun _ => mem_thisRun_of_grown trace inside
  refine ⟨fun source request reading call member => ?_, fun e usable => ?_⟩
  · rw [trace, thisRun_append inside] at member
    rcases List.mem_append.mp member with isNew | old
    · exact absurd isNew (noRequest source request reading call)
    · exact (inv.accepted source request reading call old).grown floor grown
  · rcases origin e usable with here | ⟨address, sendKey, receiveKey⟩
    · exact here
    · rw [address] at usable
      obtain ⟨source, request, token, held⟩ := inv.origin e usable
      exact ⟨source, request, token, held.presented.grown addresses grown, address ▸ held.address,
        sendKey.trans held.sendKey, receiveKey.trans held.receiveKey⟩

/-- An accepted request. -/
theorem Provenance.request (inv : Provenance config s) {source : Address}
    {request : ConnectionRequest} {reading : UInt64} {call : AeadCall}
    (accepted : Accepted config s request reading call) :
    Provenance config (s.record (.requested source request reading call)) := by
  have grown : thisRun s.trace ⊆
      thisRun (s.record (.requested source request reading call)).trace :=
    fun _ => List.mem_cons_of_mem _
  refine ⟨fun source' request' reading' call' member => ?_, fun e usable => ?_⟩
  · rcases List.mem_cons.mp member with isNew | old
    · cases isNew
      exact accepted.grown rfl grown
    · exact (inv.accepted _ _ _ _ old).grown rfl grown
  · obtain ⟨source, request, token, held⟩ := inv.origin e usable
    exact ⟨source, request, token, held.presented.grown ⟨rfl, rfl⟩ grown, held.address,
      held.sendKey, held.receiveKey⟩

end Growth

/-- Reading a request that passes the checks of `readPacket`. -/
theorem accepted_of_reads {reading : UInt64} {data : Bytes} {request : ConnectionRequest}
    {call : AeadCall} {key : Option Key} {window : Option ReplayProtection}
    (reads : ReadsAs env config.protocolID reading s.minConnectTokenExpireTimestamp
      serverAllowedPackets data key (some config.privateKey) window
      ⟨some (.connectionRequest request), 0, window, some call⟩)
    (opened : .opened .connectToken call ∈ thisRun s.trace) :
    Accepted config s request reading call := by
  generalize isOutcome : (⟨some (.connectionRequest request), 0, window, some call⟩ : ReadOutcome) =
    outcome at reads
  cases reads with
  | ignored => cases isOutcome
  | request key' request' call' allowed isKey bytes version protocol unexpired afterStart opens data
      length =>
    cases isOutcome
    cases isKey
    obtain ⟨isKey, -, additional, -, -⟩ := decryptAEADBigNonce_eq_some opens
    exact ⟨opened, isKey, additional, data, length, unexpired, afterStart⟩
  | encrypted key' prefixByte type sequenceData sequence call' packet isKey bytes notRequest isType
      allowed sequenceLength sequenceRange isSequence notReplayed opens decodes =>
    have isRequest : packet = some (.connectionRequest request) :=
      (congrArg ReadOutcome.packet isOutcome).symm
    rw [isRequest] at decodes
    exact absurd decodes decodePacket_ne_request

theorem Provenance.step (inv : Provenance config s) (step : TokenStep env config s s') :
    Provenance config s' := by
  cases step with
  | quiet quiet =>
    obtain ⟨new, trace, noToken⟩ := quiet.trace
    refine inv.grown new trace (fun source request reading call member => ?_)
      (Quiet.inside noToken) quiet.addresses quiet.floor fun e usable => .inr ?_
    · exact List.any_eq_false.mp noToken _ member rfl
    · obtain ⟨address, sendKey, receiveKey, -⟩ := quiet.kept e usable
      exact ⟨address, sendKey, receiveKey⟩
  | openRequest source reading data request call key window running head reads =>
    have opened : Provenance config (s.record (.opened .connectToken call)) :=
      inv.grown [.opened .connectToken call] rfl (by simp) (by simp [Effect.boundary]) ⟨rfl, rfl⟩
        rfl fun e _ => .inr ⟨rfl, rfl, rfl⟩
    exact opened.request (accepted_of_reads reads List.mem_cons_self)
  | ask source request token reading asking =>
    exact inv.grown [.clock reading] rfl (by simp) (by simp [Effect.boundary]) ⟨rfl, rfl⟩
      rfl fun e _ => .inr ⟨rfl, rfl, rfl⟩
  | grant source request token reading index e mapping manager asking admits writes added address =>
    refine inv.grown [.clock reading] rfl (by simp) (by simp [Effect.boundary]) ⟨rfl, rfl⟩ rfl
      fun j usable => ?_
    simp only [writes] at usable ⊢
    by_cases here : j = e
    · subst here
      rw [Function.update_self] at usable
      refine .inl ⟨source, request, token, ?_, ?_, ?_, ?_⟩
      · obtain ⟨reading', call, earlier, head⟩ := asking.head
        refine ⟨⟨reading', call, ?_⟩, asking.reads, asking.listed⟩
        show _ ∈ thisRun (.clock reading :: s.trace)
        rw [head]
        exact List.mem_cons_of_mem _ List.mem_cons_self
      · simp only [writes, Function.update_self]
        rcases address with isSource | equal
        · rw [← isSource]
          exact usable
        · exact Address.Equal.symm equal
      · simp only [writes, Function.update_self]
        exact added.sendKey
      · simp only [writes, Function.update_self]
        exact added.receiveKey
    · rw [Function.update_of_ne here]
      exact .inr ⟨rfl, rfl, rfl⟩
  | install source e i clientID userData found free =>
    have manager := installClient_manager s i source clientID e
      (s.encryptionManager.mapping e).timeout userData
    refine inv.grown [.installed i source e _ _] rfl (by simp) (by simp [Effect.boundary])
      ⟨rfl, rfl⟩ rfl fun j usable => .inr ?_
    rw [manager]
    by_cases here : j = e
    · subst here
      simp [EncryptionManager.set]
    · simp [EncryptionManager.set, here]
  | boundary effect new isBoundary noToken trace entries manager =>
    refine ⟨fun source request reading call member => ?_, fun e usable => ?_⟩
    · rw [trace, thisRun_boundary isBoundary] at member
      cases member
    · rw [manager] at usable
      exact absurd rfl (Address.Equal.type_ne_none usable)

theorem Provenance.new (config : ServerConfig) (address address2 : Address) (time : ℚ) :
    Provenance config (new address address2 time) :=
  ⟨nofun, fun _ usable => absurd rfl (Address.Equal.type_ne_none usable)⟩

/-- **Every key of a run comes from an accepted request.** -/
theorem Run.provenance {calls : List Call} (quiet : config.NonReentrant)
    (run : Run env config calls s) : Provenance config s :=
  Run.along (fun _ => True) (Provenance config) quiet (fun _ _ _ met => met)
    (fun address address2 time => .new config address address2 time)
    (fun _ _ inv atom _ held => held.step (atom.tokenStep inv)) run trivial

end Server

end Netcode
