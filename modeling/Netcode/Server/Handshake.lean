/-
**The server's half of a handshake.**

A connection request is answered by a challenge, the response to it by a slot and a keep-alive. This
module follows one handshake through the server, in any state a run reaches:

* `handle_request` — a request the server can admit (`CanAdmit`) is answered by a challenge; the
  server then waits for the response (`Waiting`);
* `Waiting.idles` — it still waits after any number of `Update`s, which send to the clients and let
  some of them go, as long as the mapping of the client has not expired;
* `Waiting.respond` — a response in time is answered by a keep-alive with the slot the client got.

A datagram is handled in the same way by `ProcessPacket` and by `Update` (`handle`).
-/

import Netcode.Codec.Packets
import Netcode.Server.Reached
import Netcode.Server.Tokens

namespace Netcode

/-! ### Adding a mapping -/

namespace EncryptionManager

variable {env : Platform} {m m' : EncryptionManager} {address : Address} {time expireTime : ℚ}
  {sendKey receiveKey : Key} {timeout : Int32} {index : Nat}

/-- The table has a mapping that is free, or reusable, or of the address. -/
def HasRoom (env : Platform) (m : EncryptionManager) (address : Address) (time : ℚ) : Prop :=
  ∃ e < maxEncryptionMappings, (m.mapping e).address.type = AddressNone ∨
    (m.mapping e).expired env time = true ∧ (m.mapping e).clientIndex = none ∨
    (m.mapping e).address.Equal address = true

theorem reusable_isSome {e : Nat} (small : e < maxEncryptionMappings)
    (takes : (m.mapping e).address.type = AddressNone ∨
      (m.mapping e).expired env time = true ∧ (m.mapping e).clientIndex = none) :
    ∃ found, m.reusable env time = some found := by
  cases found : m.reusable env time with
  | some e => exact ⟨e, rfl⟩
  | none =>
    have taken := List.find?_eq_none.mp found e (List.mem_range.mpr small)
    simp only [Bool.or_eq_true, Bool.and_eq_true, decide_eq_true_eq] at taken
    exact absurd takes taken

/-- **With room there is a mapping for the address**, also once the one it has was refreshed. -/
theorem addEncryptionMapping_isSome (isFloat : env.IsFloat64 time) (tidy : m.Tidy)
    (unowned : ∀ e, (m.mapping e).address.Equal address = true → (m.mapping e).clientIndex = none)
    (room : m.HasRoom env address time) (sendKey receiveKey : Key) (expireTime : ℚ)
    (timeout : Int32) (index : Nat) :
    ∃ m', (m.findEncryptionMapping env address time).2.addEncryptionMapping env address sendKey
      receiveKey time expireTime timeout index = some m' := by
  unfold findEncryptionMapping
  cases found : m.lookup env address time with
  | some e =>
    dsimp only
    rw [addEncryptionMapping, Server.lookup_access isFloat found]
    exact ⟨_, rfl⟩
  | none =>
    have free : ∃ e, m.reusable env time = some e := by
      obtain ⟨e, small, unused | reusable | same⟩ := room
      · exact reusable_isSome small (.inl unused)
      · exact reusable_isSome small (.inr reusable)
      · exact reusable_isSome small (.inr ⟨lookup_eq_none.mp found e
          (tidy.used (Address.Equal.type_ne_none same)) same, unowned e same⟩)
    obtain ⟨e, free⟩ := free
    dsimp only
    rw [addEncryptionMapping, found, free]
    exact ⟨_, rfl⟩

theorem Tidy.find (tidy : m.Tidy) (env : Platform) (address : Address) (time : ℚ) :
    (m.findEncryptionMapping env address time).2.Tidy := by
  unfold findEncryptionMapping
  cases found : m.lookup env address time with
  | none => exact tidy
  | some e =>
    have keeps : Keeps env address time m (m.access e time) :=
      .rewrite env time (lookup_eq_some.mp found).2.1 rfl
    exact keeps.tidy tidy

/-- A mapping that was just added has not expired. -/
theorem Added.live {mapping : EncryptionMapping} (isFloat : env.IsFloat64 time)
    (added : Added mapping sendKey receiveKey time expireTime timeout index)
    (later : 0 ≤ expireTime → time ≤ expireTime) : mapping.expired env time = false := by
  simp only [EncryptionMapping.expired, Bool.or_eq_false_iff, Bool.and_eq_false_imp,
    decide_eq_true_eq, decide_eq_false_iff_not, added.lastAccessTime, added.expireTime]
  refine ⟨fun positive => not_lt.mpr ?_, fun waits => not_lt.mpr (later waits)⟩
  exact isFloat.le_add (seconds_nonneg (Int32.le_of_lt positive))

/-- **The address finds the mapping that was added.** -/
theorem lookup_add (tidy : m.Tidy) (isFloat : env.IsFloat64 time)
    (usable : address.Equal address = true) (later : 0 ≤ expireTime → time ≤ expireTime)
    (added : m.addEncryptionMapping env address sendKey receiveKey time expireTime timeout index =
      some m') :
    ∃ e, m'.lookup env address time = some e ∧
      Added (m'.mapping e) sendKey receiveKey time expireTime timeout index := by
  obtain ⟨e, mapping, writes, fields, -, place⟩ := addEncryptionMapping_cases added
  have here : m'.mapping e = mapping := by rw [writes, Function.update_self]
  have away : ∀ j, j ≠ e → m'.mapping j = m.mapping j := by
    intro j other
    rw [writes, Function.update_of_ne other]
  have live := fields.live isFloat later
  refine ⟨e, lookup_eq_some.mpr ?_, here ▸ fields⟩
  rw [here]
  rcases place with ⟨found, same, count⟩ | ⟨absent, -, isAddress, count⟩
  · obtain ⟨small, equal, -, earlier⟩ := lookup_eq_some.mp found
    refine ⟨by omega, by rw [same]; exact equal, live, fun p less equalP => ?_⟩
    rw [away p (by omega)] at equalP ⊢
    exact earlier p less equalP
  · refine ⟨by omega, by rw [isAddress]; exact usable, live, fun p less equalP => ?_⟩
    rw [away p (by omega)] at equalP ⊢
    exact lookup_eq_none.mp absent p (tidy.used (Address.Equal.type_ne_none equalP)) equalP

end EncryptionManager

namespace Server

open Relation

variable {env : Platform} {config : ServerConfig} {s s' t u : Server} {calls : List Call}
  {source : Address} {i e : Nat}

/-! ### What every run keeps -/

/-- The flags, which only tests set. -/
theorem Atom.flags (atom : Atom env config s s') : s'.flags = s.flags := by
  cases atom with
  | arrive => rfl
  | micro micro =>
    cases micro with
    | openPacket source reading data clientIndex e outcome call running head located reads isOpened
        notRequest =>
      obtain ⟨clients, same, -⟩ := applyReading_eq s source reading clientIndex outcome isOpened
        notRequest
      rw [same]
    | _ => rfl

/-- Requests and responses are not ignored. -/
theorem Run.flags (quiet : config.NonReentrant) (run : Run env config calls s) : s.flags = 0 :=
  Run.along (fun _ => True) (fun s => s.flags = 0) quiet (fun _ _ _ met => met) (fun _ _ _ => rfl)
    (fun _ _ _ atom _ held => atom.flags.trans held) run trivial

/-- **Every MAC stands once in the history**, and the entries mappings refer to are in use. -/
structure HistoryOk (s : Server) : Prop where
  distinct : MacsDistinct s.connectTokenEntries
  used : ∀ e index, Usable (s.encryptionManager.mapping e).address →
    (s.encryptionManager.mapping e).connectTokenEntryIndex = some index →
    (s.connectTokenEntries index).state ≠ .free

/-- An entry in use stays in use. -/
theorem consult_used (s : Server) (source : Address) (request : ConnectionRequest)
    (reading : UInt64) {index : Nat} (used : (s.connectTokenEntries index).state ≠ .free) :
    ((consult s source request reading).1 index).state ≠ .free := by
  unfold consult
  have cases_ := @findOrAdd_cases s.connectTokenEntries source (requestMac request)
    request.connectTokenExpireTimestamp reading s.time
  generalize connectTokenEntriesFindOrAdd s.connectTokenEntries source (requestMac request)
    request.connectTokenExpireTimestamp reading s.time = result at cases_
  cases cases_ with
  | refused => exact used
  | historyFull => exact used
  | admitted => exact used
  | added added =>
    dsimp only
    by_cases here : index = added
    · rw [here, Function.update_self]
      exact fun impossible => by cases impossible
    · rw [Function.update_of_ne here]
      exact used

/-- The entry that admits a request is in use. -/
theorem consult_entry {request : ConnectionRequest} {reading : UInt64} {index : Nat}
    (admits : (consult s source request reading).2 = .entry index) :
    ((consult s source request reading).1 index).state ≠ .free := by
  unfold consult at admits ⊢
  have cases_ := @findOrAdd_cases s.connectTokenEntries source (requestMac request)
    request.connectTokenExpireTimestamp reading s.time
  generalize connectTokenEntriesFindOrAdd s.connectTokenEntries source (requestMac request)
    request.connectTokenExpireTimestamp reading s.time = result at cases_ admits
  cases cases_ with
  | refused => cases admits
  | historyFull => cases admits
  | admitted added small pending =>
    cases admits
    rw [pending]
    exact fun impossible => by cases impossible
  | added added =>
    cases admits
    dsimp only
    rw [Function.update_self]
    exact fun impossible => by cases impossible

theorem HistoryOk.atom (ok : HistoryOk s) (binding : Binding env s) (atom : Atom env config s s') :
    HistoryOk s' := by
  have noted : ∀ source request reading,
      MacsDistinct (consult s source request reading).1 := by
    intro source request reading
    unfold consult
    exact ok.distinct.findOrAdd
  cases atom.tokenStep binding with
  | quiet quiet =>
    refine ⟨quiet.entries ▸ ok.distinct, fun e index usable isIndex => ?_⟩
    obtain ⟨address, -, -, entry⟩ := quiet.kept e usable
    rw [quiet.entries]
    exact ok.used e index (address ▸ usable) (entry ▸ isIndex)
  | openRequest => exact ⟨ok.distinct, ok.used⟩
  | ask source request token reading asking =>
    exact ⟨noted source request reading, fun e index usable isIndex =>
      consult_used s source request reading (ok.used e index usable isIndex)⟩
  | grant source request token reading index e mapping manager asking admits writes added address =>
    refine ⟨noted source request reading, fun p k usable isIndex => ?_⟩
    dsimp only at usable isIndex
    rw [writes] at usable isIndex
    by_cases here : p = e
    · rw [here, Function.update_self, added.connectTokenEntryIndex] at isIndex
      cases isIndex
      exact consult_entry admits
    · rw [Function.update_of_ne here] at usable isIndex
      exact consult_used s source request reading (ok.used p k usable isIndex)
  | install source e i clientID userData found free =>
    have mappings : ∀ p, ((installClient s i source clientID e (s.encryptionManager.mapping e).timeout
        userData).encryptionManager.mapping p).address = (s.encryptionManager.mapping p).address ∧
        ((installClient s i source clientID e (s.encryptionManager.mapping e).timeout
          userData).encryptionManager.mapping p).connectTokenEntryIndex =
          (s.encryptionManager.mapping p).connectTokenEntryIndex := by
      intro p
      rw [installClient_manager]
      by_cases here : p = e
      · subst here
        simp [EncryptionManager.set]
      · simp [EncryptionManager.set, Function.update_of_ne here]
    have usable : Usable (s.encryptionManager.mapping e).address :=
      usable_of_equal (EncryptionManager.lookup_eq_some.mp found).2.1
    have entries : ∃ entries, (installClient s i source clientID e
        (s.encryptionManager.mapping e).timeout userData).connectTokenEntries = entries ∧
        MacsDistinct entries ∧
        ∀ k, (s.connectTokenEntries k).state ≠ .free → (entries k).state ≠ .free := by
      cases isIndex : (s.encryptionManager.mapping e).connectTokenEntryIndex with
      | none =>
        refine ⟨s.connectTokenEntries, ?_, ok.distinct, fun _ used => used⟩
        have none_ := (mappings e).2.trans isIndex
        unfold installClient at none_ ⊢
        simp only [EncryptionManager.getConnectTokenEntryIndex] at none_ ⊢
        rw [none_]
      | some index =>
        have used := ok.used e index usable isIndex
        refine ⟨_, installClient_entries s i source clientID _ userData isIndex,
          ok.distinct.consume used, fun k usedK => ?_⟩
        exact (consume_entry used k).2.2.1.mpr usedK
    obtain ⟨entries, isEntries, distinct, used⟩ := entries
    refine ⟨isEntries ▸ distinct, fun p k usableP isIndex => ?_⟩
    rw [(mappings p).1] at usableP
    rw [(mappings p).2] at isIndex
    rw [isEntries]
    exact used k (ok.used p k usableP isIndex)
  | boundary effect new isBoundary noToken trace entries manager =>
    refine ⟨entries ▸ macsDistinct_reset, fun e index usable => ?_⟩
    rw [manager] at usable
    cases usable

theorem Run.historyOk (quiet : config.NonReentrant) (run : Run env config calls s) :
    HistoryOk s := by
  refine Run.along (fun _ => True) HistoryOk quiet (fun _ _ _ met => met) (fun _ _ _ => ?_)
    (fun _ _ binding atom _ held => held.atom binding atom) run trivial
  exact ⟨macsDistinct_reset, fun _ _ usable => by cases usable⟩

/-! ### Handling a datagram -/

/-- When a datagram is handled: the server's time and its readings of the clock. -/
structure Arrival where
  time : ℚ
  currentTimestamp : UInt64
  reading : UInt64

/-- The server's time goes forward. -/
def Arrival.After (env : Platform) (arrival : Arrival) (s : Server) : Prop :=
  s.time ≤ arrival.time ∧ env.IsFloat64 arrival.time

/-- The server when the datagram arrives. -/
def Arrival.begin (arrival : Arrival) (s : Server) : Server :=
  { s with time := arrival.time }.record (.clock arrival.currentTimestamp)

/-- **One datagram is handled**, by `ProcessPacket` or first in its batch by `Update`. -/
def handle (env : Platform) (config : ServerConfig) (s : Server) (arrival : Arrival)
    (source : Address) (data : Bytes) : Go Server :=
  readAndProcessPacket env config (arrival.begin s) source data arrival.currentTimestamp
    arrival.reading

theorem update_eq_handle (data : Bytes) (time : ℚ) (currentTimestamp reading : UInt64) :
    update env config s time currentTimestamp [⟨source, data, reading⟩] =
      (handle env config s ⟨time, currentTimestamp, reading⟩ source data).bind fun s =>
        (sendPackets env config s).bind (checkForTimeouts env config) := by
  unfold update receivePackets
  rw [List.foldlM_cons]
  show ((handle env config s ⟨time, currentTimestamp, reading⟩ source data).bind some).bind _ = _
  rw [Option.bind_fun_some]
  rfl

/-- **A datagram from an address at which nobody is connected** is read with the live mapping of the
address, and without a replay window. -/
theorem readAndProcessPacket_stranger {data : Bytes} {currentTimestamp reading sequence : UInt64}
    {found : Option Nat} {manager : EncryptionManager} {packet : Packet}
    {window : Option ReplayProtection} {opened : Option AeadCall} (running : s.running = true)
    (stranger : s.findClientIndexByAddress source = none) (long : 1 < data.length)
    (finds : s.encryptionManager.findEncryptionMapping env source s.time = (found, manager))
    (known : manager.getReceiveKey found ≠ none ∨ data.head? = some 0)
    (reads : readPacket env config.protocolID currentTimestamp s.minConnectTokenExpireTimestamp
      serverAllowedPackets data (manager.getReceiveKey found) (some config.privateKey) none =
        some ⟨some packet, sequence, window, opened⟩) :
    readAndProcessPacket env config s source data currentTimestamp reading =
      processPacketInternal env config
        ({ s.record (.datagram currentTimestamp source data) with
          encryptionManager := manager }.recordReading source currentTimestamp opened (some packet))
        source packet sequence found none reading := by
  have located : locateMapping env (s.record (.datagram currentTimestamp source data)) source none =
      (found, { s.record (.datagram currentTimestamp source data) with
        encryptionManager := manager }) := by
    simp only [locateMapping]
    rw [show (s.record (.datagram currentTimestamp source data)).encryptionManager.findEncryptionMapping
      env source (s.record (.datagram currentTimestamp source data)).time = (found, manager) from finds]
  have unread : ¬ (manager.getReceiveKey found = none ∧ data.head? ≠ some 0) := by
    rintro ⟨noKey, notRequest⟩
    exact known.elim (fun key => key noKey) notRequest
  unfold readAndProcessPacket
  dsimp only
  rw [if_neg (by simp [record, running]), if_neg (by omega), show (s.record
    (.datagram currentTimestamp source data)).findClientIndexByAddress source = none from stranger,
    located]
  dsimp only
  rw [if_neg unread, Option.map_none, show (s.record
    (.datagram currentTimestamp source data)).minConnectTokenExpireTimestamp =
      s.minConnectTokenExpireTimestamp from rfl, reads, Option.bind_eq_bind, Option.bind_some]
  rfl

/-! ### Waiting for the response -/

/-- A handshake between its challenge and its response. -/
structure Handshake where
  source : Address
  token : ConnectTokenPrivate
  /-- When the challenge was sent. -/
  since : ℚ
  encryptionIndex : Nat
  challengeKey : Key
  maxClients : Nat

/-- The mapping of the client has not expired. -/
def Handshake.InTime (env : Platform) (h : Handshake) (time : ℚ) : Prop :=
  0 ≤ h.token.timeoutSeconds → time ≤ env.float64 (h.since + h.token.timeoutSeconds.toInt)

/-- **The server waits for the response**: nobody is connected from the address or with the client
id, a slot is free, and the live mapping of the address has the keys of the token. -/
structure Waiting (env : Platform) (h : Handshake) (s : Server) : Prop where
  ok : s.slotTable.Ok
  tables : s.TablesOk
  running : s.running = true
  flags : s.flags = 0
  challengeKey : s.challengeKey = h.challengeKey
  maxClients : s.maxClients = h.maxClients
  found : s.encryptionManager.lookup env h.source s.time = some h.encryptionIndex
  mapping : ∃ index, EncryptionManager.Added (s.encryptionManager.mapping h.encryptionIndex)
    h.token.serverToClientKey h.token.clientToServerKey h.since
    (if 0 ≤ h.token.timeoutSeconds then env.float64 (h.since + h.token.timeoutSeconds.toInt)
      else -1) h.token.timeoutSeconds index
  strangerAddress : s.findClientIndexByAddress h.source = none
  strangerID : s.findClientIndexByID h.token.clientID = none
  room : ∃ i < s.maxClients, (s.clients i).connected = false

variable {h : Handshake}

/-- The mapping expires when its client has been given its time. -/
theorem Waiting.live (waiting : Waiting env h s) {time : ℚ} (inTime : h.InTime env time) :
    (s.encryptionManager.mapping h.encryptionIndex).expired env time = false := by
  obtain ⟨index, added⟩ := waiting.mapping
  simp only [EncryptionMapping.expired, Bool.or_eq_false_iff, Bool.and_eq_false_imp,
    decide_eq_true_eq, decide_eq_false_iff_not, added.lastAccessTime, added.expireTime, added.timeout]
  constructor
  · intro positive
    exact not_lt.mpr (inTime (Int32.le_of_lt positive))
  · intro waits
    by_cases given : 0 ≤ h.token.timeoutSeconds
    · rw [if_pos given]
      exact not_lt.mpr (inTime given)
    · rw [if_neg given] at waits
      exact absurd waits (by norm_num)

/-- Time passes. -/
theorem Waiting.tick (waiting : Waiting env h s) {time : ℚ} (forward : s.time ≤ time)
    (inTime : h.InTime env time) (effect : Effect) :
    Waiting env h ({ s with time := time }.record effect) := by
  obtain ⟨small, equal, -, earlier⟩ := EncryptionManager.lookup_eq_some.mp waiting.found
  exact { waiting with
    ok := waiting.ok
    tables := ⟨waiting.tables.tidy, waiting.tables.stopped⟩
    found := EncryptionManager.lookup_eq_some.mpr ⟨small, equal, waiting.live inTime,
      fun p less same => EncryptionManager.expired_mono forward (earlier p less same)⟩ }

/-! ### Updates in between -/

/-- **What `Update` does to the clients**: it sends to one of them, or lets it go. -/
structure Upkeep (env : Platform) (s s' : Server) : Prop where
  moves : Moves s s'
  running : s'.running = s.running
  flags : s'.flags = s.flags
  time : s'.time = s.time
  maxClients : s'.maxClients = s.maxClients
  challengeKey : s'.challengeKey = s.challengeKey
  clients : ∀ j, (s'.clients j).connected = true → SameSession (s.clients j) (s'.clients j)
  mappings : ∃ i, (s.clients i).connected = true ∧
    EncryptionManager.Keeps env (s.clients i).address s.time s.encryptionManager s'.encryptionManager

theorem Waiting.upkeep (waiting : Waiting env h s) (upkeep : Upkeep env s s') :
    Waiting env h s' := by
  obtain ⟨i, connected, keeps⟩ := upkeep.mappings
  -- the client that was sent to or let go is not at the address of the handshake
  have absent := findClientIndexByAddress_eq_none.mp waiting.strangerAddress
  have apart : h.source.Equal (s.clients i).address = false := by
    by_contra equal
    have elsewhere := absent i (waiting.ok.inUse i connected) connected
    rw [Address.Equal.symm (by simpa using equal)] at elsewhere
    cases elsewhere
  obtain ⟨-, equal, live, -⟩ := EncryptionManager.lookup_eq_some.mp waiting.found
  have same : s'.encryptionManager.mapping h.encryptionIndex =
      s.encryptionManager.mapping h.encryptionIndex := by
    refine keeps.kept _ (Address.Equal.type_ne_none equal) ?_ (.inl live)
    by_contra other
    rw [Address.Equal.trans (Address.Equal.symm equal) (by simpa using other)] at apart
    cases apart
  refine ⟨waiting.ok.steps upkeep.moves.table, upkeep.moves.tables waiting.tables,
    upkeep.running.trans waiting.running, upkeep.flags.trans waiting.flags,
    upkeep.challengeKey.trans waiting.challengeKey, upkeep.maxClients.trans waiting.maxClients,
    ?_, by rw [same]; exact waiting.mapping, ?_, ?_, ?_⟩
  · rw [upkeep.time, keeps.lookup waiting.tables.tidy apart]
    exact waiting.found
  · refine findClientIndexByAddress_eq_none.mpr fun j small connectedJ => ?_
    have session := upkeep.clients j connectedJ
    rw [session.address]
    exact absent j (upkeep.maxClients ▸ small) (session.connected ▸ connectedJ)
  · refine findClientIndexByID_eq_none.mpr fun j small connectedJ => ?_
    have session := upkeep.clients j connectedJ
    rw [session.clientID]
    exact findClientIndexByID_eq_none.mp waiting.strangerID j (upkeep.maxClients ▸ small)
      (session.connected ▸ connectedJ)
  · obtain ⟨j, small, free⟩ := waiting.room
    refine ⟨j, upkeep.maxClients.symm ▸ small, ?_⟩
    by_contra connectedJ
    rw [Bool.not_eq_false] at connectedJ
    rw [← (upkeep.clients j connectedJ).connected, connectedJ] at free
    cases free

/-- A keep-alive is sent. -/
theorem sendClientPacket_upkeep (env : Platform) (config : ServerConfig) (ok : s.slotTable.Ok)
    (connected : (s.clients i).connected = true) (network : (s.clients i).loopback = false)
    (p : Packet) : Follows (Upkeep env) s (sendClientPacket env config s p i) := by
  obtain ⟨e, mapped, isMapping⟩ := mapped_address ok connected network
  have sends := sendClientPacket_touch env config p mapped
  rw [if_pos isMapping] at sends
  have within := writeToClient_within env config p (s.encryptionManager.mapping e).sendKey isMapping
  refine ⟨_, sends, .single ⟨within.moves ok connected, rfl, rfl, rfl, rfl, rfl, fun j _ => ?_, i,
    connected, within.mappings⟩⟩
  by_cases here : j = i
  · rw [here]
    exact within.slot
  · rw [within.others j here]
    exact .refl _

/-- A client times out. -/
theorem timeout_upkeep (env : Platform) (quiet : config.NonReentrant) (ok : s.slotTable.Ok)
    (connected : (s.clients i).connected = true) (network : (s.clients i).loopback = false) :
    Follows (Upkeep env) s (disconnectClientInternal env config s i false .timedOut) := by
  obtain ⟨e, mapped, -⟩ := mapped_address ok connected network
  obtain ⟨t, returns, moves, vacated, time, mappings⟩ := disconnectClientInternal_moves env quiet ok
    connected network false .timedOut
  refine ⟨t, returns, .single ⟨moves, vacated.running, ?_, time, vacated.maxClients, ?_,
    fun j stays => ?_, i, connected, mappings⟩⟩
  · rw [disconnectClientInternal_silent env quiet mapped] at returns
    cases returns
    rfl
  · rw [disconnectClientInternal_silent env quiet mapped] at returns
    cases returns
    rfl
  · by_cases here : j = i
    · rw [here, vacated.gone] at stays
      cases stays
    · rw [vacated.others j here]
      exact .refl _

/-- **The end of an `Update`** keeps up the clients. -/
theorem sendAndCheck_upkeep (env : Platform) (quiet : config.NonReentrant) (ok : s.slotTable.Ok) :
    Follows (Upkeep env) s ((sendPackets env config s).bind (checkForTimeouts env config)) :=
  Stepwise.sendAndCheck_follows (fun _ _ okT upkeep => SlotTable.Ok.steps okT upkeep.moves.table)
    (fun okT connected network => sendClientPacket_upkeep env config okT connected network _)
    (timeout_upkeep env quiet) ok

/-- **Nothing arrives**: the end of the `Update` that handled the last datagram, and further
`Update`s that receive nothing. -/
inductive Idles (env : Platform) (config : ServerConfig) : Server → Server → Prop
  | refl (s : Server) : Idles env config s s
  | finish {s t u : Server} (before : Idles env config s t)
      (done : (sendPackets env config t).bind (checkForTimeouts env config) = some u) :
      Idles env config s u
  | update {s t u : Server} (before : Idles env config s t) (time : ℚ) (currentTimestamp : UInt64)
      (forward : t.time ≤ time) (done : update env config t time currentTimestamp [] = some u) :
      Idles env config s u

theorem upkeep_chain (chain : ReflTransGen (Upkeep env) s s') :
    s'.time = s.time ∧ (s.slotTable.Ok → s'.slotTable.Ok) ∧
      (Waiting env h s → Waiting env h s') := by
  induction chain with
  | refl => exact ⟨rfl, fun ok => ok, fun waiting => waiting⟩
  | tail _ last ih =>
    exact ⟨last.time.trans ih.1, fun ok => (ih.2.1 ok).steps last.moves.table,
      fun waiting => (ih.2.2 waiting).upkeep last⟩

/-- **The server waits as long as the mapping has not expired.** -/
theorem Waiting.idles (quiet : config.NonReentrant) (waiting : Waiting env h s)
    (idles : Idles env config s s') (inTime : h.InTime env s'.time) : Waiting env h s' := by
  suffices both : s'.slotTable.Ok ∧ (h.InTime env s'.time → Waiting env h s') from both.2 inTime
  clear inTime
  induction idles with
  | refl => exact ⟨waiting.ok, fun _ => waiting⟩
  | finish _ done ih =>
    obtain ⟨ok, waits⟩ := ih
    obtain ⟨_, returns, chain⟩ := sendAndCheck_upkeep env quiet ok
    cases done.symm.trans returns
    obtain ⟨time, keepsOk, keeps⟩ := @upkeep_chain env _ _ h chain
    exact ⟨keepsOk ok, fun inTime => keeps (waits (time ▸ inTime))⟩
  | @update t u _ time currentTimestamp forward done ih =>
    obtain ⟨ok, waits⟩ := ih
    have okTick : ({ t with time := time }.record (.clock currentTimestamp)).slotTable.Ok := ok
    obtain ⟨_, returns, chain⟩ := sendAndCheck_upkeep env quiet okTick
    have done : (sendPackets env config ({ t with time := time }.record
      (.clock currentTimestamp))).bind (checkForTimeouts env config) = some u := done
    cases done.symm.trans returns
    obtain ⟨isTime, keepsOk, keeps⟩ := @upkeep_chain env _ _ h chain
    refine ⟨keepsOk okTick, fun inTime => keeps ?_⟩
    have isTime : u.time = time := isTime
    rw [isTime] at inTime
    exact (waits fun given => forward.trans (inTime given)).tick forward inTime _

/-! ### The request -/

/-- **The server can admit a token** that is presented from an address. -/
structure CanAdmit (env : Platform) (s : Server) (arrival : Arrival) (source : Address)
    (token : ConnectTokenPrivate) (expireTimestamp : UInt64) (mac : Mac) : Prop where
  usable : Usable source
  unexpired : arrival.currentTimestamp < expireTimestamp
  afterStart : s.minConnectTokenExpireTimestamp ≤ expireTimestamp
  listed : s.serverAddressListed token = true
  strangerAddress : ∀ i, (s.clients i).connected = true → (s.clients i).address.Equal source = false
  strangerID : ∀ i, (s.clients i).connected = true → (s.clients i).clientID ≠ token.clientID
  history : HistoryAdmits s.connectTokenEntries source mac arrival.reading
  free : ∃ i < s.maxClients, (s.clients i).connected = false
  room : s.encryptionManager.HasRoom env source arrival.time

/-- The challenge for a token. -/
def challengeFor (env : Platform) (token : ConnectTokenPrivate) (challengeSequence : UInt64)
    (challengeKey : Key) : FixedBytes challengeTokenBytes :=
  .copyFrom challengeTokenBytes (encryptChallengeToken env
    (ChallengeToken.write ⟨token.clientID, token.userData⟩) challengeSequence challengeKey).ciphertext

/-- A request that passes every check is granted a mapping and sent a challenge. -/
theorem processConnectionRequestPacket_grants {request : ConnectionRequest} {reading : UInt64}
    {token : ConnectTokenPrivate} {index : Nat} {manager : EncryptionManager}
    (readsToken : ConnectTokenPrivate.read request.connectTokenData.bytes = some (some token))
    (listed : s.serverAddressListed token = true)
    (strangerAddress : s.findClientIndexByAddress source = none)
    (strangerID : s.findClientIndexByID token.clientID = none)
    (admits : (consult s source request reading).2 = .entry index)
    (room : s.numConnectedClients ≠ s.maxClients)
    (added : s.encryptionManager.addEncryptionMapping env source token.serverToClientKey
      token.clientToServerKey s.time (mappingExpireTime env s token) token.timeoutSeconds index =
        some manager) :
    processConnectionRequestPacket env config s source request reading =
      some (sendChallenge env config
        { noteRequest s source request reading with encryptionManager := manager } source request
        token) := by
  unfold processConnectionRequestPacket
  rw [readsToken, Option.bind_eq_bind, Option.bind_some]
  dsimp only
  rw [if_neg (by simp [listed]), if_neg (not_not.mpr strangerAddress),
    if_neg (not_not.mpr strangerID), admits]
  dsimp only
  unfold admitRequest
  rw [if_neg (show ¬ (noteRequest s source request reading).numConnectedClients =
      (noteRequest s source request reading).maxClients from room),
    show (noteRequest s source request reading).encryptionManager.addEncryptionMapping env source
    token.serverToClientKey token.clientToServerKey (noteRequest s source request reading).time
    (mappingExpireTime env (noteRequest s source request reading) token) token.timeoutSeconds index =
      some manager from added]
  rfl

/-- **A request is answered by a challenge**, and the server waits for the response. -/
theorem handle_request (quiet : config.NonReentrant) (run : Run env config calls s)
    (running : s.running = true) {arrival : Arrival} (after : arrival.After env s)
    {token : ConnectTokenPrivate} {expireTimestamp : UInt64} {request : ConnectionRequest}
    {data : Bytes} {call : AeadCall} (isRequest : data.head? = some 0) (long : 1 < data.length)
    (reads : ∀ key window, readPacket env config.protocolID arrival.currentTimestamp
      s.minConnectTokenExpireTimestamp serverAllowedPackets data key (some config.privateKey) window =
        some ⟨some (.connectionRequest request), 0, window, some call⟩)
    (readsToken : ConnectTokenPrivate.read request.connectTokenData.bytes = some (some token))
    (admits : s.CanAdmit env arrival source token expireTimestamp (requestMac request)) :
    ∃ s' e, handle env config s arrival source data = some s' ∧
      s'.trace.head? = some (.sent source (writePacket env (.connectionChallenge s.challengeSequence
        (challengeFor env token s.challengeSequence s.challengeKey)) s.globalSequence
          token.serverToClientKey config.protocolID)) ∧
      s'.time = arrival.time ∧
      Waiting env ⟨source, token, arrival.time, e, s.challengeKey, s.maxClients⟩ s' := by
  obtain ⟨ok, tables⟩ := run.reached.ok quiet
  have strangerAddress : s.findClientIndexByAddress source = none :=
    findClientIndexByAddress_eq_none.mpr fun i _ => admits.strangerAddress i
  have strangerID : s.findClientIndexByID token.clientID = none :=
    findClientIndexByID_eq_none.mpr fun i _ => admits.strangerID i
  have notFull : s.numConnectedClients ≠ s.maxClients := by
    intro full
    obtain ⟨i, small, free⟩ := admits.free
    rw [show (s.clients i).connected = true from ok.full_iff.mp full i small] at free
    cases free
  -- the server when the request is processed: the mapping of the address was refreshed
  obtain ⟨found, manager, refreshed⟩ : ∃ found manager,
      s.encryptionManager.findEncryptionMapping env source arrival.time = (found, manager) :=
    ⟨_, _, rfl⟩
  have handled : handle env config s arrival source data = _ := readAndProcessPacket_stranger running
    strangerAddress long refreshed (.inr isRequest) (reads _ none)
  have noFlags := run.flags quiet
  have flags : s.flags &&& serverFlagIgnoreConnectionRequestPackets = 0 := by
    rw [noFlags]
    rfl
  obtain ⟨asked, isAsked⟩ : ∃ asked, asked = (({ (arrival.begin s).record
      (.datagram arrival.currentTimestamp source data) with encryptionManager := manager }.record
        (.opened .connectToken call)).record
          (.requested source request arrival.currentTimestamp call)) := ⟨_, rfl⟩
  have processed : handle env config s arrival source data =
      processConnectionRequestPacket env config asked source request arrival.reading := by
    rw [handled, isAsked]
    exact if_pos flags
  -- the history and the table both have room
  obtain ⟨index, entry⟩ : ∃ index, (consult asked source request arrival.reading).2 = .entry index := by
    unfold consult
    rw [isAsked]
    exact findOrAdd_admits (run.historyOk quiet).distinct admits.history
  have unowned : ∀ e, (s.encryptionManager.mapping e).address.Equal source = true →
      (s.encryptionManager.mapping e).clientIndex = none :=
    fun e equal => (run.binding quiet).stranger strangerAddress equal
  obtain ⟨manager', added⟩ := EncryptionManager.addEncryptionMapping_isSome after.2 tables.tidy unowned
    admits.room token.serverToClientKey token.clientToServerKey
    (mappingExpireTime env asked token) token.timeoutSeconds index
  have tidy := tables.tidy.find env source arrival.time
  rw [refreshed] at added tidy
  have added : asked.encryptionManager.addEncryptionMapping env source token.serverToClientKey
      token.clientToServerKey asked.time (mappingExpireTime env asked token) token.timeoutSeconds
      index = some manager' := by
    rw [isAsked] at added ⊢
    exact added
  have grants := @processConnectionRequestPacket_grants env config asked source request arrival.reading
    token index manager' readsToken (by rw [isAsked]; exact admits.listed)
    (by rw [isAsked]; exact strangerAddress) (by rw [isAsked]; exact strangerID) entry
    (by rw [isAsked]; exact notFull) added
  have isTime : asked.time = arrival.time := by rw [isAsked]; rfl
  have later : 0 ≤ mappingExpireTime env asked token →
      arrival.time ≤ mappingExpireTime env asked token := by
    unfold mappingExpireTime
    rw [isTime]
    split_ifs with given
    · intro _
      exact after.2.le_add (seconds_nonneg given)
    · intro negative
      exact absurd negative (by norm_num)
  rw [isTime] at added
  obtain ⟨e, finds, fields⟩ := EncryptionManager.lookup_add
    (show asked.encryptionManager.Tidy by rw [isAsked]; exact tidy) after.2 admits.usable later added
  have okBegin : (arrival.begin s).slotTable.Ok := ok
  obtain ⟨s', returns, accounted⟩ := readAndProcessPacket_slots env quiet okBegin source data
    arrival.currentTimestamp arrival.reading
  have isState := (returns.symm.trans processed).trans grants
  cases isState
  subst isAsked
  exact ⟨_, e, returns, rfl, rfl, okBegin.steps accounted.moves.table,
    accounted.moves.tables ⟨tables.tidy, tables.stopped⟩, running, noFlags, rfl, rfl, finds,
    ⟨index, fields⟩, strangerAddress, strangerID, admits.free⟩

/-! ### The response -/

/-- The server opens its own challenge and reads the client's identity off it. -/
theorem challengeFor_opens (env : Platform) (token : ConnectTokenPrivate) (sequence : UInt64)
    (key : Key) :
    ∃ call, decryptChallengeToken env (challengeFor env token sequence key) sequence key =
        some call ∧
      ChallengeToken.read (call.plaintext ++ (challengeFor env token sequence key).bytes.drop
        (challengeTokenBytes - MacBytes)) = some (some ⟨token.clientID, token.userData⟩) := by
  have length := encryptChallengeToken_length env
    (ChallengeToken.write ⟨token.clientID, token.userData⟩) sequence key
  have isData : (challengeFor env token sequence key).bytes = _ := FixedBytes.copyFrom_bytes length
  refine ⟨encryptChallengeToken env (ChallengeToken.write ⟨token.clientID, token.userData⟩) sequence
    key, ?_, ?_⟩
  · unfold decryptChallengeToken decryptAEAD
    rw [isData]
    unfold encryptChallengeToken encryptAEAD
    rw [env.chacha20poly1305.decrypt_encrypt]
    rfl
  · refine ChallengeToken.read_write _ _ ?_
    rw [List.length_drop, FixedBytes.length_eq]
    rfl

/-- A response that passes every check has its client installed. -/
theorem processConnectionResponsePacket_installs {token : ConnectTokenPrivate} {sequence : UInt64}
    (strangerAddress : s.findClientIndexByAddress source = none)
    (strangerID : s.findClientIndexByID token.clientID = none)
    (room : s.numConnectedClients ≠ s.maxClients) (free : s.findFreeClientIndex = some i) :
    ∃ call, processConnectionResponsePacket env config s source sequence
        (challengeFor env token sequence s.challengeKey) (some e) =
      connectClient env config ((s.record (.opened .challengeToken call)).record
        (.responded source sequence (s.encryptionManager.mapping e).sendKey
          (s.encryptionManager.mapping e).receiveKey)) i source token.clientID e
        (s.encryptionManager.mapping e).timeout token.userData := by
  obtain ⟨call, opens, reads⟩ := challengeFor_opens env token sequence s.challengeKey
  refine ⟨call, ?_⟩
  -- the server once it has noted the challenge and the response
  obtain ⟨noted, isNoted⟩ : ∃ noted, noted = (s.record (.opened .challengeToken call)).record
    (.responded source sequence
      ((s.record (.opened .challengeToken call)).encryptionManager.mapping e).sendKey
      ((s.record (.opened .challengeToken call)).encryptionManager.mapping e).receiveKey) := ⟨_, rfl⟩
  have checks : noted.findClientIndexByAddress source = none ∧
      noted.findClientIndexByID token.clientID = none ∧
      noted.numConnectedClients ≠ noted.maxClients ∧ noted.findFreeClientIndex = some i := by
    rw [isNoted]
    exact ⟨strangerAddress, strangerID, room, free⟩
  unfold processConnectionResponsePacket
  rw [opens]
  dsimp only
  rw [reads, Option.bind_eq_bind, Option.bind_some]
  dsimp only
  rw [← isNoted, if_neg (not_not.mpr checks.1), if_neg (not_not.mpr checks.2.1),
    if_neg checks.2.2.1, checks.2.2.2, isNoted]
  rfl

/-- The response to the challenge. -/
def Handshake.response (env : Platform) (h : Handshake) (challengeSequence : UInt64) : Packet :=
  .connectionResponse challengeSequence (challengeFor env h.token challengeSequence h.challengeKey)

/-- **The response of a client in time reaches `connectClient`**, for the first free slot. It is read
with the key of the mapping, which is refreshed. -/
theorem Waiting.connects (waiting : Waiting env h s)
    (sequence challengeSequence currentTimestamp reading : UInt64)
    (free : s.findFreeClientIndex = some i) :
    ∃ noted, readAndProcessPacket env config s h.source (writePacket env
        (h.response env challengeSequence) sequence h.token.clientToServerKey config.protocolID)
        currentTimestamp reading =
      connectClient env config noted i h.source h.token.clientID h.encryptionIndex
        (noted.encryptionManager.mapping h.encryptionIndex).timeout h.token.userData ∧
      noted.clients = s.clients ∧ noted.maxClients = s.maxClients ∧
      noted.encryptionManager = s.encryptionManager.access h.encryptionIndex s.time := by
  obtain ⟨index, fields⟩ := waiting.mapping
  have notFull : s.numConnectedClients ≠ s.maxClients := by
    intro full
    obtain ⟨small, vacant⟩ := findFreeClientIndex_eq_some free
    rw [show (s.clients i).connected = true from waiting.ok.full_iff.mp full i small] at vacant
    cases vacant
  have finds : s.encryptionManager.findEncryptionMapping env h.source s.time =
      (some h.encryptionIndex, s.encryptionManager.access h.encryptionIndex s.time) := by
    unfold EncryptionManager.findEncryptionMapping
    rw [waiting.found]
  have key : (s.encryptionManager.access h.encryptionIndex s.time).getReceiveKey
      (some h.encryptionIndex) = some h.token.clientToServerKey := by
    obtain ⟨_, accessed⟩ := access_mapping s.encryptionManager h.encryptionIndex h.encryptionIndex
      s.time
    rw [EncryptionManager.getReceiveKey, Option.map_some, accessed]
    exact congrArg some fields.receiveKey
  have fits : (h.response env challengeSequence).Sealable := trivial
  have long := (@writePacket_length env _ fits sequence h.token.clientToServerKey config.protocolID).1
  simp only [MacBytes] at long
  have handled := @readAndProcessPacket_stranger env config s h.source _ currentTimestamp reading _ _ _
    _ _ _ waiting.running waiting.strangerAddress (by rw [long]; omega) finds
    (.inl (by rw [key]; exact fun impossible => by cases impossible))
    (by
      rw [key]
      exact readPacket_writePacket fits sequence h.token.clientToServerKey rfl
        (fun _ _ impossible => by cases impossible))
  have flags : s.flags &&& serverFlagIgnoreConnectionResponsePackets = 0 := by
    rw [waiting.flags]
    rfl
  -- the server when the response is processed
  obtain ⟨asked, isAsked⟩ : ∃ asked, asked = { s.record (.datagram currentTimestamp h.source
      (writePacket env (h.response env challengeSequence) sequence h.token.clientToServerKey
        config.protocolID)) with
    encryptionManager := s.encryptionManager.access h.encryptionIndex s.time }.record
      (.opened .packet (sealPacket env (h.response env challengeSequence) sequence
        h.token.clientToServerKey config.protocolID)) := ⟨_, rfl⟩
  have isKey : asked.challengeKey = h.challengeKey := by
    rw [isAsked]
    exact waiting.challengeKey
  obtain ⟨call, installs⟩ := @processConnectionResponsePacket_installs env config asked h.source i
    h.encryptionIndex h.token challengeSequence (by rw [isAsked]; exact waiting.strangerAddress)
    (by rw [isAsked]; exact waiting.strangerID) (by rw [isAsked]; exact notFull)
    (by rw [isAsked]; exact free)
  rw [isKey] at installs
  subst isAsked
  exact ⟨_, handled.trans ((if_pos flags).trans installs), rfl, rfl, rfl⟩

/-- **A response in time is answered by a keep-alive** with the slot the client got, which is the
first free one. -/
theorem Waiting.respond (quiet : config.NonReentrant) (waiting : Waiting env h s)
    (sequence challengeSequence currentTimestamp reading : UInt64) :
    ∃ s' i, readAndProcessPacket env config s h.source (writePacket env
        (h.response env challengeSequence) sequence h.token.clientToServerKey config.protocolID)
        currentTimestamp reading = some s' ∧
      s.findFreeClientIndex = some i ∧
      s'.trace.head? = some (.sent h.source (writePacket env (.connectionKeepAlive (Int32.ofNat i)
        (Int32.ofNat h.maxClients)) 0 h.token.serverToClientKey config.protocolID)) ∧
      (s'.clients i).connected = true ∧ (s'.clients i).loopback = false ∧
      (s'.clients i).clientID = h.token.clientID ∧ (s'.clients i).userData = h.token.userData ∧
      (s'.clients i).address = h.source ∧
      (s'.clients i).encryptionIndex = some h.encryptionIndex := by
  obtain ⟨-, equal, -, -⟩ := EncryptionManager.lookup_eq_some.mp waiting.found
  obtain ⟨index, fields⟩ := waiting.mapping
  obtain ⟨i, free⟩ : ∃ i, s.findFreeClientIndex = some i := by
    cases found : s.findFreeClientIndex with
    | some i => exact ⟨i, rfl⟩
    | none =>
      obtain ⟨i, small, free⟩ := waiting.room
      have taken := List.find?_eq_none.mp found i (List.mem_range.mpr small)
      rw [free] at taken
      exact absurd rfl taken
  obtain ⟨noted, processed, clients, maxClients, manager⟩ := waiting.connects sequence
    challengeSequence currentTimestamp reading free
  obtain ⟨_, mapping⟩ := access_mapping s.encryptionManager h.encryptionIndex h.encryptionIndex s.time
  rw [← manager] at mapping
  rw [connectClient_eq env quiet i h.token.clientID _ h.token.userData
    (by rw [mapping]; exact equal)] at processed
  obtain ⟨installed, isInstalled⟩ : ∃ installed, installed = installClient noted i h.source
    h.token.clientID h.encryptionIndex (noted.encryptionManager.mapping h.encryptionIndex).timeout
    h.token.userData := ⟨_, rfl⟩
  rw [← isInstalled] at processed
  have slot : installed.clients i = (noted.clients i).fill h.source h.token.clientID h.encryptionIndex
      (noted.encryptionManager.mapping h.encryptionIndex).timeout h.token.userData noted.time := by
    rw [isInstalled]
    exact Function.update_self _ _ _
  have sendKey : (installed.encryptionManager.mapping h.encryptionIndex).sendKey =
      h.token.serverToClientKey := by
    rw [isInstalled, installClient_manager]
    simp only [EncryptionManager.set, Function.update_self]
    rw [mapping]
    exact fields.sendKey
  have count : installed.maxClients = h.maxClients := by
    rw [isInstalled, ← waiting.maxClients, ← maxClients]
    rfl
  have session := writeToClient_session env config
    { installed with
      encryptionManager := installed.encryptionManager.access h.encryptionIndex noted.time }
    (installed.keepAlivePacket i) i (installed.encryptionManager.mapping h.encryptionIndex).sendKey i
  dsimp only at session
  rw [slot] at session
  refine ⟨_, i, processed, free, ?_, session.connected, session.loopback.trans ?_,
    session.clientID, session.userData, session.address, session.encryptionIndex⟩
  · simp only [writeToClient, List.head?_cons]
    rw [slot, sendKey, keepAlivePacket, count]
    rfl
  · show (noted.clients i).loopback = false
    rw [clients, show s.clients i = _ from
      waiting.ok.vacant i (findFreeClientIndex_eq_some free).2]
    rfl

end Server

end Netcode
