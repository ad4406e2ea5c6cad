/-
**Servers in range.**

The checked functions are their unchecked counterparts wherever the indices they are given are in
range and the loops stop in time: for the tables (`addEncryptionMapping_eq` and the others), and for
a server whose bounds fit its arrays and whose clients' mappings are in the table (`InRange`), as long
as the callbacks do not call the server.

* `processPacket_eq` — **a server in range handles every datagram without leaving an array.**
-/

import Netcode.Server.Checked
import Netcode.Server.Handling

namespace Netcode.Checked

/-! ### The tables in range -/

section Cells

variable {m : EncryptionManager} {entries : ConnectTokenEntries} {s : Server} {index i : Nat}

theorem mappingAt_eq (inside : index < maxEncryptionMappings) :
    mappingAt m index = some (m.mapping index) := Bounded.get_eq inside _

theorem setMapping_eq (inside : index < maxEncryptionMappings) (mapping : EncryptionMapping) :
    setMapping m index mapping = some (m.set index mapping) := by
  rw [setMapping, Bounded.set_eq inside]
  rfl

theorem entryAt_eq (inside : index < maxConnectTokenEntries) :
    entryAt entries index = some (entries index) := Bounded.get_eq inside _

theorem setEntry_eq (inside : index < maxConnectTokenEntries) (entry : ConnectTokenEntry) :
    setEntry entries index entry = some (Function.update entries index entry) :=
  Bounded.set_eq inside _ _

theorem slotAt_eq (inside : i < MaxClients) : slotAt s i = some (s.clients i) :=
  Bounded.get_eq inside _

theorem setSlot_eq (inside : i < MaxClients) (slot : ClientSlot) :
    setSlot s i slot = some (s.setClient i slot) := by
  rw [setSlot, Bounded.set_eq inside]
  rfl

end Cells

section Tables

variable (env : Platform) {m : EncryptionManager} {index : Nat}

/-- A loop over the mappings in use. -/
theorem findMapping_eq (fits : m.numEncryptionMappings ≤ maxEncryptionMappings)
    (passes : EncryptionMapping → Bool) :
    ((List.range m.numEncryptionMappings).findM? fun i => do
      let mapping ← mappingAt m i
      return passes mapping) =
    some ((List.range m.numEncryptionMappings).find? fun i => passes (m.mapping i)) := by
  refine Bounded.findM?_eq_some fun i member => ?_
  rw [mappingAt_eq (lt_of_lt_of_le (List.mem_range.mp member) fits)]
  rfl

theorem lookup_eq (fits : m.numEncryptionMappings ≤ maxEncryptionMappings) (address : Address)
    (time : ℚ) : lookup env m address time = some (m.lookup env address time) :=
  findMapping_eq fits fun mapping => mapping.address.Equal address && !mapping.expired env time

theorem reusable_eq (m : EncryptionManager) (time : ℚ) :
    reusable env m time = some (m.reusable env time) := by
  refine Bounded.findM?_eq_some fun i member => ?_
  rw [mappingAt_eq (List.mem_range.mp member)]
  rfl

theorem addEncryptionMapping_eq (fits : m.numEncryptionMappings ≤ maxEncryptionMappings)
    (address : Address) (sendKey receiveKey : Key) (time expireTime : ℚ) (timeout : Int32)
    (connectTokenEntryIndex : Nat) :
    addEncryptionMapping env m address sendKey receiveKey time expireTime timeout
        connectTokenEntryIndex =
      some (m.addEncryptionMapping env address sendKey receiveKey time expireTime timeout
        connectTokenEntryIndex) := by
  unfold addEncryptionMapping EncryptionManager.addEncryptionMapping
  rw [lookup_eq env fits, Option.bind_eq_bind, Option.bind_some]
  cases found : m.lookup env address time with
  | some e =>
    have inside := lt_of_lt_of_le (EncryptionManager.lookup_eq_some.mp found).1 fits
    dsimp only
    rw [mappingAt_eq inside, Option.bind_eq_bind, Option.bind_some, setMapping_eq inside]
    rfl
  | none =>
    dsimp only
    rw [reusable_eq, Option.bind_eq_bind, Option.bind_some]
    cases room : m.reusable env time with
    | none => rfl
    | some e =>
      have inside := (EncryptionManager.reusable_eq_some room).1
      dsimp only
      rw [mappingAt_eq inside, Option.bind_eq_bind, Option.bind_some, setMapping_eq inside]
      rfl

theorem trim_eq (time : ℚ) {count : Nat} (fits : count ≤ maxEncryptionMappings) :
    trim env time count m = some (EncryptionManager.trim env time count m.mapping) := by
  induction count generalizing m with
  | zero => rfl
  | succ count ih =>
    simp only [trim, EncryptionManager.trim, mappingAt_eq fits, setMapping_eq fits,
      ih (Nat.le_of_succ_le fits), Option.bind_eq_bind, Option.bind_some]
    split_ifs <;> rfl

theorem removeEncryptionMapping_eq (fits : m.numEncryptionMappings ≤ maxEncryptionMappings)
    (address : Address) (time : ℚ) :
    removeEncryptionMapping env m address time = some (m.removeEncryptionMapping env address time) := by
  unfold removeEncryptionMapping EncryptionManager.removeEncryptionMapping
  rw [findMapping_eq fits fun mapping => mapping.address.Equal address, Option.bind_eq_bind,
    Option.bind_some]
  cases found : (List.range m.numEncryptionMappings).find? fun i =>
      (m.mapping i).address.Equal address with
  | none => rfl
  | some e =>
    have small : e < m.numEncryptionMappings := List.mem_range.mp (List.mem_of_find?_eq_some found)
    have inside := lt_of_lt_of_le small fits
    simp only [mappingAt_eq inside, setMapping_eq inside, trim_eq env time inside.le,
      Option.bind_eq_bind, Option.bind_some]
    split_ifs <;> rfl

theorem access_eq (inside : index < maxEncryptionMappings) (time : ℚ) :
    access m index time = some (m.access index time) := by
  rw [access, mappingAt_eq inside, Option.bind_eq_bind, Option.bind_some, setMapping_eq inside]
  rfl

theorem findEncryptionMapping_eq (fits : m.numEncryptionMappings ≤ maxEncryptionMappings)
    (address : Address) (time : ℚ) :
    findEncryptionMapping env m address time = some (m.findEncryptionMapping env address time) := by
  unfold findEncryptionMapping EncryptionManager.findEncryptionMapping
  rw [lookup_eq env fits, Option.bind_eq_bind, Option.bind_some]
  cases found : m.lookup env address time with
  | none => rfl
  | some e =>
    have inside := lt_of_lt_of_le (EncryptionManager.lookup_eq_some.mp found).1 fits
    dsimp only
    rw [access_eq inside]
    rfl

theorem touch_eq (inside : index < maxEncryptionMappings) (address : Address) (time : ℚ) :
    touch m index address time = some (m.touch index address time) := by
  unfold touch EncryptionManager.touch
  rw [mappingAt_eq inside, access_eq inside, Option.bind_eq_bind, Option.bind_some, Option.bind_eq_bind,
    Option.bind_some]
  split_ifs <;> rfl

theorem setExpireTime_eq (inside : index < maxEncryptionMappings) (expireTime : ℚ) :
    setExpireTime m index expireTime = some (m.setExpireTime index expireTime) := by
  rw [setExpireTime, mappingAt_eq inside, Option.bind_eq_bind, Option.bind_some, setMapping_eq inside]
  rfl

theorem setClientIndex_eq (inside : index < maxEncryptionMappings) (clientIndex : Option Nat) :
    setClientIndex m index clientIndex = some (m.setClientIndex index clientIndex) := by
  rw [setClientIndex, mappingAt_eq inside, Option.bind_eq_bind, Option.bind_some, setMapping_eq inside]
  rfl

theorem getMapping_eq {α : Type} {index : Option Nat}
    (inside : ∀ e, index = some e → e < maxEncryptionMappings) (nothing : α)
    (field : EncryptionMapping → α) :
    getMapping m index nothing field = some (index.elim nothing fun e => field (m.mapping e)) := by
  cases index with
  | none => rfl
  | some e =>
    rw [getMapping, mappingAt_eq (inside e rfl)]
    rfl

theorem connectTokenEntriesFindOrAdd_eq (entries : ConnectTokenEntries) (address : Address) (mac : Mac)
    (expireTimestamp currentTimestamp : UInt64) (time : ℚ) :
    connectTokenEntriesFindOrAdd entries address mac expireTimestamp currentTimestamp time =
      some (Netcode.connectTokenEntriesFindOrAdd entries address mac expireTimestamp currentTimestamp
        time) := by
  have scans : scanEntries entries mac currentTimestamp =
      some (matchingTokenIndex entries mac, freeTokenIndex entries currentTimestamp) := by
    have turns : ∀ found, ∀ i ∈ List.range maxConnectTokenEntries, (do
        let entry ← entryAt entries i
        return (if entry.state ≠ .free && mac = entry.mac then some i else found.1,
          if found.2.isNone && (entry.state = .free || entry.expireTimestamp ≤ currentTimestamp) then
            some i
          else found.2)) =
        some (Bounded.scanTurn (fun i => (entries i).state ≠ .free && mac = (entries i).mac)
          (fun i => (entries i).state = .free || (entries i).expireTimestamp ≤ currentTimestamp)
          found i) := by
      intro found i member
      rw [entryAt_eq (List.mem_range.mp member)]
      rfl
    have whole := Bounded.foldlM_eq_some turns (none, none)
    rw [Bounded.foldl_scan] at whole
    exact whole
  unfold connectTokenEntriesFindOrAdd Netcode.connectTokenEntriesFindOrAdd
  rw [scans, Option.bind_eq_bind, Option.bind_some]
  dsimp only
  cases known : matchingTokenIndex entries mac with
  | none =>
    cases room : freeTokenIndex entries currentTimestamp with
    | none => rfl
    | some index =>
      dsimp only
      rw [setEntry_eq (freeTokenIndex_eq_some room).1]
      rfl
  | some index =>
    dsimp only
    rw [entryAt_eq (matchingTokenIndex_eq_some known).1, Option.bind_eq_bind, Option.bind_some]
    split_ifs <;> rfl

theorem connectTokenEntriesConsume_eq (entries : ConnectTokenEntries) (index : Nat) :
    connectTokenEntriesConsume entries index =
      some (Netcode.connectTokenEntriesConsume entries index) := by
  unfold connectTokenEntriesConsume Netcode.connectTokenEntriesConsume
  split_ifs with inside
  · rw [entryAt_eq inside, Option.bind_eq_bind, Option.bind_some, setEntry_eq inside]
  · rfl

end Tables

/-! ### The server in range -/

/-- An index of the mappings, or `-1`. -/
def MappingIndex (index : Option Nat) : Prop := ∀ e, index = some e → e < maxEncryptionMappings

/-- **A server in range**: the loops over the slots and over the mappings stay within their arrays,
and so does the mapping of every client with an address. -/
structure InRange (s : Server) : Prop where
  slots : s.maxClients ≤ MaxClients
  mappings : s.encryptionManager.numEncryptionMappings ≤ maxEncryptionMappings
  linked : ∀ i, (s.clients i).connected = true → (s.clients i).address.type ≠ AddressNone →
    MappingIndex (s.clients i).encryptionIndex

section Server

variable (env : Platform) {config : ServerConfig} {s : Server} {i e : Nat}

/-- A loop over the slots in use. -/
theorem findSlot_eq (fits : s.maxClients ≤ MaxClients) (passes : ClientSlot → Bool) :
    ((List.range s.maxClients).findM? fun i => do
      let slot ← slotAt s i
      return passes slot) =
    some ((List.range s.maxClients).find? fun i => passes (s.clients i)) := by
  refine Bounded.findM?_eq_some fun i member => ?_
  rw [slotAt_eq (lt_of_lt_of_le (List.mem_range.mp member) fits)]
  rfl

theorem findClientIndexByID_eq (fits : s.maxClients ≤ MaxClients) (clientID : UInt64) :
    findClientIndexByID s clientID = some (s.findClientIndexByID clientID) :=
  findSlot_eq fits fun slot => slot.connected && slot.clientID = clientID

theorem findClientIndexByAddress_eq (fits : s.maxClients ≤ MaxClients) (address : Address) :
    findClientIndexByAddress s address = some (s.findClientIndexByAddress address) :=
  findSlot_eq fits fun slot => slot.connected && slot.address.Equal address

theorem findFreeClientIndex_eq (fits : s.maxClients ≤ MaxClients) :
    findFreeClientIndex s = some s.findFreeClientIndex :=
  findSlot_eq fits fun slot => !slot.connected

theorem sendClientPacket_eq (config : ServerConfig) (p : Packet) (small : i < MaxClients)
    (linked : MappingIndex (s.clients i).encryptionIndex) :
    sendClientPacket env config s p i = Server.sendClientPacket env config s p i := by
  unfold sendClientPacket Server.sendClientPacket
  rw [slotAt_eq small, Option.bind_eq_bind, Option.bind_some]
  refine Option.bind_congr fun e isMapping => ?_
  have inside := linked e isMapping
  rw [touch_eq inside, Option.bind_eq_bind, Option.bind_some]
  cases s.encryptionManager.touch e (s.clients i).address s.time with
  | none => rfl
  | some manager =>
    simp only [mappingAt_eq inside, setSlot_eq small, Option.bind_eq_bind, Option.bind_some]
    rfl

theorem resetClientSlot_eq (small : i < MaxClients) :
    resetClientSlot s i = some (Server.resetClientSlot s i) := by
  rw [resetClientSlot, slotAt_eq small, Option.bind_eq_bind, Option.bind_some, setSlot_eq small]
  rfl

/-- The end of a disconnection. -/
theorem releaseClient_eq (fits : s.encryptionManager.numEncryptionMappings ≤ maxEncryptionMappings)
    (small : i < MaxClients) (linked : MappingIndex (s.clients i).encryptionIndex) :
    releaseClient env s i =
      (s.clients i).encryptionIndex.bind fun e => some (Server.releaseClient env s i e) := by
  unfold releaseClient
  rw [slotAt_eq small, Option.bind_eq_bind, Option.bind_some, setSlot_eq small, Option.bind_eq_bind,
    Option.bind_some]
  refine Option.bind_congr fun e isMapping => ?_
  have removes := removeEncryptionMapping_eq env (m := s.encryptionManager.setClientIndex e none) fits
    (s.clients i).address s.time
  rw [setClientIndex_eq (linked e isMapping), Option.bind_eq_bind, Option.bind_some]
  show (removeEncryptionMapping env (s.encryptionManager.setClientIndex e none) (s.clients i).address
    s.time).bind _ = _
  rw [removes, Option.bind_some, resetClientSlot_eq small]
  rfl

/-- A client that disconnects by itself. -/
theorem disconnectClientInternal_eq (quiet : config.NonReentrant)
    (fits : s.encryptionManager.numEncryptionMappings ≤ maxEncryptionMappings) (small : i < MaxClients)
    (linked : MappingIndex (s.clients i).encryptionIndex) (reason : DisconnectReason) :
    disconnectClientInternal env config s i false reason =
      Server.disconnectClientInternal env config s i false reason := by
  let noted := s.setClient i { s.clients i with disconnectReason := reason }
  have slot : noted.clients i = { s.clients i with disconnectReason := reason } :=
    Function.update_self _ _ _
  simp only [disconnectClientInternal, Server.disconnectClientInternal, slotAt_eq small,
    setSlot_eq small, Server.notify_eq quiet, Option.bind_eq_bind, Option.bind_some]
  show releaseClient env noted i =
    (noted.clients i).encryptionIndex.bind fun e => some (Server.releaseClient env noted i e)
  refine releaseClient_eq env fits small ?_
  rw [slot]
  exact linked

theorem admitRequest_eq (config : ServerConfig)
    (fits : s.encryptionManager.numEncryptionMappings ≤ maxEncryptionMappings) (source : Address)
    (request : ConnectionRequest) (token : ConnectTokenPrivate) (index : Nat) :
    admitRequest env config s source request token index =
      some (Server.admitRequest env config s source request token index) := by
  unfold admitRequest Server.admitRequest
  split_ifs
  · rfl
  · rw [addEncryptionMapping_eq env fits, Option.bind_eq_bind, Option.bind_some]
    cases s.encryptionManager.addEncryptionMapping env source token.serverToClientKey
      token.clientToServerKey s.time (Server.mappingExpireTime env s token) token.timeoutSeconds index
      <;> rfl

theorem consult_eq (s : Server) (source : Address) (request : ConnectionRequest) (reading : UInt64) :
    Server.consult s source request reading =
      Netcode.connectTokenEntriesFindOrAdd s.connectTokenEntries source (Server.requestMac request)
        request.connectTokenExpireTimestamp reading s.time := by
  unfold Server.consult
  exact Eq.refl _

theorem processConnectionRequestPacket_eq (config : ServerConfig) (range : InRange s)
    (source : Address) (request : ConnectionRequest) (reading : UInt64) :
    processConnectionRequestPacket env config s source request reading =
      Server.processConnectionRequestPacket env config s source request reading := by
  unfold processConnectionRequestPacket Server.processConnectionRequestPacket
  refine Option.bind_congr fun token? _ => ?_
  cases token? with
  | none => rfl
  | some token =>
    simp only [findClientIndexByAddress_eq range.slots, findClientIndexByID_eq range.slots,
      connectTokenEntriesFindOrAdd_eq, Option.bind_eq_bind, Option.bind_some]
    split_ifs
    · rfl
    · rfl
    · rfl
    rw [← consult_eq]
    cases (Server.consult s source request reading).2 with
    | historyFull => rfl
    | refused => rfl
    | entry index =>
      exact admitRequest_eq env config (s := s.noteRequest source request reading) range.mappings
        source request token index

theorem installClient_eq (small : i < MaxClients) (inside : e < maxEncryptionMappings)
    (address : Address) (clientID : UInt64) (timeoutSeconds : Int32) (userData : UserData) :
    installClient s i address clientID e timeoutSeconds userData =
      some (Server.installClient s i address clientID e timeoutSeconds userData) := by
  simp only [installClient, Server.installClient, setExpireTime_eq inside, setClientIndex_eq inside,
    slotAt_eq small, setSlot_eq small, mappingAt_eq inside, getConnectTokenEntryIndex, getMapping,
    EncryptionManager.getConnectTokenEntryIndex, Option.bind_eq_bind, Option.bind_some, Option.pure_def]
  cases (((s.encryptionManager.setExpireTime e (-1)).setClientIndex e (some i)).mapping
      e).connectTokenEntryIndex with
  | none => rfl
  | some index =>
    dsimp only
    rw [connectTokenEntriesConsume_eq]
    rfl

/-- `connectClient` with the free slot that was found. -/
theorem connectClient_eq (config : ServerConfig) (small : i < MaxClients)
    (inside : e < maxEncryptionMappings) (address : Address) (clientID : UInt64)
    (timeoutSeconds : Int32) (userData : UserData) :
    connectClient env config s i address clientID e timeoutSeconds userData =
      Server.connectClient env config s i address clientID e timeoutSeconds userData := by
  let installed := Server.installClient s i address clientID e timeoutSeconds userData
  have linked : MappingIndex (installed.clients i).encryptionIndex := by
    intro e' isMapping
    have slot : (installed.clients i).encryptionIndex = some e := by
      simp [installed, Server.installClient]
    cases slot.symm.trans isMapping
    exact inside
  unfold connectClient Server.connectClient
  rw [installClient_eq small inside, Option.bind_eq_bind, Option.bind_some,
    sendClientPacket_eq env config _ small linked]

theorem processConnectionResponsePacket_eq (config : ServerConfig) (range : InRange s)
    (source : Address) (challengeTokenSequence : UInt64)
    (challengeTokenData : FixedBytes challengeTokenBytes) {encryptionIndex : Option Nat}
    (linked : MappingIndex encryptionIndex) :
    processConnectionResponsePacket env config s source challengeTokenSequence challengeTokenData
        encryptionIndex =
      Server.processConnectionResponsePacket env config s source challengeTokenSequence
        challengeTokenData encryptionIndex := by
  unfold processConnectionResponsePacket Server.processConnectionResponsePacket
  cases decryptChallengeToken env challengeTokenData challengeTokenSequence s.challengeKey with
  | none => rfl
  | some call =>
    refine Option.bind_congr fun challenge? _ => ?_
    cases challenge? with
    | none => rfl
    | some challenge =>
      cases encryptionIndex with
      | none => rfl
      | some e =>
        have inside := linked e rfl
        have slots : ∀ first second, ((s.record first).record second).maxClients ≤ MaxClients :=
          fun _ _ => range.slots
        simp only [mappingAt_eq inside, findClientIndexByAddress_eq (slots _ _),
          findClientIndexByID_eq (slots _ _), findFreeClientIndex_eq (slots _ _), getTimeout,
          getMapping_eq linked, Option.bind_eq_bind, Option.bind_some]
        split_ifs
        · rfl
        · rfl
        · rfl
        refine Option.bind_congr fun i found => ?_
        have small : i < s.maxClients := List.mem_range.mp (List.mem_of_find?_eq_some found)
        exact connectClient_eq env config (lt_of_lt_of_le small range.slots) inside source
          challenge.clientID _ challenge.userData

theorem confirmClient_eq (small : i < MaxClients) : confirmClient s i = some (s.confirmClient i) := by
  rw [confirmClient, slotAt_eq small, Option.bind_eq_bind, Option.bind_some, setSlot_eq small]
  rfl

theorem pushPayload_eq (small : i < MaxClients) (payload : Bytes) (sequence : UInt64) :
    pushPayload s i payload sequence = some (s.pushPayload i payload sequence) := by
  have pushes : push (s.clients i).packetQueue payload sequence =
      some ((s.clients i).packetQueue.push payload sequence) := by
    have inside : ((s.clients i).packetQueue.startIndex + (s.clients i).packetQueue.numPackets) %
        packetQueueSize < packetQueueSize := Nat.mod_lt _ (by decide)
    simp only [push, PacketQueue.push, Bounded.set_eq inside, Option.bind_eq_bind, Option.bind_some]
    split_ifs <;> rfl
  simp only [pushPayload, slotAt_eq small, pushes, setSlot_eq small, Option.bind_eq_bind,
    Option.bind_some]
  rfl

/-- **A packet of any type**, with the indices the datagram was located with. -/
theorem processPacketInternal_eq (quiet : config.NonReentrant) (range : InRange s) (source : Address)
    (p : Packet) (sequence : UInt64) {encryptionIndex clientIndex : Option Nat}
    (linked : MappingIndex encryptionIndex)
    (client : ∀ i, clientIndex = some i → i < MaxClients ∧ MappingIndex (s.clients i).encryptionIndex)
    (reading : UInt64) :
    processPacketInternal env config s source p sequence encryptionIndex clientIndex reading =
      Server.processPacketInternal env config s source p sequence encryptionIndex clientIndex
        reading := by
  cases p with
  | connectionRequest request =>
    simp only [processPacketInternal, Server.processPacketInternal,
      processConnectionRequestPacket_eq env config range]
  | connectionResponse challengeTokenSequence challengeTokenData =>
    simp only [processPacketInternal, Server.processPacketInternal,
      processConnectionResponsePacket_eq env config range source challengeTokenSequence
        challengeTokenData linked]
  | connectionDenied | connectionChallenge => rfl
  | connectionKeepAlive =>
    cases clientIndex with
    | none => rfl
    | some i => exact confirmClient_eq (client i rfl).1
  | connectionPayload payload =>
    cases clientIndex with
    | none => rfl
    | some i =>
      obtain ⟨small, -⟩ := client i rfl
      simp only [processPacketInternal, Server.processPacketInternal, confirmClient_eq small,
        pushPayload_eq small, Option.bind_eq_bind, Option.bind_some]
  | connectionDisconnect =>
    cases clientIndex with
    | none => rfl
    | some i =>
      obtain ⟨small, linkedClient⟩ := client i rfl
      exact disconnectClientInternal_eq env quiet range.mappings small linkedClient .clientDisconnect

/-- Only the loops' bounds and the clients' sessions count. -/
theorem InRange.congr {t : Server} (range : InRange s) (maxClients : t.maxClients = s.maxClients)
    (mappings : t.encryptionManager.numEncryptionMappings = s.encryptionManager.numEncryptionMappings)
    (sessions : ∀ j, Server.SameSession (s.clients j) (t.clients j)) : InRange t := by
  refine ⟨maxClients ▸ range.slots, mappings ▸ range.mappings, fun j connected valid => ?_⟩
  rw [(sessions j).connected] at connected
  rw [(sessions j).address] at valid
  rw [(sessions j).encryptionIndex]
  exact range.linked j connected valid

/-- The client a datagram comes from. -/
theorem InRange.client (range : InRange s) {source : Address}
    (found : s.findClientIndexByAddress source = some i) :
    i < MaxClients ∧ MappingIndex (s.clients i).encryptionIndex := by
  obtain ⟨small, connected, equal⟩ := Server.findClientIndexByAddress_eq_some found
  exact ⟨lt_of_lt_of_le small range.slots,
    range.linked i connected (Address.Equal.type_ne_none equal)⟩

/-- **The mapping a datagram is read with is in range**, and so is the server with it. -/
theorem locateMapping_eq (range : InRange s) (source : Address) {clientIndex : Option Nat}
    (isIndex : s.findClientIndexByAddress source = clientIndex) :
    ∃ index t, locateMapping env s source clientIndex = some (index, t) ∧
      Server.locateMapping env s source clientIndex = (index, t) ∧ MappingIndex index ∧ InRange t ∧
      t.clients = s.clients := by
  cases clientIndex with
  | some i =>
    obtain ⟨small, linked⟩ := range.client isIndex
    refine ⟨(s.clients i).encryptionIndex, s, ?_, rfl, linked, range, rfl⟩
    rw [locateMapping, slotAt_eq small]
    rfl
  | none =>
    have finds := findEncryptionMapping_eq env range.mappings source s.time
    have number : (s.encryptionManager.findEncryptionMapping env source
        s.time).2.numEncryptionMappings = s.encryptionManager.numEncryptionMappings := by
      unfold EncryptionManager.findEncryptionMapping
      cases s.encryptionManager.lookup env source s.time <;> rfl
    have found : MappingIndex (s.encryptionManager.findEncryptionMapping env source s.time).1 := by
      intro e isMapping
      unfold EncryptionManager.findEncryptionMapping at isMapping
      cases looks : s.encryptionManager.lookup env source s.time with
      | none =>
        rw [looks] at isMapping
        cases isMapping
      | some e' =>
        rw [looks] at isMapping
        cases isMapping
        exact lt_of_lt_of_le (EncryptionManager.lookup_eq_some.mp looks).1 range.mappings
    refine ⟨_, _, ?_, rfl, found, range.congr rfl number fun _ => .refl _, rfl⟩
    rw [locateMapping, finds]
    rfl

/-- The replay window of a client. -/
theorem replayWindow_eq {clientIndex : Option Nat}
    (small : ∀ i, clientIndex = some i → i < MaxClients) :
    replayWindow s clientIndex = some (clientIndex.map fun i => (s.clients i).replayProtection) := by
  cases clientIndex with
  | none => rfl
  | some i =>
    rw [replayWindow, slotAt_eq (small i rfl)]
    rfl

theorem setWindow_eq {clientIndex : Option Nat} (small : ∀ i, clientIndex = some i → i < MaxClients)
    (window : Option ReplayProtection) :
    setWindow s clientIndex window = some (s.setWindow clientIndex window) := by
  cases clientIndex with
  | none => rfl
  | some i =>
    cases window with
    | none => rfl
    | some window =>
      rw [setWindow, slotAt_eq (small i rfl), Option.bind_eq_bind, Option.bind_some,
        setSlot_eq (small i rfl)]
      rfl

/-- **A server in range handles every datagram without leaving an array.** -/
theorem readAndProcessPacket_eq (quiet : config.NonReentrant) (range : InRange s) (source : Address)
    (packetData : Bytes) (currentTimestamp : UInt64) {allowedPackets : Nat → Bool}
    (allowed : ∀ type : PacketType, allowedPackets type.code.toNat = Server.serverAllowedPackets type)
    (reading : UInt64) :
    readAndProcessPacket env config s source packetData currentTimestamp allowedPackets reading =
      Server.readAndProcessPacket env config s source packetData currentTimestamp reading := by
  have arrived : InRange (s.record (.datagram currentTimestamp source packetData)) :=
    range.congr rfl rfl fun _ => .refl _
  unfold readAndProcessPacket Server.readAndProcessPacket
  generalize s.record (.datagram currentTimestamp source packetData) = t at *
  dsimp only
  by_cases stopped : (!t.running) = true
  · rw [if_pos stopped, if_pos stopped]
    rfl
  rw [if_neg stopped, if_neg stopped]
  cases packetData with
  | nil => rfl
  | cons first rest =>
    by_cases short : (first :: rest).length ≤ 1
    · rw [if_pos short, if_pos short]
      rfl
    rw [if_neg short, if_neg short]
    obtain ⟨index, u, locates, located, linked, rangeU, sameClients⟩ :=
      locateMapping_eq env arrived source rfl
    have key : getReceiveKey u.encryptionManager index =
        some (u.encryptionManager.getReceiveKey index) := by
      rw [getReceiveKey, getMapping_eq linked]
      cases index <;> rfl
    have small : ∀ i, t.findClientIndexByAddress source = some i → i < MaxClients :=
      fun i found => (arrived.client found).1
    have types : (fun type : PacketType => allowedPackets type.code.toNat) =
        Server.serverAllowedPackets := funext allowed
    simp only [findClientIndexByAddress_eq arrived.slots, locates, located, key, replayWindow_eq small,
      setWindow_eq small, readPacket_eq, types, List.getElem?_cons_zero, List.head?_cons, ne_eq,
      Option.some.injEq, Option.bind_eq_bind, Option.bind_some]
    split_ifs
    · rfl
    refine Option.bind_congr fun outcome _ => ?_
    obtain ⟨maxClients, manager, windows⟩ := Server.applyReading_windows u source currentTimestamp
      (t.findClientIndexByAddress source) outcome
    have sessions := fun j => Server.SameSession.of_window (windows j)
    have applies : (u.setWindow (t.findClientIndexByAddress source)
        outcome.replayProtection).recordReading source currentTimestamp outcome.opened outcome.packet =
        u.applyReading source currentTimestamp (t.findClientIndexByAddress source) outcome := rfl
    rw [applies]
    cases outcome.packet with
    | none => rfl
    | some packet =>
      have rangeRead := rangeU.congr maxClients (by rw [manager]) sessions
      refine processPacketInternal_eq env quiet rangeRead source packet outcome.sequence linked
        (fun i found => ⟨small i found, ?_⟩) reading
      rw [(sessions i).encryptionIndex, sameClients]
      exact (arrived.client found).2

/-- The table of `serverAllowedPackets`. -/
theorem serverAllowedPackets_eq : ∃ allowedPackets, serverAllowedPackets = some allowedPackets ∧
    ∀ type : PacketType, allowedPackets type.code.toNat = Server.serverAllowedPackets type := by
  refine ⟨_, rfl, fun type => ?_⟩
  cases type <;> rfl

theorem processPacket_eq (quiet : config.NonReentrant) (range : InRange s) (source : Address)
    (packetData : Bytes) (currentTimestamp reading : UInt64) :
    processPacket env config s source packetData currentTimestamp reading =
      Server.processPacket env config s source packetData currentTimestamp reading := by
  obtain ⟨allowedPackets, sets, allowed⟩ := serverAllowedPackets_eq
  have ticked : InRange (s.record (.clock currentTimestamp)) :=
    range.congr rfl rfl fun _ => .refl _
  rw [processPacket, sets, Option.bind_eq_bind, Option.bind_some,
    readAndProcessPacket_eq env quiet ticked source packetData currentTimestamp allowed reading]
  rfl

end Server

end Netcode.Checked
