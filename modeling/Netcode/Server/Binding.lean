/-
**Slots and mappings.**

A connected client is known to the server twice: by its slot, which names a mapping, and by that
mapping, which names the slot. `Binding` says that the two always agree, that the mapping table has
its shape (`EncryptionManager.Ok`), and that the counters are right.

* `Binding.micro`, `Binding.atom` — every atomic step keeps it;
* `Binding.stranger` — an address without a connected client has no mapping with one, so a
  connection request can only overwrite mappings nobody is connected through.
-/

import Netcode.Server.Atom
import Mathlib.Data.Finset.Card

namespace Netcode.Server

/-! ### Counting connected slots -/

/-- How many of the slots are connected. -/
def connectedCount (clients : Nat → ClientSlot) : Nat :=
  ((Finset.range MaxClients).filter fun i => (clients i).connected = true).card

section Count

variable {clients clients' : Nat → ClientSlot} {slot : ClientSlot} {i : Nat}

theorem connectedCount_congr (same : ∀ j, (clients' j).connected = (clients j).connected) :
    connectedCount clients' = connectedCount clients := by
  unfold connectedCount
  simp only [same]

theorem connectedCount_connect (small : i < MaxClients) (free : (clients i).connected = false)
    (connects : slot.connected = true) :
    connectedCount (Function.update clients i slot) = connectedCount clients + 1 := by
  have inserted : (Finset.range MaxClients).filter
        (fun j => (Function.update clients i slot j).connected = true) =
      insert i ((Finset.range MaxClients).filter fun j => (clients j).connected = true) := by
    ext j
    by_cases here : j = i
    · subst here
      simp [connects, small]
    · simp [here]
  unfold connectedCount
  rw [inserted, Finset.card_insert_of_notMem (by simp [free])]

theorem connectedCount_disconnect (small : i < MaxClients) (connected : (clients i).connected = true)
    (leaves : slot.connected = false) :
    connectedCount (Function.update clients i slot) + 1 = connectedCount clients := by
  have erased : (Finset.range MaxClients).filter
        (fun j => (Function.update clients i slot j).connected = true) =
      ((Finset.range MaxClients).filter fun j => (clients j).connected = true).erase i := by
    ext j
    by_cases here : j = i
    · subst here
      simp [leaves]
    · simp [here]
  unfold connectedCount
  rw [erased]
  exact Finset.card_erase_add_one (by simp [small, connected])

/-- **The count reaches the number of slots exactly when all of them are connected.** -/
theorem connectedCount_eq_iff {maxClients : Nat} (size : maxClients ≤ MaxClients)
    (inUse : ∀ i, (clients i).connected = true → i < maxClients) :
    connectedCount clients = maxClients ↔ ∀ i < maxClients, (clients i).connected = true := by
  have subset : (Finset.range MaxClients).filter (fun i => (clients i).connected = true) ⊆
      Finset.range maxClients := by
    intro i member
    exact Finset.mem_range.mpr (inUse i (Finset.mem_filter.mp member).2)
  constructor
  · intro full i small
    have whole := Finset.eq_of_subset_of_card_le subset (by
      rw [Finset.card_range]
      exact full.ge)
    have member : i ∈ (Finset.range MaxClients).filter fun i => (clients i).connected = true := by
      rw [whole]
      exact Finset.mem_range.mpr small
    exact (Finset.mem_filter.mp member).2
  · intro all
    have whole : (Finset.range MaxClients).filter (fun i => (clients i).connected = true) =
        Finset.range maxClients := by
      refine Finset.Subset.antisymm subset fun i member => ?_
      have small := Finset.mem_range.mp member
      exact Finset.mem_filter.mpr ⟨Finset.mem_range.mpr (small.trans_le size), all i small⟩
    rw [connectedCount, whole, Finset.card_range]

end Count

/-! ### The searches over the slots -/

section Searches

variable {s : Server} {address : Address} {clientID : UInt64} {i : Nat}

theorem findClientIndexByAddress_eq_some (found : s.findClientIndexByAddress address = some i) :
    i < s.maxClients ∧ (s.clients i).connected = true ∧
      (s.clients i).address.Equal address = true := by
  have member := List.mem_of_find?_eq_some found
  have holds := List.find?_some found
  rw [List.mem_range] at member
  rw [Bool.and_eq_true] at holds
  exact ⟨member, holds.1, holds.2⟩

theorem findClientIndexByAddress_eq_none :
    s.findClientIndexByAddress address = none ↔ ∀ i < s.maxClients,
      (s.clients i).connected = true → (s.clients i).address.Equal address = false := by
  simp [findClientIndexByAddress, List.find?_eq_none]

theorem findFreeClientIndex_eq_some (found : s.findFreeClientIndex = some i) :
    i < s.maxClients ∧ (s.clients i).connected = false := by
  have member := List.mem_of_find?_eq_some found
  have holds := List.find?_some found
  rw [List.mem_range] at member
  exact ⟨member, by simpa using holds⟩

end Searches

/-! ### The invariant -/

/-- Slot `i` and mapping `e` belong together. -/
structure Bound (s : Server) (i e : Nat) : Prop where
  index : (s.clients i).encryptionIndex = some e
  small : e < s.encryptionManager.numEncryptionMappings
  address : (s.encryptionManager.mapping e).address.Equal (s.clients i).address = true
  client : (s.encryptionManager.mapping e).clientIndex = some i
  lasting : (s.encryptionManager.mapping e).expireTime = -1

/-- **Slots and mappings agree.** -/
structure Binding (env : Platform) (s : Server) : Prop where
  slots : s.maxClients ≤ MaxClients
  idle : s.running = false → s.maxClients = 0 ∧
    s.connectTokenEntries = connectTokenEntriesReset ∧ s.encryptionManager = .reset
  isFloat : env.IsFloat64 s.time
  table : s.encryptionManager.Ok env s.time
  beyond : ∀ i, s.maxClients ≤ i → (s.clients i).connected = false
  vacant : ∀ i, (s.clients i).connected = false → (s.clients i).loopback = false
  inLoopback : ∀ i, (s.clients i).loopback = true →
    (s.clients i).address = Address.none ∧ (s.clients i).encryptionIndex = none
  bound : ∀ i, (s.clients i).connected = true → (s.clients i).loopback = false → ∃ e, Bound s i e
  owner : ∀ e i, (s.encryptionManager.mapping e).clientIndex = some i →
    (s.clients i).connected = true ∧ (s.clients i).loopback = false ∧
      (s.clients i).encryptionIndex = some e
  count : s.numConnectedClients = connectedCount s.clients

theorem Binding.new (env : Platform) (address address2 : Address) (time : ℚ)
    (isFloat : env.IsFloat64 time) : Binding env (new address address2 time) where
  slots := Nat.zero_le _
  idle := fun _ => ⟨rfl, rfl, rfl⟩
  isFloat := isFloat
  table := EncryptionManager.ok_reset
  beyond := fun _ _ => rfl
  vacant := fun _ _ => rfl
  inLoopback := fun _ loopback => nomatch loopback
  bound := fun _ connected => nomatch connected
  owner := fun _ _ held => nomatch held
  count := by simp [Server.new, connectedCount, ClientSlot.new]

section Consequences

variable {env : Platform} {s : Server} {source : Address} {i e : Nat}

/-- A connected slot is one of the slots in use. -/
theorem Binding.inUse (inv : Binding env s) (connected : (s.clients i).connected = true) :
    i < s.maxClients := by
  by_contra beyond
  rw [inv.beyond i (Nat.not_lt.mp beyond)] at connected
  cases connected

theorem Binding.running (inv : Binding env s) (connected : (s.clients i).connected = true) :
    s.running = true := by
  by_contra stopped
  have := inv.inUse connected
  have := (inv.idle (by simpa using stopped)).1
  omega

/-- **An address without a connected client has no mapping with one.** -/
theorem Binding.stranger (inv : Binding env s)
    (stranger : s.findClientIndexByAddress source = none)
    (equal : (s.encryptionManager.mapping e).address.Equal source = true) :
    (s.encryptionManager.mapping e).clientIndex = none := by
  cases held : (s.encryptionManager.mapping e).clientIndex with
  | none => rfl
  | some i =>
    obtain ⟨connected, network, index⟩ := inv.owner e i held
    obtain ⟨e', bound⟩ := inv.bound i connected network
    have sameIndex : e' = e := Option.some_inj.mp (bound.index.symm.trans index)
    subst sameIndex
    have absent := findClientIndexByAddress_eq_none.mp stranger i (inv.inUse connected) connected
    rw [Address.Equal.trans (Address.Equal.symm bound.address) equal] at absent
    cases absent

/-- The mapping of a connected slot, by its index. -/
theorem Binding.boundAt (inv : Binding env s) (connected : (s.clients i).connected = true)
    (network : (s.clients i).loopback = false)
    (mapped : (s.clients i).encryptionIndex = some e) : Bound s i e := by
  obtain ⟨e', bound⟩ := inv.bound i connected network
  have sameIndex : e' = e := Option.some_inj.mp (bound.index.symm.trans mapped)
  exact sameIndex ▸ bound

/-- A slot found by its address is a client on the network. -/
theorem Binding.found (inv : Binding env s) (found : s.findClientIndexByAddress source = some i) :
    (s.clients i).connected = true ∧ (s.clients i).loopback = false := by
  obtain ⟨-, connected, equal⟩ := findClientIndexByAddress_eq_some found
  refine ⟨connected, ?_⟩
  by_contra loopback
  rw [(inv.inLoopback i (by simpa using loopback)).1, Address.none_equal] at equal
  cases equal

/-- With fewer clients than slots there is a free slot. -/
theorem Binding.free (inv : Binding env s) (room : s.numConnectedClients ≠ s.maxClients) :
    ∃ i, s.findFreeClientIndex = some i := by
  cases found : s.findFreeClientIndex with
  | some i => exact ⟨i, rfl⟩
  | none =>
    -- every slot in use is connected, and no other
    have all : ∀ i < s.maxClients, (s.clients i).connected = true := by
      simpa [findFreeClientIndex, List.find?_eq_none] using found
    have full := (connectedCount_eq_iff inv.slots fun _ => inv.inUse).mpr all
    exact absurd (by rw [inv.count, full]) room

end Consequences

/-! ### Steps that leave the sessions alone -/

/-- The fields of a slot that say whose it is. -/
structure SameSession (slot slot' : ClientSlot) : Prop where
  connected : slot'.connected = slot.connected
  loopback : slot'.loopback = slot.loopback
  encryptionIndex : slot'.encryptionIndex = slot.encryptionIndex
  address : slot'.address = slot.address
  clientID : slot'.clientID = slot.clientID
  userData : slot'.userData = slot.userData

theorem SameSession.refl (slot : ClientSlot) : SameSession slot slot := ⟨rfl, rfl, rfl, rfl, rfl, rfl⟩

theorem SameSession.trans {slot slot' slot'' : ClientSlot} (first : SameSession slot slot')
    (second : SameSession slot' slot'') : SameSession slot slot'' :=
  ⟨second.connected.trans first.connected, second.loopback.trans first.loopback,
    second.encryptionIndex.trans first.encryptionIndex, second.address.trans first.address,
    second.clientID.trans first.clientID, second.userData.trans first.userData⟩

/-- One slot changes within its session. -/
theorem SameSession.update {clients : Nat → ClientSlot} {i : Nat} {slot : ClientSlot}
    (same : SameSession (clients i) slot) (j : Nat) :
    SameSession (clients j) (Function.update clients i slot j) := by
  by_cases here : j = i
  · subst here
    rw [Function.update_self]
    exact same
  · rw [Function.update_of_ne here]
    exact .refl _

/-- Sending stays within the session. -/
theorem writeToClient_session (env : Platform) (config : ServerConfig) (s : Server) (p : Packet)
    (i : Nat) (key : Key) (j : Nat) :
    SameSession (s.clients j) ((writeToClient env config s p i key).clients j) :=
  have slot : SameSession (s.clients i) { s.clients i with
      sequence := (s.clients i).sequence + 1
      lastPacketSendTime := s.time } := ⟨rfl, rfl, rfl, rfl, rfl, rfl⟩
  slot.update j

/-- A local change stays within the session. -/
theorem LocalChange.sameSession {config : ServerConfig} {s : Server} {i : Nat} {slot : ClientSlot}
    {effects : List Effect} (change : LocalChange config s i slot effects) :
    SameSession (s.clients i) slot := by
  cases change <;> exact ⟨rfl, rfl, rfl, rfl, rfl, rfl⟩

/-- **A step between two states with the same sessions**: mappings with a client keep what ties
them to it, and no mapping gets a client. -/
structure SameBinding (env : Platform) (s s' : Server) : Prop where
  maxClients : s'.maxClients = s.maxClients
  running : s'.running = s.running
  time : s'.time = s.time
  count : s'.numConnectedClients = s.numConnectedClients
  slots : ∀ i, SameSession (s.clients i) (s'.clients i)
  idle : s.running = false → s'.connectTokenEntries = s.connectTokenEntries ∧
    s'.encryptionManager = s.encryptionManager
  table : s'.encryptionManager.Ok env s.time
  kept : ∀ e, (s.encryptionManager.mapping e).clientIndex ≠ none →
    (s'.encryptionManager.mapping e).address = (s.encryptionManager.mapping e).address ∧
      (s'.encryptionManager.mapping e).clientIndex = (s.encryptionManager.mapping e).clientIndex ∧
      (s'.encryptionManager.mapping e).expireTime = (s.encryptionManager.mapping e).expireTime
  unbound : ∀ e, (s.encryptionManager.mapping e).clientIndex = none →
    (s'.encryptionManager.mapping e).clientIndex = none

theorem Binding.sameBinding {env : Platform} {s s' : Server} (inv : Binding env s)
    (same : SameBinding env s s') : Binding env s' where
  slots := same.maxClients ▸ inv.slots
  idle := by
    intro stopped
    rw [same.running] at stopped
    obtain ⟨entries, manager⟩ := same.idle stopped
    rw [same.maxClients, entries, manager]
    exact inv.idle stopped
  isFloat := same.time ▸ inv.isFloat
  table := same.time ▸ same.table
  beyond := by
    intro i above
    rw [(same.slots i).connected]
    exact inv.beyond i (same.maxClients ▸ above)
  vacant := by
    intro i
    rw [(same.slots i).connected, (same.slots i).loopback]
    exact inv.vacant i
  inLoopback := by
    intro i
    rw [(same.slots i).loopback, (same.slots i).address, (same.slots i).encryptionIndex]
    exact inv.inLoopback i
  bound := by
    intro i connected network
    rw [(same.slots i).connected] at connected
    rw [(same.slots i).loopback] at network
    obtain ⟨e, bound⟩ := inv.bound i connected network
    obtain ⟨address, client, expire⟩ := same.kept e (by rw [bound.client]; exact nofun)
    have equal : (s'.encryptionManager.mapping e).address.Equal (s'.clients i).address = true := by
      rw [address, (same.slots i).address]
      exact bound.address
    exact ⟨e, (same.slots i).encryptionIndex.trans bound.index,
      same.table.used (Address.Equal.type_ne_none equal), equal, client.trans bound.client,
      expire.trans bound.lasting⟩
  owner := by
    intro e i held
    cases before : (s.encryptionManager.mapping e).clientIndex with
    | none =>
      rw [same.unbound e before] at held
      cases held
    | some j =>
      obtain ⟨-, client, -⟩ := same.kept e (by rw [before]; exact nofun)
      rw [client] at held
      rw [(same.slots i).connected, (same.slots i).loopback, (same.slots i).encryptionIndex]
      exact inv.owner e i held
  count := by
    rw [same.count, inv.count, connectedCount_congr fun j => (same.slots j).connected]

section SameBinding

variable {env : Platform} {s s' : Server}

/-- A step that does not touch the mapping table. -/
theorem Binding.sameTable (inv : Binding env s) (maxClients : s'.maxClients = s.maxClients)
    (running : s'.running = s.running) (time : s'.time = s.time)
    (count : s'.numConnectedClients = s.numConnectedClients)
    (slots : ∀ i, SameSession (s.clients i) (s'.clients i))
    (idle : s.running = false → s'.connectTokenEntries = s.connectTokenEntries)
    (manager : s'.encryptionManager = s.encryptionManager) : Binding env s' :=
  inv.sameBinding
    { maxClients, running, time, count, slots
      idle := fun stopped => ⟨idle stopped, manager⟩
      table := manager ▸ inv.table
      kept := fun e _ => by rw [manager]; exact ⟨rfl, rfl, rfl⟩
      unbound := fun e none => by rw [manager]; exact none }

/-- Only the trace grows. -/
theorem Binding.record (inv : Binding env s) (effect : Effect) : Binding env (s.record effect) :=
  inv.sameTable rfl rfl rfl rfl (fun _ => .refl _) (fun _ => rfl) rfl

/-- An access changes nothing but the time of the last access. -/
theorem access_mapping (m : EncryptionManager) (e j : Nat) (time : ℚ) :
    ∃ lastAccessTime, (m.access e time).mapping j =
      { m.mapping j with lastAccessTime := lastAccessTime } := by
  by_cases here : j = e
  · subst here
    exact ⟨time, Function.update_self _ _ _⟩
  · exact ⟨(m.mapping j).lastAccessTime, Function.update_of_ne here _ _⟩

/-- **Accessing the first mapping of an address.** -/
theorem Binding.access {e : Nat} (inv : Binding env s)
    (valid : (s.encryptionManager.mapping e).address.type ≠ AddressNone)
    (alone : ∀ p < e, (s.encryptionManager.mapping p).address.Equal
      (s.encryptionManager.mapping e).address = false) :
    Binding env { s with encryptionManager := s.encryptionManager.access e s.time } := by
  refine inv.sameBinding
    { maxClients := rfl, running := rfl, time := rfl, count := rfl, slots := fun _ => .refl _
      idle := fun stopped => ?_
      table := inv.table.set_first (inv.table.used valid) alone rfl valid
      kept := fun j _ => ?_
      unbound := fun j free => ?_ }
  · rw [(inv.idle stopped).2.2] at valid
    exact absurd rfl valid
  · obtain ⟨_, same⟩ := access_mapping s.encryptionManager e j s.time
    show ((s.encryptionManager.access e s.time).mapping j).address = _ ∧ _
    rw [same]
    exact ⟨rfl, rfl, rfl⟩
  · obtain ⟨_, same⟩ := access_mapping s.encryptionManager e j s.time
    show ((s.encryptionManager.access e s.time).mapping j).clientIndex = none
    rw [same]
    exact free

end SameBinding

/-! ### Steps that change them -/

section Sessions

variable {env : Platform} {config : ServerConfig} {s : Server}

theorem Binding.tick (inv : Binding env s) {time : ℚ} (forward : s.time ≤ time)
    (isFloat : env.IsFloat64 time) : Binding env { s with time := time } :=
  { inv with
    isFloat := isFloat
    table := inv.table.tick forward
    bound := fun i connected network =>
      (inv.bound i connected network).imp fun _ b => ⟨b.index, b.small, b.address, b.client, b.lasting⟩ }

/-- **What admitting a request writes**: one mapping that no client is connected through. -/
theorem Binding.added (inv : Binding env s) {source : Address} {sendKey receiveKey : Key}
    {expireTime : ℚ} {timeout : Int32} {index : Nat} {manager : EncryptionManager}
    (stranger : s.findClientIndexByAddress source = none)
    (added : s.encryptionManager.addEncryptionMapping env source sendKey receiveKey s.time
      expireTime timeout index = some manager) :
    ∃ e mapping, manager.mapping = Function.update s.encryptionManager.mapping e mapping ∧
      EncryptionManager.Added mapping sendKey receiveKey s.time expireTime timeout index ∧
      (s.encryptionManager.mapping e).clientIndex = none ∧ mapping.clientIndex = none ∧
      (mapping.address = source ∨ mapping.address.Equal source = true) := by
  obtain ⟨e, mapping, writes, holds, client, place⟩ :=
    EncryptionManager.addEncryptionMapping_cases added
  rcases place with ⟨found, same, -⟩ | ⟨-, room, same, -⟩
  · have equal := (EncryptionManager.lookup_eq_some.mp found).2.1
    have free := inv.stranger stranger equal
    exact ⟨e, mapping, writes, holds, free, client.trans free, .inr (same ▸ equal)⟩
  · have free : (s.encryptionManager.mapping e).clientIndex = none := by
      rcases (EncryptionManager.reusable_eq_some room).2.1 with none | ⟨-, none⟩
      · by_contra held
        exact inv.table.held e held none
      · exact none
    exact ⟨e, mapping, writes, holds, free, client.trans free, .inl same⟩

theorem Binding.grant (inv : Binding env s) {source : Address} {sendKey receiveKey : Key}
    {expireTime : ℚ} {timeout : Int32} {index : Nat} {manager : EncryptionManager}
    {entries : ConnectTokenEntries} {trace : List Effect} (running : s.running = true)
    (stranger : s.findClientIndexByAddress source = none)
    (added : s.encryptionManager.addEncryptionMapping env source sendKey receiveKey s.time
      expireTime timeout index = some manager) :
    Binding env { s with
      connectTokenEntries := entries
      encryptionManager := manager
      trace := trace } := by
  have table := inv.table.add (fun q equal => inv.stranger stranger equal) added
  obtain ⟨e, mapping, writes, -, unbound, client, -⟩ := inv.added stranger added
  have others : ∀ j, j ≠ e → manager.mapping j = s.encryptionManager.mapping j := by
    intro j other
    rw [writes, Function.update_of_ne other]
  refine inv.sameBinding
    { maxClients := rfl, running := rfl, time := rfl, count := rfl, slots := fun _ => .refl _
      idle := fun stopped => ?_
      table := table
      kept := fun j held => ?_
      unbound := fun j free => ?_ }
  · rw [running] at stopped
    cases stopped
  · have other : j ≠ e := fun same => held (same ▸ unbound)
    show (manager.mapping j).address = _ ∧ _
    rw [others j other]
    exact ⟨rfl, rfl, rfl⟩
  · show (manager.mapping j).clientIndex = none
    by_cases here : j = e
    · subst here
      rw [writes, Function.update_self, client]
    · rw [others j here, free]

/-- The mapping table after a client was installed. -/
theorem installClient_manager (s : Server) (i : Nat) (source : Address) (clientID : UInt64) (e : Nat)
    (timeout : Int32) (userData : UserData) :
    (installClient s i source clientID e timeout userData).encryptionManager =
      s.encryptionManager.set e
        { s.encryptionManager.mapping e with expireTime := -1, clientIndex := some i } := by
  simp [installClient, EncryptionManager.setClientIndex, EncryptionManager.setExpireTime,
    EncryptionManager.set]

theorem Binding.install (inv : Binding env s) {source : Address} {e i : Nat} {clientID : UInt64}
    {timeout : Int32} {userData : UserData} (running : s.running = true)
    (stranger : s.findClientIndexByAddress source = none)
    (found : s.encryptionManager.lookup env source s.time = some e)
    (free : s.findFreeClientIndex = some i) :
    Binding env (installClient s i source clientID e timeout userData) := by
  obtain ⟨small, vacant⟩ := findFreeClientIndex_eq_some free
  obtain ⟨inside, equal, -, -⟩ := EncryptionManager.lookup_eq_some.mp found
  have unbound := inv.stranger stranger equal
  have valid := Address.Equal.type_ne_none equal
  have network := inv.vacant i vacant
  have manager := installClient_manager s i source clientID e timeout userData
  have here : (installClient s i source clientID e timeout userData).encryptionManager.mapping e =
      { s.encryptionManager.mapping e with expireTime := -1, clientIndex := some i } := by
    rw [manager]
    exact Function.update_self _ _ _
  have others : ∀ j, j ≠ e →
      (installClient s i source clientID e timeout userData).encryptionManager.mapping j =
        s.encryptionManager.mapping j := by
    intro j other
    rw [manager]
    exact Function.update_of_ne other _ _
  have otherSlots : ∀ j, j ≠ i →
      (installClient s i source clientID e timeout userData).clients j = s.clients j :=
    fun j other => Function.update_of_ne other _ _
  have slot : (installClient s i source clientID e timeout userData).clients i =
      { s.clients i with
        connected := true
        timeout := timeout
        encryptionIndex := some e
        clientID := clientID
        sequence := 0
        address := source
        disconnectReason := .none
        lastPacketSendTime := s.time
        lastPacketReceiveTime := s.time
        userData := userData } := Function.update_self _ _ _
  refine ⟨inv.slots, fun stopped => ?_, inv.isFloat, ?_, fun j above => ?_, fun j out => ?_,
    fun j loopback => ?_, fun j connected onNetwork => ?_, fun p j held => ?_, ?_⟩
  · rw [show (installClient s i source clientID e timeout userData).running = s.running from rfl,
      running] at stopped
    cases stopped
  · rw [manager]
    exact inv.table.set_first inside (inv.table.lookup_first found) rfl valid
  · have other : j ≠ i := by
      have outside : s.maxClients ≤ j := above
      omega
    rw [otherSlots j other]
    exact inv.beyond j above
  · by_cases same : j = i
    · subst same
      rw [slot] at out
      cases out
    · rw [otherSlots j same] at out ⊢
      exact inv.vacant j out
  · by_cases same : j = i
    · subst same
      rw [slot] at loopback
      exact absurd (network.symm.trans loopback) (by decide)
    · rw [otherSlots j same] at loopback ⊢
      exact inv.inLoopback j loopback
  · by_cases same : j = i
    · subst same
      refine ⟨e, ?_, ?_, ?_, ?_, ?_⟩
      · rw [slot]
      · rw [manager]
        exact inside
      · rw [here, slot]
        exact equal
      · rw [here]
      · rw [here]
    · rw [otherSlots j same] at connected onNetwork
      obtain ⟨p, bound⟩ := inv.bound j connected onNetwork
      have other : p ≠ e := by
        rintro rfl
        rw [bound.client] at unbound
        cases unbound
      refine ⟨p, ?_, ?_, ?_, ?_, ?_⟩
      · rw [otherSlots j same]
        exact bound.index
      · rw [manager]
        exact bound.small
      · rw [others p other, otherSlots j same]
        exact bound.address
      · rw [others p other]
        exact bound.client
      · rw [others p other]
        exact bound.lasting
  · by_cases isE : p = e
    · subst isE
      rw [here] at held
      cases held
      rw [slot]
      exact ⟨rfl, network, rfl⟩
    · rw [others p isE] at held
      obtain ⟨connected, onNetwork, index⟩ := inv.owner p j held
      have other : j ≠ i := by
        rintro rfl
        rw [vacant] at connected
        cases connected
      rw [otherSlots j other]
      exact ⟨connected, onNetwork, index⟩
  · show s.numConnectedClients + 1 = _
    rw [inv.count]
    have counted := connectedCount_connect (small.trans_le inv.slots) vacant
      (show ((installClient s i source clientID e timeout userData).clients i).connected = true by
        rw [slot])
    rw [slot] at counted
    exact_mod_cast counted.symm

/-- The slot a release leaves behind. -/
theorem releaseClient_slot (env : Platform) (s : Server) (i e : Nat) :
    (releaseClient env s i e).clients i =
      clearedSlot { s.clients i with replayProtection := .reset } := by
  simp [releaseClient, resetClientSlot, setClient]

theorem releaseClient_others (s : Server) (i e : Nat) {j : Nat} (other : j ≠ i) :
    (releaseClient env s i e).clients j = s.clients j := by
  simp [releaseClient, resetClientSlot, setClient, other]

theorem Binding.release (inv : Binding env s) {i e : Nat} (connected : (s.clients i).connected = true)
    (bound : Bound s i e) : Binding env (releaseClient env s i e) := by
  obtain ⟨table, here, others⟩ := inv.table.release (by rw [bound.client]; exact nofun) bound.address
  have slot := releaseClient_slot env s i e
  have otherSlots : ∀ j, j ≠ i → (releaseClient env s i e).clients j = s.clients j :=
    fun j other => releaseClient_others s i e other
  -- the mappings of the other clients are as they were
  have kept : ∀ p, p ≠ e → (s.encryptionManager.mapping p).clientIndex ≠ none →
      (releaseClient env s i e).encryptionManager.mapping p = s.encryptionManager.mapping p := by
    intro p other held
    rcases others p other with same | ⟨-, -, none⟩
    · exact same
    · exact absurd none held
  have running := inv.running connected
  refine ⟨inv.slots, fun stopped => ?_, inv.isFloat, table, fun j above => ?_, fun j out => ?_,
    fun j loopback => ?_, fun j stays onNetwork => ?_, fun p j held => ?_, ?_⟩
  · rw [show (releaseClient env s i e).running = s.running from rfl, running] at stopped
    cases stopped
  · by_cases same : j = i
    · subst same
      rw [slot]
      rfl
    · rw [otherSlots j same]
      exact inv.beyond j above
  · by_cases same : j = i
    · subst same
      rw [slot]
      rfl
    · rw [otherSlots j same] at out ⊢
      exact inv.vacant j out
  · by_cases same : j = i
    · subst same
      rw [slot]
      exact ⟨rfl, rfl⟩
    · rw [otherSlots j same] at loopback ⊢
      exact inv.inLoopback j loopback
  · by_cases same : j = i
    · subst same
      rw [slot] at stays
      cases stays
    · rw [otherSlots j same] at stays onNetwork
      obtain ⟨p, boundP⟩ := inv.bound j stays onNetwork
      have other : p ≠ e := by
        rintro rfl
        exact same (Option.some_inj.mp (boundP.client.symm.trans bound.client))
      have keptP := kept p other (by rw [boundP.client]; exact nofun)
      have equal : ((releaseClient env s i e).encryptionManager.mapping p).address.Equal
          ((releaseClient env s i e).clients j).address = true := by
        rw [keptP, otherSlots j same]
        exact boundP.address
      refine ⟨p, ?_, table.used (Address.Equal.type_ne_none equal), equal, ?_, ?_⟩
      · rw [otherSlots j same]
        exact boundP.index
      · rw [keptP]
        exact boundP.client
      · rw [keptP]
        exact boundP.lasting
  · by_cases isE : p = e
    · subst isE
      have freed : ((releaseClient env s i p).encryptionManager.mapping p).clientIndex = none :=
        congrArg EncryptionMapping.clientIndex here
      rw [freed] at held
      cases held
    · rcases others p isE with same | ⟨gone, -, free⟩
      · have sameP : (releaseClient env s i e).encryptionManager.mapping p =
          s.encryptionManager.mapping p := same
        rw [sameP] at held
        obtain ⟨stays, onNetwork, index⟩ := inv.owner p j held
        have other : j ≠ i := by
          rintro rfl
          exact isE (Option.some_inj.mp (index.symm.trans bound.index))
        rw [otherSlots j other]
        exact ⟨stays, onNetwork, index⟩
      · have goneP : ((releaseClient env s i e).encryptionManager.mapping p).clientIndex = none :=
          (congrArg EncryptionMapping.clientIndex gone).trans free
        rw [goneP] at held
        cases held
  · show s.numConnectedClients - 1 = _
    rw [inv.count]
    have counted := connectedCount_disconnect ((inv.inUse connected).trans_le inv.slots) connected
      (show (clearedSlot { s.clients i with replayProtection := .reset }).connected = false from rfl)
    have clients : (releaseClient env s i e).clients = Function.update s.clients i
        (clearedSlot { s.clients i with replayProtection := .reset }) := by
      funext j
      by_cases same : j = i
      · subst same
        rw [slot, Function.update_self]
      · rw [otherSlots j same, Function.update_of_ne same]
    rw [clients]
    omega

/-- A slot that no mapping knows is filled by, or emptied of, a loopback client. -/
theorem Binding.setLoopback (inv : Binding env s) {i : Nat} {slot : ClientSlot} {count : Int}
    (small : i < s.maxClients)
    (off : (s.clients i).connected = false ∨ (s.clients i).loopback = true)
    (vacant : slot.connected = false → slot.loopback = false)
    (unmapped : slot.connected = true → slot.loopback = true)
    (address : slot.address = Address.none ∧ slot.encryptionIndex = none)
    (counts : count = connectedCount (Function.update s.clients i slot)) :
    Binding env { s.setClient i slot with numConnectedClients := count } := by
  have here : Function.update s.clients i slot i = slot := Function.update_self _ _ _
  have others : ∀ j, j ≠ i → Function.update s.clients i slot j = s.clients j :=
    fun j other => Function.update_of_ne other _ _
  refine ⟨inv.slots, inv.idle, inv.isFloat, inv.table, fun j above => ?_, fun j out => ?_,
    fun j loopback => ?_, fun j connected network => ?_, fun p j held => ?_, counts⟩
  · have other : j ≠ i := by
      have outside : s.maxClients ≤ j := above
      omega
    exact (congrArg ClientSlot.connected (others j other)).trans (inv.beyond j above)
  · simp only [setClient] at out ⊢
    by_cases same : j = i
    · subst same
      rw [here] at out ⊢
      exact vacant out
    · rw [others j same] at out ⊢
      exact inv.vacant j out
  · simp only [setClient] at loopback ⊢
    by_cases same : j = i
    · subst same
      rw [here]
      exact address
    · rw [others j same] at loopback ⊢
      exact inv.inLoopback j loopback
  · simp only [setClient] at connected network
    by_cases same : j = i
    · subst same
      rw [here] at connected network
      rw [unmapped connected] at network
      cases network
    · rw [others j same] at connected network
      obtain ⟨e, bound⟩ := inv.bound j connected network
      have slotJ : ({ s.setClient i slot with numConnectedClients := count } : Server).clients j =
        s.clients j := others j same
      exact ⟨e, by rw [slotJ]; exact bound.index, bound.small, by rw [slotJ]; exact bound.address,
        bound.client, bound.lasting⟩
  · obtain ⟨connected, network, index⟩ := inv.owner p j held
    have other : j ≠ i := by
      rintro rfl
      rcases off with out | loopback
      · rw [out] at connected
        cases connected
      · rw [loopback] at network
        cases network
    simp only [setClient]
    rw [others j other]
    exact ⟨connected, network, index⟩

theorem Binding.reset (inv : Binding env s)
    (gone : ∀ i < s.maxClients, (s.clients i).connected = false) : Binding env (resetServer s) := by
  have off : ∀ i, (s.clients i).connected = false := by
    intro i
    by_cases small : i < s.maxClients
    · exact gone i small
    · exact inv.beyond i (Nat.not_lt.mp small)
  refine ⟨Nat.zero_le _, fun _ => ⟨rfl, rfl, rfl⟩, inv.isFloat, EncryptionManager.ok_reset,
    fun i _ => off i, inv.vacant, inv.inLoopback, fun i connected => ?_, nofun, ?_⟩
  · rw [show ((resetServer s).clients i).connected = (s.clients i).connected from rfl, off i]
      at connected
    cases connected
  · simp [resetServer, connectedCount, off]

theorem Binding.start (inv : Binding env s) {maxClients : Nat} {challengeKey : Key}
    {reading : UInt64} (idle : s.running = false) (small : maxClients ≤ MaxClients) :
    Binding env (startServer config s maxClients challengeKey reading) := by
  obtain ⟨none, -, manager⟩ := inv.idle idle
  have off : ∀ i, (s.clients i).connected = false :=
    fun i => inv.beyond i (none ▸ Nat.zero_le i)
  refine ⟨small, nofun, inv.isFloat, inv.table, fun i _ => off i, fun i _ => inv.vacant i (off i),
    inv.inLoopback, fun i connected => ?_, fun e i held => ?_, ?_⟩
  · rw [show ((startServer config s maxClients challengeKey reading).clients i).connected =
      (s.clients i).connected from rfl, off i] at connected
    cases connected
  · rw [show (startServer config s maxClients challengeKey reading).encryptionManager =
      s.encryptionManager from rfl, manager] at held
    cases held
  · simp [startServer, connectedCount, off]

/-- A replay window is not part of the session. -/
theorem SameSession.of_window {slot slot' : ClientSlot}
    (window : ∃ window, slot' = { slot with replayProtection := window }) :
    SameSession slot slot' := by
  obtain ⟨window, rfl⟩ := window
  exact ⟨rfl, rfl, rfl, rfl, rfl, rfl⟩

theorem setWindow_eq (s : Server) (clientIndex : Option Nat) (window : Option ReplayProtection) :
    ∃ clients, s.setWindow clientIndex window = { s with clients := clients } ∧
      ∀ j, ∃ window, clients j = { s.clients j with replayProtection := window } := by
  have unchanged : ∀ j, ∃ window, s.clients j = { s.clients j with replayProtection := window } :=
    fun j => ⟨_, rfl⟩
  cases clientIndex with
  | none => exact ⟨s.clients, rfl, unchanged⟩
  | some i =>
    cases window with
    | none => exact ⟨s.clients, rfl, unchanged⟩
    | some window =>
      refine ⟨_, rfl, fun j => ?_⟩
      by_cases here : j = i
      · subst here
        exact ⟨window, Function.update_self _ _ _⟩
      · rw [Function.update_of_ne here]
        exact unchanged j

/-- What `readPacket` does to the server: replay windows and the trace. -/
theorem applyReading_windows (s : Server) (source : Address) (reading : UInt64)
    (clientIndex : Option Nat) (outcome : ReadOutcome) :
    (s.applyReading source reading clientIndex outcome).maxClients = s.maxClients ∧
      (s.applyReading source reading clientIndex outcome).encryptionManager = s.encryptionManager ∧
      ∀ j, ∃ window, (s.applyReading source reading clientIndex outcome).clients j =
        { s.clients j with replayProtection := window } := by
  obtain ⟨clients, window, slots⟩ := setWindow_eq s clientIndex outcome.replayProtection
  unfold applyReading recordReading
  rw [window]
  split <;> exact ⟨rfl, rfl, slots⟩

theorem applyReading_encryptionManager (s : Server) (source : Address) (reading : UInt64)
    (clientIndex : Option Nat) (outcome : ReadOutcome) :
    (s.applyReading source reading clientIndex outcome).encryptionManager = s.encryptionManager :=
  (applyReading_windows s source reading clientIndex outcome).2.1

/-- What reading an encrypted packet changes: replay windows and the trace. -/
theorem applyReading_eq (s : Server) (source : Address) (reading : UInt64)
    (clientIndex : Option Nat) (outcome : ReadOutcome) {call : AeadCall}
    (isOpened : outcome.opened = some call)
    (notRequest : ∀ request, outcome.packet ≠ some (.connectionRequest request)) :
    ∃ clients, s.applyReading source reading clientIndex outcome =
        { s with clients := clients, trace := .opened .packet call :: s.trace } ∧
      ∀ j, ∃ window, clients j = { s.clients j with replayProtection := window } := by
  obtain ⟨clients, window, slots⟩ := setWindow_eq s clientIndex outcome.replayProtection
  refine ⟨clients, ?_, slots⟩
  unfold applyReading
  rw [window, isOpened]
  cases isPacket : outcome.packet with
  | none => rfl
  | some packet =>
    cases packet with
    | connectionRequest request => exact absurd isPacket (notRequest request)
    | _ => rfl

/-- **Every atomic step keeps slots and mappings in agreement.** -/
theorem Binding.micro {s' : Server} (inv : Binding env s) (micro : Micro env config s s') :
    Binding env s' := by
  cases micro with
  | tick time forward isFloat => exact inv.tick forward isFloat
  | clock reading => exact inv.record _
  | refresh source e stranger found =>
    exact inv.access (Address.Equal.type_ne_none (EncryptionManager.lookup_eq_some.mp found).2.1)
      (inv.table.lookup_first found)
  | openRequest => exact (inv.record _).record _
  | openPacket source reading data clientIndex e outcome call running head located reads isOpened
      notRequest =>
    obtain ⟨clients, same, slots⟩ := applyReading_eq s source reading clientIndex outcome isOpened
      notRequest
    rw [same]
    exact inv.sameTable rfl rfl rfl rfl (fun j => .of_window (slots j)) (fun _ => rfl) rfl
  | respond => exact (inv.record _).record _
  | deny => exact inv.sameTable rfl rfl rfl rfl (fun _ => .refl _) (fun _ => rfl) rfl
  | ask source request token reading asking =>
    refine inv.sameTable rfl rfl rfl rfl (fun _ => .refl _) (fun stopped => ?_) rfl
    rw [asking.running] at stopped
    cases stopped
  | grant source request token reading index manager asking admits room added =>
    exact inv.grant asking.running asking.strangerAddress added
  | issue => exact inv.sameTable rfl rfl rfl rfl (fun _ => .refl _) (fun _ => rfl) rfl
  | install source e i challenge sequence call responding strangerAddress strangerID found free =>
    exact inv.install responding.running strangerAddress found free
  | send p i e note connected network mapped kind =>
    have bound := inv.boundAt connected network mapped
    have touched := inv.access (Address.Equal.type_ne_none bound.address)
      (fun p less => inv.table.first p e less (by rw [bound.client]; exact nofun))
    exact touched.sameTable rfl rfl rfl rfl (writeToClient_session env config
      { s with encryptionManager := s.encryptionManager.access e s.time, trace := note ++ s.trace } p i
      (s.encryptionManager.mapping e).sendKey) (fun _ => rfl) rfl
  | release i e connected network mapped =>
    exact inv.release connected (inv.boundAt connected network mapped)
  | change i slot effects change =>
    exact inv.sameTable rfl rfl rfl rfl (SameSession.update change.sameSession) (fun _ => rfl) rfl
  | connectLoopback i clientID userData small free =>
    refine inv.setLoopback small (Or.inl free) nofun (fun _ => rfl) ⟨rfl, rfl⟩ ?_
    rw [inv.count, connectedCount_connect (small.trans_le inv.slots) free rfl]
    push_cast
    rfl
  | disconnectLoopback i connected loopback =>
    refine inv.setLoopback (inv.inUse connected) (Or.inr loopback) (fun _ => rfl) nofun ⟨rfl, rfl⟩ ?_
    have counted := connectedCount_disconnect ((inv.inUse connected).trans_le inv.slots) connected
      (show (clearedSlot (s.clients i)).connected = false from rfl)
    rw [inv.count]
    omega
  | reset gone => exact inv.reset gone
  | start maxClients challengeKey reading idle positive small => exact inv.start idle small

theorem Binding.atom {s' : Server} (inv : Binding env s) (atom : Atom env config s s') :
    Binding env s' := by
  cases atom with
  | arrive => exact inv.record _
  | micro micro => exact inv.micro micro

end Sessions

end Netcode.Server
