/-
**The slot table.**

What the slots of a server do, without keys, history and clock: a slot is free, or taken by a
client of the network, which owns a mapping, or by a loopback client. `SlotTable` is that part of
the server, `SlotTable.Step` lists what can happen to it, and `SlotTable.Ok` is what every step
keeps (`Step.ok`):

* a free slot is as in a new server (`vacant`), so the next client finds nothing of the last one;
* the counter counts the connected slots, all of which are in use (`count`, `inUse`);
* no two clients of the network share an address or a client id (`addresses`, `identities`);
* a client of the network owns exactly one mapping, for its own address (`mapped`, `owned`).

Nothing here mentions time: the server may be given any times in any order.
-/

import Netcode.Server.Binding

namespace Netcode

/-- Who owns a mapping: the slot, and the address the mapping is for. -/
def EncryptionManager.owner (m : EncryptionManager) (e : Nat) : Option (Nat × Address) :=
  (m.mapping e).clientIndex.map fun i => (i, (m.mapping e).address)

/-- The slots of a server, and the mappings they own. -/
structure SlotTable where
  running : Bool
  maxClients : Nat
  numConnectedClients : Int
  clients : Nat → ClientSlot
  owner : Nat → Option (Nat × Address)

def Server.slotTable (s : Server) : SlotTable :=
  ⟨s.running, s.maxClients, s.numConnectedClients, s.clients, s.encryptionManager.owner⟩

namespace ClientSlot

/-- **As in a new server**, but for the last client's timeout and the reason it left. -/
def Pristine (slot : ClientSlot) : Prop :=
  slot = { ClientSlot.new with
    timeout := slot.timeout
    disconnectReason := slot.disconnectReason }

/-- The slot when `connectClient` has filled it. -/
def fill (slot : ClientSlot) (address : Address) (clientID : UInt64) (encryptionIndex : Nat)
    (timeout : Int32) (userData : UserData) (time : ℚ) : ClientSlot :=
  { slot with
    connected := true
    timeout := timeout
    encryptionIndex := some encryptionIndex
    clientID := clientID
    sequence := 0
    address := address
    disconnectReason := .none
    lastPacketSendTime := time
    lastPacketReceiveTime := time
    userData := userData }

/-- The slot when `ConnectLoopbackClient` has filled it. -/
def fillLoopback (slot : ClientSlot) (clientID : UInt64) (userData : Bytes) (time : ℚ) :
    ClientSlot :=
  { slot with
    loopback := true
    connected := true
    confirmed := true
    encryptionIndex := none
    clientID := clientID
    sequence := 0
    disconnectReason := .none
    address := Address.none
    lastPacketSendTime := time
    lastPacketReceiveTime := time
    userData := .copyFrom UserDataBytes userData }

/-- The slot when `Start` has seen it. -/
def restart (slot : ClientSlot) (i maxClients : Nat) : ClientSlot :=
  { slot with
    packetQueue := if i < maxClients then .clear else slot.packetQueue
    disconnectReason := if i < MaxClients then .none else slot.disconnectReason }

end ClientSlot

namespace SlotTable

open Server (SameSession connectedCount connectedCount_congr connectedCount_connect
  connectedCount_disconnect connectedCount_eq_iff clearedSlot)

/-- **What can happen to the slots.** -/
inductive Step : SlotTable → SlotTable → Prop
  | change (t : SlotTable) (i : Nat) (slot : ClientSlot)
      (connected : (t.clients i).connected = true) (session : SameSession (t.clients i) slot)
      (window : (t.clients i).loopback = true →
        slot.replayProtection = (t.clients i).replayProtection) :
      Step t { t with clients := Function.update t.clients i slot }
  | connect (t : SlotTable) (i e : Nat) (address known : Address) (clientID : UInt64)
      (timeout : Int32) (userData : UserData) (time : ℚ) (small : i < t.maxClients)
      (free : (t.clients i).connected = false)
      (strangerAddress : ∀ j < t.maxClients, (t.clients j).connected = true →
        (t.clients j).address.Equal address = false)
      (strangerID : ∀ j < t.maxClients, (t.clients j).connected = true →
        (t.clients j).clientID ≠ clientID)
      (unowned : t.owner e = none) (isAddress : known.Equal address = true) :
      Step t { t with
        numConnectedClients := t.numConnectedClients + 1
        clients := Function.update t.clients i
          ((t.clients i).fill address clientID e timeout userData time)
        owner := Function.update t.owner e (some (i, known)) }
  | connectLoopback (t : SlotTable) (i : Nat) (clientID : UInt64) (userData : Bytes) (time : ℚ)
      (small : i < t.maxClients) (free : (t.clients i).connected = false) :
      Step t { t with
        numConnectedClients := t.numConnectedClients + 1
        clients := Function.update t.clients i
          ((t.clients i).fillLoopback clientID userData time) }
  | disconnect (t : SlotTable) (i e : Nat) (connected : (t.clients i).connected = true)
      (network : (t.clients i).loopback = false)
      (mapped : (t.clients i).encryptionIndex = some e) :
      Step t { t with
        numConnectedClients := t.numConnectedClients - 1
        clients := Function.update t.clients i
          { clearedSlot (t.clients i) with replayProtection := .reset }
        owner := Function.update t.owner e none }
  | disconnectLoopback (t : SlotTable) (i : Nat) (connected : (t.clients i).connected = true)
      (loopback : (t.clients i).loopback = true) :
      Step t { t with
        numConnectedClients := t.numConnectedClients - 1
        clients := Function.update t.clients i (clearedSlot (t.clients i)) }
  | stop (t : SlotTable) (gone : ∀ i < t.maxClients, (t.clients i).connected = false) :
      Step t ⟨false, 0, 0, t.clients, fun _ => none⟩
  | start (t : SlotTable) (maxClients : Nat) (idle : t.running = false)
      (small : maxClients ≤ MaxClients) :
      Step t ⟨true, maxClients, 0, fun i => (t.clients i).restart i maxClients, t.owner⟩

/-- **What the slots always satisfy.** -/
structure Ok (t : SlotTable) : Prop where
  size : t.maxClients ≤ MaxClients
  idle : t.running = false → t.maxClients = 0
  inUse : ∀ i, (t.clients i).connected = true → i < t.maxClients
  count : t.numConnectedClients = connectedCount t.clients
  vacant : ∀ i, (t.clients i).connected = false → (t.clients i).Pristine
  loopback : ∀ i, (t.clients i).loopback = true →
    (t.clients i).address = Address.none ∧ (t.clients i).replayProtection = .reset
  /-- A client of the network owns the mapping its slot names, which is for its address. -/
  mapped : ∀ i, (t.clients i).connected = true → (t.clients i).loopback = false →
    ∃ e known, (t.clients i).encryptionIndex = some e ∧ t.owner e = some (i, known) ∧
      known.Equal (t.clients i).address = true
  owned : ∀ e i known, t.owner e = some (i, known) → (t.clients i).connected = true ∧
    (t.clients i).loopback = false ∧ (t.clients i).encryptionIndex = some e
  addresses : ∀ i j, (t.clients i).connected = true → (t.clients j).connected = true →
    (t.clients i).address.Equal (t.clients j).address = true → i = j
  identities : ∀ i j, (t.clients i).connected = true → (t.clients i).loopback = false →
    (t.clients j).connected = true → (t.clients j).loopback = false →
    (t.clients i).clientID = (t.clients j).clientID → i = j

section Steps

variable {t t' : SlotTable}

/-- **Writing one slot**, and the mappings it owns. -/
theorem Ok.set (ok : t.Ok) {i : Nat} {slot : ClientSlot} {count : Int}
    {owner : Nat → Option (Nat × Address)} (small : i < t.maxClients)
    (counted : count = connectedCount (Function.update t.clients i slot))
    (vacant : slot.connected = false → slot.Pristine)
    (loopback : slot.loopback = true →
      slot.address = Address.none ∧ slot.replayProtection = .reset)
    (mapped : slot.connected = true → slot.loopback = false → ∃ e known,
      slot.encryptionIndex = some e ∧ owner e = some (i, known) ∧ known.Equal slot.address = true)
    (owned : ∀ e known, owner e = some (i, known) →
      slot.connected = true ∧ slot.loopback = false ∧ slot.encryptionIndex = some e)
    (others : ∀ e j known, j ≠ i → (owner e = some (j, known) ↔ t.owner e = some (j, known)))
    (address : slot.connected = true → ∀ j, j ≠ i → (t.clients j).connected = true →
      (t.clients j).address.Equal slot.address = false)
    (identity : slot.connected = true → slot.loopback = false → ∀ j, j ≠ i →
      (t.clients j).connected = true → (t.clients j).loopback = false →
      (t.clients j).clientID ≠ slot.clientID) :
    Ok { t with
      numConnectedClients := count
      clients := Function.update t.clients i slot
      owner := owner } where
  size := ok.size
  idle := ok.idle
  inUse := by
    intro j connected
    by_cases here : j = i
    · exact here ▸ small
    · exact ok.inUse j (by simpa [Function.update_of_ne here] using connected)
  count := counted
  vacant := by
    intro j free
    by_cases here : j = i
    · subst here
      simpa using vacant (by simpa using free)
    · simpa [Function.update_of_ne here] using
        ok.vacant j (by simpa [Function.update_of_ne here] using free)
  loopback := by
    intro j isLoopback
    by_cases here : j = i
    · subst here
      simpa using loopback (by simpa using isLoopback)
    · simpa [Function.update_of_ne here] using
        ok.loopback j (by simpa [Function.update_of_ne here] using isLoopback)
  mapped := by
    intro j connected network
    by_cases here : j = i
    · subst here
      simpa using mapped (by simpa using connected) (by simpa using network)
    · simp only [Function.update_of_ne here] at connected network ⊢
      obtain ⟨e, known, index, owns, equal⟩ := ok.mapped j connected network
      exact ⟨e, known, index, (others e j known here).mpr owns, equal⟩
  owned := by
    intro e j known owns
    by_cases here : j = i
    · subst here
      simpa using owned e known owns
    · simpa [Function.update_of_ne here] using ok.owned e j known ((others e j known here).mp owns)
  addresses := by
    intro j k connected connected' equal
    by_cases here : j = i <;> by_cases there : k = i
    · exact here.trans there.symm
    · subst here
      simp only [Function.update_self, Function.update_of_ne there] at connected connected' equal
      have flipped := Address.Equal.symm equal
      rw [address connected k there connected'] at flipped
      cases flipped
    · subst there
      simp only [Function.update_self, Function.update_of_ne here] at connected connected' equal
      rw [address connected' j here connected] at equal
      cases equal
    · simp only [Function.update_of_ne here, Function.update_of_ne there] at connected connected' equal
      exact ok.addresses j k connected connected' equal
  identities := by
    intro j k connected network connected' network' same
    by_cases here : j = i <;> by_cases there : k = i
    · exact here.trans there.symm
    · subst here
      simp only [Function.update_self, Function.update_of_ne there] at *
      exact absurd same.symm (identity connected network k there connected' network')
    · subst there
      simp only [Function.update_self, Function.update_of_ne here] at *
      exact absurd same (identity connected' network' j here connected network)
    · simp only [Function.update_of_ne here, Function.update_of_ne there] at *
      exact ok.identities j k connected network connected' network' same

/-- A step within the session of one client. -/
theorem Ok.change (ok : t.Ok) {i : Nat} {slot : ClientSlot}
    (connected : (t.clients i).connected = true) (session : SameSession (t.clients i) slot)
    (window : (t.clients i).loopback = true →
      slot.replayProtection = (t.clients i).replayProtection) :
    Ok { t with clients := Function.update t.clients i slot } := by
  refine ok.set (ok.inUse i connected) ?_ ?_ ?_ ?_ ?_ (fun _ _ _ _ => Iff.rfl) ?_ ?_
  · rw [ok.count, connectedCount_congr fun j => (session.update j).connected]
  · intro free
    rw [session.connected, connected] at free
    cases free
  · intro loopback
    rw [session.loopback] at loopback
    obtain ⟨address, fresh⟩ := ok.loopback i loopback
    exact ⟨session.address.trans address, (window loopback).trans fresh⟩
  · intro _ network
    rw [session.encryptionIndex, session.address]
    exact ok.mapped i connected (session.loopback ▸ network)
  · intro e known owns
    rw [session.connected, session.loopback, session.encryptionIndex]
    exact ok.owned e i known owns
  · intro _ j other connectedJ
    rw [session.address]
    by_contra equal
    exact other (ok.addresses j i connectedJ connected (by simpa using equal))
  · intro _ network j other connectedJ networkJ same
    rw [session.clientID] at same
    exact other (ok.identities j i connectedJ networkJ connected (session.loopback ▸ network) same)

/-- A client of the network takes a free slot and a mapping nobody owns. -/
theorem Ok.connect (ok : t.Ok) {i e : Nat} {address known : Address} {clientID : UInt64}
    {timeout : Int32} {userData : UserData} {time : ℚ} (small : i < t.maxClients)
    (free : (t.clients i).connected = false)
    (strangerAddress : ∀ j < t.maxClients, (t.clients j).connected = true →
      (t.clients j).address.Equal address = false)
    (strangerID : ∀ j < t.maxClients, (t.clients j).connected = true →
      (t.clients j).clientID ≠ clientID)
    (unowned : t.owner e = none) (isAddress : known.Equal address = true) :
    Ok { t with
      numConnectedClients := t.numConnectedClients + 1
      clients := Function.update t.clients i
        ((t.clients i).fill address clientID e timeout userData time)
      owner := Function.update t.owner e (some (i, known)) } := by
  have pristine : (t.clients i).loopback = false := by rw [ok.vacant i free]; rfl
  refine ok.set small ?_ (fun gone => ?_) (fun loopback => ?_) (fun _ _ => ?_) ?_ ?_ ?_ ?_
  · rw [connectedCount_connect (small.trans_le ok.size) free rfl, ok.count]
    push_cast
    rfl
  · cases gone
  · rw [show ((t.clients i).fill address clientID e timeout userData time).loopback =
      (t.clients i).loopback from rfl, pristine] at loopback
    cases loopback
  · exact ⟨e, known, rfl, Function.update_self _ _ _, isAddress⟩
  · intro p other owns
    by_cases here : p = e
    · exact ⟨rfl, pristine, here ▸ rfl⟩
    · rw [Function.update_of_ne here] at owns
      rw [(ok.owned p i other owns).1] at free
      cases free
  · intro p j other away
    by_cases here : p = e
    · subst here
      rw [Function.update_self, unowned]
      simp [Ne.symm away]
    · rw [Function.update_of_ne here]
  · exact fun _ j _ connectedJ => strangerAddress j (ok.inUse j connectedJ) connectedJ
  · exact fun _ _ j _ connectedJ _ => strangerID j (ok.inUse j connectedJ) connectedJ

/-- A slot that owns no mapping is filled by a loopback client, or emptied of one. -/
theorem Ok.setLocal (ok : t.Ok) {i : Nat} {slot : ClientSlot} {count : Int} (small : i < t.maxClients)
    (away : (t.clients i).connected = false ∨ (t.clients i).loopback = true)
    (counted : count = connectedCount (Function.update t.clients i slot))
    (isLocal : slot.connected = true → slot.loopback = true)
    (vacant : slot.connected = false → slot.Pristine)
    (address : slot.address = Address.none) (window : slot.replayProtection = .reset) :
    Ok { t with
      numConnectedClients := count
      clients := Function.update t.clients i slot } := by
  refine ok.set small counted vacant (fun _ => ⟨address, window⟩) (fun connected network => ?_)
    (fun e known owns => ?_) (fun _ _ _ _ => Iff.rfl) (fun _ j _ _ => ?_)
    (fun connected network => ?_)
  · rw [isLocal connected] at network
    cases network
  · obtain ⟨connected, network, -⟩ := ok.owned e i known owns
    rcases away with free | loopback
    · rw [connected] at free
      cases free
    · rw [network] at loopback
      cases loopback
  · rw [address, Address.equal_none]
  · rw [isLocal connected] at network
    cases network

/-- The address an owned mapping is for is the address of the slot that owns it. -/
theorem Ok.owner_address (ok : t.Ok) {e i : Nat} {known : Address}
    (owns : t.owner e = some (i, known)) : known.Equal (t.clients i).address = true := by
  obtain ⟨connected, network, index⟩ := ok.owned e i known owns
  obtain ⟨e', known', index', owns', equal⟩ := ok.mapped i connected network
  cases index.symm.trans index'
  cases owns.symm.trans owns'
  exact equal

/-- Apart from the mapping of a slot, no owned mapping is for the address of that slot. -/
theorem Ok.apart (ok : t.Ok) {i e : Nat} (connected : (t.clients i).connected = true)
    (index : (t.clients i).encryptionIndex = some e) {p k : Nat} {known : Address} (other : p ≠ e)
    (owns : t.owner p = some (k, known)) : known.Equal (t.clients i).address = false := by
  by_contra same
  obtain ⟨connectedK, -, indexK⟩ := ok.owned p k known owns
  have shared : (t.clients k).address.Equal (t.clients i).address = true :=
    Address.Equal.trans (Address.Equal.symm (ok.owner_address owns)) (by simpa using same)
  have isI := ok.addresses k i connectedK connected shared
  subst isI
  exact other (Option.some_inj.mp (indexK.symm.trans index))

/-- No owned mapping is for an address at which nobody is connected. -/
theorem Ok.stranger (ok : t.Ok) {address : Address} (absent : ∀ j < t.maxClients,
      (t.clients j).connected = true → (t.clients j).address.Equal address = false)
    {p k : Nat} {known : Address} (owns : t.owner p = some (k, known)) :
    known.type ≠ AddressNone ∧ known.Equal address = false := by
  have equal := ok.owner_address owns
  have connected := (ok.owned p k known owns).1
  refine ⟨Address.Equal.type_ne_none equal, ?_⟩
  by_contra same
  have here := absent k (ok.inUse k connected) connected
  rw [Address.Equal.trans (Address.Equal.symm equal) (by simpa using same)] at here
  cases here

/-- **The server is full exactly when every slot in use is taken.** -/
theorem Ok.full_iff (ok : t.Ok) : t.numConnectedClients = t.maxClients ↔
    ∀ i < t.maxClients, (t.clients i).connected = true := by
  rw [ok.count, Nat.cast_inj]
  exact connectedCount_eq_iff ok.size ok.inUse

/-- A cleared slot is as in a new server. -/
theorem clearedSlot_pristine {slot : ClientSlot} (fresh : slot.replayProtection = .reset) :
    (clearedSlot slot).Pristine := by
  unfold clearedSlot ClientSlot.Pristine ClientSlot.new
  rw [fresh]

/-- A client of the network leaves, and gives up its mapping. -/
theorem Ok.disconnect (ok : t.Ok) {i e : Nat} (connected : (t.clients i).connected = true)
    (network : (t.clients i).loopback = false)
    (mapped : (t.clients i).encryptionIndex = some e) :
    Ok { t with
      numConnectedClients := t.numConnectedClients - 1
      clients := Function.update t.clients i
        { clearedSlot (t.clients i) with replayProtection := .reset }
      owner := Function.update t.owner e none } := by
  have small := ok.inUse i connected
  obtain ⟨_, known, index, owns, -⟩ := ok.mapped i connected network
  cases mapped.symm.trans index
  refine ok.set small ?_ (fun _ => rfl) (fun loopback => ?_) (fun stays => ?_)
    (fun p other ownsP => ?_) (fun p j other away => ?_) (fun stays => ?_) (fun stays => ?_)
  · have counted := connectedCount_disconnect (small.trans_le ok.size) connected
      (show ({ clearedSlot (t.clients i) with replayProtection := .reset } : ClientSlot).connected =
        false from rfl)
    rw [ok.count]
    omega
  · cases loopback
  · cases stays
  · by_cases here : p = e
    · rw [here, Function.update_self] at ownsP
      cases ownsP
    · rw [Function.update_of_ne here] at ownsP
      obtain ⟨-, -, indexP⟩ := ok.owned p i other ownsP
      exact absurd (Option.some_inj.mp (indexP.symm.trans index)) here
  · by_cases here : p = e
    · subst here
      rw [Function.update_self, owns]
      simp [Ne.symm away]
    · rw [Function.update_of_ne here]
  · cases stays
  · cases stays

/-- With nobody connected nothing is owned. -/
theorem Ok.unowned (ok : t.Ok) (gone : ∀ i, (t.clients i).connected = false) (e : Nat) :
    t.owner e = none := by
  cases owns : t.owner e with
  | none => rfl
  | some entry =>
    have connected := (ok.owned e entry.1 entry.2 owns).1
    rw [gone entry.1] at connected
    cases connected

/-- A table with nobody connected. -/
theorem ok_of_gone {running : Bool} {maxClients : Nat} {clients : Nat → ClientSlot}
    {owner : Nat → Option (Nat × Address)} (size : maxClients ≤ MaxClients)
    (idle : running = false → maxClients = 0) (gone : ∀ i, (clients i).connected = false)
    (vacant : ∀ i, (clients i).Pristine) (unowned : ∀ e, owner e = none) :
    Ok ⟨running, maxClients, 0, clients, owner⟩ where
  size := size
  idle := idle
  inUse := fun i connected => absurd connected (by simp [gone i])
  count := by simp [connectedCount, gone]
  vacant := fun i _ => vacant i
  loopback := fun i loopback => by
    have loopback : (clients i).loopback = true := loopback
    rw [vacant i] at loopback
    cases loopback
  mapped := fun i connected => absurd connected (by simp [gone i])
  owned := fun e i known owns => absurd owns (by simp [unowned e])
  addresses := fun i _ connected => absurd connected (by simp [gone i])
  identities := fun i _ connected => absurd connected (by simp [gone i])

/-- `Start` leaves a pristine slot pristine. -/
theorem restart_pristine {slot : ClientSlot} (pristine : slot.Pristine) (i maxClients : Nat) :
    (slot.restart i maxClients).Pristine := by
  unfold ClientSlot.Pristine ClientSlot.restart at *
  rw [pristine]
  simp [ClientSlot.new]

/-- **Every step keeps the slots in order.** -/
theorem Step.ok (ok : t.Ok) (step : Step t t') : t'.Ok := by
  cases step with
  | change i slot connected session window => exact ok.change connected session window
  | connect i e address known clientID timeout userData time small free strangerAddress strangerID
      unowned isAddress =>
    exact ok.connect small free strangerAddress strangerID unowned isAddress
  | connectLoopback i clientID userData time small free =>
    refine ok.setLocal small (.inl free) ?_ (fun _ => rfl) (fun gone => ?_) rfl ?_
    · rw [connectedCount_connect (small.trans_le ok.size) free rfl, ok.count]
      push_cast
      rfl
    · cases gone
    · rw [show ((t.clients i).fillLoopback clientID userData time).replayProtection =
        (t.clients i).replayProtection from rfl, ok.vacant i free]
      rfl
  | disconnect i e connected network mapped => exact ok.disconnect connected network mapped
  | disconnectLoopback i connected loopback =>
    have small := ok.inUse i connected
    have fresh := (ok.loopback i loopback).2
    refine ok.setLocal small (.inr loopback) ?_ (fun stays => ?_)
      (fun _ => clearedSlot_pristine fresh) rfl fresh
    · have counted := connectedCount_disconnect (small.trans_le ok.size) connected
        (show (clearedSlot (t.clients i)).connected = false from rfl)
      rw [ok.count]
      omega
    · cases stays
  | stop gone =>
    have left : ∀ i, (t.clients i).connected = false := by
      intro i
      by_contra stays
      have connected : (t.clients i).connected = true := by simpa using stays
      exact stays (gone i (ok.inUse i connected))
    exact ok_of_gone (Nat.zero_le _) (fun _ => rfl) left (fun i => ok.vacant i (left i))
      (fun _ => rfl)
  | start maxClients idle small =>
    have off : ∀ i, (t.clients i).connected = false := by
      intro i
      by_contra on
      have used := ok.inUse i (by simpa using on)
      rw [ok.idle idle] at used
      exact absurd used (Nat.not_lt_zero i)
    refine ok_of_gone small (fun stopped => ?_) off
      (fun i => restart_pristine (ok.vacant i (off i)) i maxClients) (ok.unowned off)
    cases stopped

/-- **So does every chain of steps.** -/
theorem Ok.steps (ok : t.Ok) (chain : Relation.ReflTransGen Step t t') : t'.Ok := by
  induction chain with
  | refl => exact ok
  | tail _ last ih => exact last.ok ih

end Steps

end SlotTable

end Netcode
