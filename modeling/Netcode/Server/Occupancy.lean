/-
**The server and its slot table.**

What the server does to its slots is what `SlotTable.Step` allows, at whatever times it does it
(`Moves`), and the mapping table stays tidy along the way. This module has the operations on one
slot and the loops made of them; the datagrams follow in `Server.Handling`.

* `Within` — only one slot has changed, within its session, and no mapping of another address;
* `Calm` — what is asked of the callbacks: a client that leaves is let go, and nobody comes or goes
  until it is gone;
* `disconnectClientInternal_moves`, `disconnectClientInternal_calm` — a disconnection gives up the
  slot;
* `stepwise_slots` — **the calls on the slots move within the slot table.**
-/

import Netcode.Server.Loops
import Netcode.Server.Owners

namespace Netcode.Server

open Relation

variable {env : Platform} {config : ServerConfig} {s s' t u : Server} {i e : Nat}

/-! ### Moving within the slot table -/

/-- Nothing is left beyond the mappings in use, and a stopped server has empty tables. -/
structure TablesOk (s : Server) : Prop where
  tidy : s.encryptionManager.Tidy
  stopped : s.running = false →
    s.encryptionManager = .reset ∧ s.connectTokenEntries = connectTokenEntriesReset

/-- The tables of a running server. -/
theorem TablesOk.of_running (running : s.running = true) (tidy : s.encryptionManager.Tidy) :
    s.TablesOk := by
  refine ⟨tidy, fun stopped => ?_⟩
  rw [running] at stopped
  cases stopped

/-- **The slots go from one state to the other by steps of the slot table**, and the other tables
stay in order. -/
structure Moves (s s' : Server) : Prop where
  table : ReflTransGen SlotTable.Step s.slotTable s'.slotTable
  tables : s.TablesOk → s'.TablesOk

theorem Moves.refl (s : Server) : Moves s s := ⟨.refl, fun tables => tables⟩

theorem Moves.trans (first : Moves s t) (second : Moves t u) : Moves s u :=
  ⟨first.table.trans second.table, fun tables => second.tables (first.tables tables)⟩

theorem moves_of_chain (chain : ReflTransGen Moves s s') : Moves s s' := by
  induction chain with
  | refl => exact .refl s
  | tail _ last ih => exact ih.trans last

/-- **Only slot `i` has changed**, within its session, and no mapping of another address. -/
structure Within (env : Platform) (s t : Server) (i : Nat) : Prop where
  slot : SameSession (s.clients i) (t.clients i)
  window : (s.clients i).loopback = true →
    (t.clients i).replayProtection = (s.clients i).replayProtection
  others : ∀ j, j ≠ i → t.clients j = s.clients j
  running : t.running = s.running
  maxClients : t.maxClients = s.maxClients
  numConnectedClients : t.numConnectedClients = s.numConnectedClients
  time : t.time = s.time
  owner : t.encryptionManager.owner = s.encryptionManager.owner
  mappings : EncryptionManager.Keeps env (s.clients i).address s.time s.encryptionManager
    t.encryptionManager

/-- A slot is rewritten within its session. -/
theorem Within.set (env : Platform) (s : Server) (i : Nat) {slot : ClientSlot}
    (session : SameSession (s.clients i) slot)
    (window : (s.clients i).loopback = true →
      slot.replayProtection = (s.clients i).replayProtection) :
    Within env s (s.setClient i slot) i := by
  have here : (s.setClient i slot).clients i = slot := Function.update_self _ _ _
  refine ⟨by rw [here]; exact session, by rw [here]; exact window,
    fun j other => Function.update_of_ne other _ _, rfl, rfl, rfl, rfl, rfl, .refl _ _ _ _⟩

/-- Nothing but the trace has changed. -/
theorem Within.of_record (env : Platform) (s : Server) (i : Nat) (effect : Effect) :
    Within env s (s.record effect) i :=
  ⟨.refl _, fun _ => rfl, fun _ _ => rfl, rfl, rfl, rfl, rfl, rfl, .refl _ _ _ _⟩

theorem Within.refl (env : Platform) (s : Server) (i : Nat) : Within env s s i :=
  ⟨.refl _, fun _ => rfl, fun _ _ => rfl, rfl, rfl, rfl, rfl, rfl, .refl _ _ _ _⟩

theorem Within.trans (first : Within env s t i) (second : Within env t u i) : Within env s u i where
  slot := first.slot.trans second.slot
  window := fun loopback => (second.window (first.slot.loopback.trans loopback)).trans
    (first.window loopback)
  others := fun j other => (second.others j other).trans (first.others j other)
  running := second.running.trans first.running
  maxClients := second.maxClients.trans first.maxClients
  numConnectedClients := second.numConnectedClients.trans first.numConnectedClients
  time := second.time.trans first.time
  owner := second.owner.trans first.owner
  mappings := by
    have last := second.mappings
    rw [first.slot.address, first.time] at last
    exact first.mappings.trans last

theorem Within.table (within : Within env s t i) :
    t.slotTable = { s.slotTable with clients := Function.update s.clients i (t.clients i) } := by
  have clients : t.clients = Function.update s.clients i (t.clients i) := by
    funext j
    by_cases here : j = i
    · rw [here, Function.update_self]
    · rw [Function.update_of_ne here, within.others j here]
  simp only [slotTable, within.running, within.maxClients, within.numConnectedClients, within.owner]
  rw [← clients]

/-- A server with a client is running. -/
theorem running_of_connected (ok : s.slotTable.Ok) (connected : (s.clients i).connected = true) :
    s.running = true := by
  by_contra stopped
  have used : i < s.maxClients := ok.inUse i connected
  rw [show s.maxClients = 0 from ok.idle (Bool.eq_false_of_not_eq_true stopped)] at used
  exact absurd used (Nat.not_lt_zero i)

/-- Changing a connected slot within its session is a step. -/
theorem Within.moves (within : Within env s t i) (ok : s.slotTable.Ok)
    (connected : (s.clients i).connected = true) : Moves s t := by
  refine ⟨?_, fun tables => .of_running (within.running.trans (running_of_connected ok connected))
    (within.mappings.tidy tables.tidy)⟩
  rw [within.table]
  exact .single (.change s.slotTable i _ connected within.slot within.window)

/-! ### Callbacks -/

/-- A connected slot changes within its session. -/
def Stir (env : Platform) (s t : Server) : Prop :=
  ∃ j, (s.clients j).connected = true ∧ Within env s t j

/-- Connected slots change within their sessions, one after the other. -/
def Stirs (env : Platform) : Server → Server → Prop := ReflTransGen (Stir env)

theorem Stirs.moves (stirs : Stirs env s t) (ok : s.slotTable.Ok) : Moves s t := by
  induction stirs with
  | refl => exact .refl s
  | tail _ last ih =>
    obtain ⟨j, connected, within⟩ := last
    exact ih.trans (within.moves (ok.steps ih.table) connected)

theorem Within.sameSession (within : Within env s t i) (j : Nat) :
    SameSession (s.clients j) (t.clients j) := by
  by_cases here : j = i
  · rw [here]
    exact within.slot
  · rw [within.others j here]
    exact .refl _

/-- Nobody comes or goes. -/
theorem Stirs.sameSession (stirs : Stirs env s t) (j : Nat) :
    SameSession (s.clients j) (t.clients j) := by
  induction stirs with
  | refl => exact .refl _
  | tail _ last ih =>
    obtain ⟨k, -, within⟩ := last
    exact ih.trans (within.sameSession j)

theorem Stirs.undisturbed (stirs : Stirs env s t) : Undisturbed s t := by
  have settings : t.maxClients = s.maxClients ∧ t.running = s.running := by
    induction stirs with
    | refl => exact ⟨rfl, rfl⟩
    | tail _ last ih =>
      obtain ⟨k, -, within⟩ := last
      exact ⟨within.maxClients.trans ih.1, within.running.trans ih.2⟩
  exact ⟨settings.1, settings.2, fun j =>
    ⟨(stirs.sameSession j).connected, (stirs.sameSession j).loopback⟩⟩

/-- **What is asked of the callbacks.** Told that a client leaves, `ConnectDisconnectCallback` lets
nobody come or go; told of a new client, it does what calls of the server may do. The callback for
loopback packets does nothing to the server. -/
structure Calm (env : Platform) (config : ServerConfig) : Prop where
  left : ∀ {s i}, s.slotTable.Ok → (s.clients i).connected = true →
    ∃ s', notify config s i false = some s' ∧ Stirs env s s'
  joined : ∀ {s i}, s.slotTable.Ok → ∃ s', notify config s i true = some s' ∧ Moves s s'
  sendLoopback : ∀ callback, config.sendLoopbackPacketCallback = some callback →
    ∀ slot payload sequence s, callback slot payload sequence s = some s

theorem Calm.of_quiet (env : Platform) (quiet : config.NonReentrant) : Calm env config where
  left := fun {s i} _ _ => ⟨s, notify_eq quiet s i false, .refl⟩
  joined := fun {s i} _ => ⟨s, notify_eq quiet s i true, .refl s⟩
  sendLoopback := quiet.sendLoopback

/-! ### Sending and disconnecting -/

/-- `sendClientPacket` for a slot with a mapping: its `touch` check looks at the address. -/
theorem sendClientPacket_touch (env : Platform) (config : ServerConfig) (p : Packet)
    (mapped : (s.clients i).encryptionIndex = some e) :
    sendClientPacket env config s p i =
      some (if (s.encryptionManager.mapping e).address.Equal (s.clients i).address then
        writeToClient env config
          { s with encryptionManager := s.encryptionManager.access e s.time } p i
          (s.encryptionManager.mapping e).sendKey
      else s.record (.outOfDate i)) := by
  have key : ((s.encryptionManager.access e s.time).mapping e).sendKey =
      (s.encryptionManager.mapping e).sendKey := by
    simp [EncryptionManager.access, EncryptionManager.set]
  unfold sendClientPacket EncryptionManager.touch
  rw [mapped, Option.bind_eq_bind, Option.bind_some]
  cases (s.encryptionManager.mapping e).address.Equal (s.clients i).address with
  | true => simp [key]
  | false => rfl

/-- What is sent to a client stays within its session. -/
theorem writeToClient_within (env : Platform) (config : ServerConfig) (p : Packet) (key : Key)
    (isMapping : (s.encryptionManager.mapping e).address.Equal (s.clients i).address = true) :
    Within env s (writeToClient env config
      { s with encryptionManager := s.encryptionManager.access e s.time } p i key) i := by
  refine ⟨?_, fun _ => ?_, fun j other => Function.update_of_ne other _ _, rfl, rfl, rfl, rfl,
    EncryptionManager.owner_access _ e _, .rewrite env s.time isMapping rfl⟩
  · simp only [writeToClient, Function.update_self]
    exact ⟨rfl, rfl, rfl, rfl, rfl, rfl⟩
  · simp [writeToClient]

theorem sendClientPacket_within (env : Platform) (config : ServerConfig) (p : Packet)
    (mapped : (s.clients i).encryptionIndex = some e) :
    ∃ t, sendClientPacket env config s p i = some t ∧ Within env s t i := by
  refine ⟨_, sendClientPacket_touch env config p mapped, ?_⟩
  split_ifs with isMapping
  · exact writeToClient_within env config p _ isMapping
  · exact .of_record env s i _

/-- The redundant disconnect packets. -/
theorem sendDisconnects_within (count : List Nat) :
    ∀ {t}, Within env s t i → (s.clients i).encryptionIndex = some e →
      ∃ u, count.foldlM (fun t _ => sendClientPacket env config t .connectionDisconnect i) t =
        some u ∧ Within env s u i := by
  induction count with
  | nil => exact fun {t} within _ => ⟨t, rfl, within⟩
  | cons _ rest ih =>
    intro t within mapped
    obtain ⟨u, sends, next⟩ := sendClientPacket_within env config .connectionDisconnect
      (within.slot.encryptionIndex.trans mapped)
    rw [List.foldlM_cons, sends]
    exact ih (within.trans next) mapped

/-- The slot table once a slot and its mapping are given up. -/
theorem releaseClient_table (env : Platform) (ok : s.slotTable.Ok)
    (connected : (s.clients i).connected = true) (mapped : (s.clients i).encryptionIndex = some e) :
    (releaseClient env s i e).slotTable =
      { s.slotTable with
        numConnectedClients := s.numConnectedClients - 1
        clients := Function.update s.clients i
          { clearedSlot (s.clients i) with replayProtection := .reset }
        owner := Function.update s.encryptionManager.owner e none } := by
  have owners := EncryptionManager.owner_release env s.time
    (fun p k known other owns => ok.apart connected mapped other owns)
  simp only [slotTable, releaseClient, resetClientSlot, setClient, Function.update_self,
    Function.update_idem]
  rw [← owners]
  rfl

/-- A client of the network has a mapping for its address. -/
theorem mapped_address (ok : s.slotTable.Ok) (connected : (s.clients i).connected = true)
    (network : (s.clients i).loopback = false) :
    ∃ e, (s.clients i).encryptionIndex = some e ∧
      (s.encryptionManager.mapping e).address.Equal (s.clients i).address = true := by
  obtain ⟨e, known, mapped, owns, equal⟩ := ok.mapped i connected network
  refine ⟨e, mapped, ?_⟩
  rw [(EncryptionManager.owner_eq_some.mp owns).2]
  exact equal

/-- Giving up a slot touches the mappings of its address only. -/
theorem releaseClient_mappings (env : Platform)
    (isMapping : (s.encryptionManager.mapping e).address.Equal (s.clients i).address = true) :
    EncryptionManager.Keeps env (s.clients i).address s.time s.encryptionManager
      (releaseClient env s i e).encryptionManager := by
  have freed : EncryptionManager.Keeps env (s.clients i).address s.time s.encryptionManager
      (s.encryptionManager.setClientIndex e none) := .rewrite env s.time isMapping rfl
  exact freed.trans (.remove env _ _ _)

/-- **A disconnection gives up the slot**, once the callback has returned and after some packets to
the client. -/
theorem disconnectClientInternal_eq (env : Platform) {sends : Bool} {reason : DisconnectReason}
    (notified : notify config (s.setClient i { s.clients i with disconnectReason := reason }) i false =
      some t)
    (mapped : (t.clients i).encryptionIndex = some e) :
    ∃ u, Within env t u i ∧ disconnectClientInternal env config s i sends reason =
      some (releaseClient env u i e) := by
  have sent : ∃ u, (if sends then (List.range numDisconnectPackets).foldlM
        (fun s _ => sendClientPacket env config s .connectionDisconnect i) t
      else some t) = some u ∧ Within env t u i := by
    cases sends with
    | false => exact ⟨t, rfl, .refl env t i⟩
    | true => exact sendDisconnects_within _ (.refl env t i) mapped
  obtain ⟨u, returns, within⟩ := sent
  refine ⟨u, within, ?_⟩
  simp only [disconnectClientInternal, Option.bind_eq_bind]
  rw [notified, Option.bind_some, returns, Option.bind_some,
    within.slot.encryptionIndex.trans mapped, Option.bind_some]
  rfl

/-- A client of the network gives up its slot and its mapping. -/
theorem releaseClient_moves (env : Platform) (ok : s.slotTable.Ok)
    (connected : (s.clients i).connected = true) (network : (s.clients i).loopback = false)
    (mapped : (s.clients i).encryptionIndex = some e) :
    Moves s (releaseClient env s i e) ∧ EncryptionManager.Keeps env (s.clients i).address s.time
      s.encryptionManager (releaseClient env s i e).encryptionManager := by
  obtain ⟨e', mapped', isMapping⟩ := mapped_address ok connected network
  cases mapped.symm.trans mapped'
  have keeps := releaseClient_mappings env isMapping
  have running : s.running = true := running_of_connected ok connected
  refine ⟨⟨?_, fun tables => .of_running running (keeps.tidy tables.tidy)⟩, keeps⟩
  rw [releaseClient_table env ok connected mapped]
  exact .single (.disconnect s.slotTable i e connected network mapped)

/-- A client of the network leaves. -/
theorem disconnectClientInternal_moves (env : Platform) (quiet : config.NonReentrant)
    (ok : s.slotTable.Ok) (connected : (s.clients i).connected = true)
    (network : (s.clients i).loopback = false) (sends : Bool) (reason : DisconnectReason) :
    ∃ s', disconnectClientInternal env config s i sends reason = some s' ∧ Moves s s' ∧
      Vacated s s' i ∧ s'.time = s.time ∧
      EncryptionManager.Keeps env (s.clients i).address s.time s.encryptionManager
        s'.encryptionManager := by
  obtain ⟨e, mapped, -⟩ := mapped_address ok connected network
  have noted : Within env s (s.setClient i { s.clients i with disconnectReason := reason }) i :=
    .set env s i ⟨rfl, rfl, rfl, rfl, rfl, rfl⟩ fun _ => rfl
  obtain ⟨t, sent, returns⟩ := @disconnectClientInternal_eq config s _ i e env sends reason
    (notify_eq quiet _ i false) (noted.slot.encryptionIndex.trans mapped)
  have within := noted.trans sent
  have moves := within.moves ok connected
  obtain ⟨leaves, keeps⟩ := releaseClient_moves env (ok.steps moves.table)
    (within.slot.connected.trans connected) (within.slot.loopback.trans network)
    (within.slot.encryptionIndex.trans mapped)
  rw [within.slot.address, within.time] at keeps
  refine ⟨_, returns, moves.trans leaves, ⟨within.maxClients, within.running, ?_, fun j other => ?_⟩,
    within.time, within.mappings.trans keeps⟩
  · rw [releaseClient_slot]
    rfl
  · rw [releaseClient_others t i e other]
    exact within.others j other

/-- **A client of the network leaves, whatever a calm callback does meanwhile.** -/
theorem disconnectClientInternal_calm (calm : Calm env config) (ok : s.slotTable.Ok)
    (connected : (s.clients i).connected = true) (network : (s.clients i).loopback = false)
    (sends : Bool) (reason : DisconnectReason) :
    ∃ s', disconnectClientInternal env config s i sends reason = some s' ∧ Moves s s' ∧
      Left s s' i := by
  obtain ⟨e, mapped, -⟩ := mapped_address ok connected network
  have noted : Within env s (s.setClient i { s.clients i with disconnectReason := reason }) i :=
    .set env s i ⟨rfl, rfl, rfl, rfl, rfl, rfl⟩ fun _ => rfl
  have first := noted.moves ok connected
  obtain ⟨t, notified, stirs⟩ := calm.left (ok.steps first.table)
    (noted.slot.connected.trans connected)
  have told : Stirs env s t := stirs.head ⟨i, connected, noted⟩
  obtain ⟨u, sent, returns⟩ := @disconnectClientInternal_eq config s _ i e env sends reason notified
    ((told.sameSession i).encryptionIndex.trans mapped)
  have within : Stirs env s u :=
    told.tail ⟨i, (told.sameSession i).connected.trans connected, sent⟩
  have moves := within.moves ok
  have session := within.sameSession i
  obtain ⟨leaves, -⟩ := releaseClient_moves env (ok.steps moves.table)
    (session.connected.trans connected) (session.loopback.trans network)
    (session.encryptionIndex.trans mapped)
  refine ⟨_, returns, moves.trans leaves, within.undisturbed.maxClients, within.undisturbed.running,
    ?_, fun j other => ?_⟩
  · rw [releaseClient_slot]
    rfl
  · rw [releaseClient_others u i e other]
    exact within.undisturbed.slots j

/-- A payload is pushed onto a slot's queue. -/
theorem pushPayload_within (env : Platform) (s : Server) (i : Nat) (payload : Bytes)
    (sequence : UInt64) : Within env s (s.pushPayload i payload sequence) i := by
  have pushed : Within env s (s.setClient i { s.clients i with
      packetQueue := ((s.clients i).packetQueue.push payload sequence).1 }) i :=
    .set env s i ⟨rfl, rfl, rfl, rfl, rfl, rfl⟩ fun _ => rfl
  unfold pushPayload
  dsimp only
  split_ifs
  · exact pushed.trans (.of_record env _ i _)
  · exact pushed

/-- A payload is sent, behind a keep-alive if the client is not confirmed yet. -/
theorem sendPayload_within (env : Platform) (config : ServerConfig) (payload : Bytes)
    (mapped : (s.clients i).encryptionIndex = some e) :
    ∃ t, sendPayload env config s i payload = some t ∧ Within env s t i := by
  have fronted : ∃ t, (if !(s.clients i).confirmed then
        sendClientPacket env config s (s.keepAlivePacket i) i else some s) = some t ∧
      Within env s t i := by
    split_ifs
    · exact sendClientPacket_within env config (s.keepAlivePacket i) mapped
    · exact ⟨s, rfl, .refl env s i⟩
  obtain ⟨t, returns, first⟩ := fronted
  have noted := first.trans (.of_record env t i (.submitted i payload (t.clients i).sequence))
  obtain ⟨u, sends, last⟩ := sendClientPacket_within env config (.connectionPayload payload)
    (noted.slot.encryptionIndex.trans mapped)
  refine ⟨u, ?_, noted.trans last⟩
  unfold sendPayload
  rw [returns, Option.bind_eq_bind, Option.bind_some]
  exact sends

/-- A payload is taken off a slot's queue. -/
theorem deliverPacket_within (env : Platform) (s : Server) (i : Nat) :
    Within env s (s.deliverPacket i) i := by
  have popped : Within env s (s.setClient i { s.clients i with
      packetQueue := (s.clients i).packetQueue.pop.1 }) i :=
    .set env s i ⟨rfl, rfl, rfl, rfl, rfl, rfl⟩ fun _ => rfl
  unfold deliverPacket
  dsimp only
  cases (s.clients i).packetQueue.pop.2.1 with
  | none => exact popped
  | some payload => exact popped.trans (.of_record env _ i _)

/-- **Payloads stay within the sessions of their slots.** -/
theorem traffic_slots (env : Platform)
    (quietLoopback : ∀ callback, config.sendLoopbackPacketCallback = some callback →
      ∀ slot payload sequence s, callback slot payload sequence s = some s) :
    Traffic env config (Stir env) (fun s => s.slotTable.Ok) where
  submit := fun ok connected network payload => by
    obtain ⟨e, mapped, -⟩ := mapped_address ok connected network
    obtain ⟨t, returns, within⟩ := sendPayload_within env config payload mapped
    exact ⟨t, returns, .single ⟨_, connected, within⟩⟩
  quietLoopback := quietLoopback
  sendLoopback := fun {s i} _ connected _ payload => by
    have noted := Within.of_record env s i (.sentLoopback i payload (s.clients i).sequence)
    have sent : SameSession (s.clients i) { s.clients i with
      sequence := (s.clients i).sequence + 1
      lastPacketSendTime := s.time } := ⟨rfl, rfl, rfl, rfl, rfl, rfl⟩
    exact .single ⟨i, connected, noted.trans (.set env _ i sent fun _ => rfl)⟩
  deliver := fun {s i} _ connected => .single ⟨i, connected, deliverPacket_within env s i⟩
  hearLoopback := fun {s i} _ connected _ payload sequence => by
    have heard : Within env s (s.setClient i { s.clients i with lastPacketReceiveTime := s.time }) i :=
      .set env s i ⟨rfl, rfl, rfl, rfl, rfl, rfl⟩ fun _ => rfl
    exact .single ⟨i, connected, heard.trans (pushPayload_within env _ i payload sequence)⟩

/-- **The calls on the slots move within the slot table.** -/
theorem stepwise_slots (calm : Calm env config) :
    Stepwise env config Moves (fun s => s.slotTable.Ok) where
  toTraffic := (traffic_slots env calm.sendLoopback).map
    fun ok stirs => .single (Stirs.moves stirs ok)
  keeps := fun ok moves => ok.steps moves.table
  size := fun ok => ok.size
  inUse := fun ok connected => ok.inUse _ connected
  send := fun {s i} ok connected network => by
    obtain ⟨e, mapped, -⟩ := mapped_address ok connected network
    obtain ⟨t, returns, within⟩ := sendClientPacket_within env config (s.keepAlivePacket i) mapped
    exact ⟨t, returns, .single (within.moves ok connected)⟩
  leave := fun ok connected network sends reason => by
    obtain ⟨s', returns, moves, left⟩ := disconnectClientInternal_calm calm ok connected network sends
      reason
    exact ⟨s', returns, .single moves, left⟩
  notifyLeft := fun ok connected => by
    obtain ⟨s', returns, stirs⟩ := calm.left ok connected
    exact ⟨s', returns, .single (stirs.moves ok), stirs.undisturbed⟩
  notifyJoined := fun ok => by
    obtain ⟨s', returns, moves⟩ := calm.joined ok
    exact ⟨s', returns, .single moves⟩
  reason := fun {s i} ok connected reason =>
    .single (Within.moves (.set env s i ⟨rfl, rfl, rfl, rfl, rfl, rfl⟩ fun _ => rfl) ok connected)
  leaveLoopback := fun {s i} _ connected loopback =>
    .single ⟨.single (.disconnectLoopback s.slotTable i connected loopback),
      fun tables => ⟨tables.tidy, tables.stopped⟩⟩
  reset := fun {s} _ gone => .single ⟨.single (.stop s.slotTable gone),
    fun _ => ⟨EncryptionManager.tidy_reset, fun _ => ⟨rfl, rfl⟩⟩⟩
  start := fun {s maxClients} _ idle _ small _ _ => .single
    ⟨.single (.start s.slotTable maxClients idle small), fun tables => .of_running rfl tables.tidy⟩
  connectLoopback := fun {s i} ok small free clientID userData => by
    refine .single ⟨.single (.connectLoopback s.slotTable i clientID userData s.time small free),
      fun tables => ⟨tables.tidy, tables.stopped⟩⟩

end Netcode.Server
