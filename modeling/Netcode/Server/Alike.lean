/-
**Two servers side by side.**

A datagram from an address without a connected client refreshes the access time of that address's
mapping before anything in it is authenticated. `Alike` relates two servers that differ in nothing
but such access times: a mapping may have been touched at different times as long as it waits for
its client, since its expire time then comes no later than its idle timeout, whenever it was last
touched (`Anchored`). The traces agree in all they show but the datagrams and the clock readings.

* `EncryptionManager.Alike.lookup` and the lemmas after it — the tables answer every search alike,
  and every operation keeps them alike.
* `step_alike` — **every call takes alike servers to alike servers**, or panics on both.
-/

import Netcode.Lib.Trace
import Netcode.Server.Chain

namespace Netcode

open Trace (Lockstep)

/-! ### Mappings that differ in their access time -/

namespace EncryptionMapping

variable {env : Platform} {mapping mapping' : EncryptionMapping}

/-- The mapping is past its expire time before it is idle for too long. -/
def Anchored (env : Platform) (mapping : EncryptionMapping) : Prop :=
  0 < mapping.timeout → 0 ≤ mapping.expireTime ∧
    mapping.expireTime ≤ env.float64 (mapping.lastAccessTime + mapping.timeout.toInt)

/-- The same mapping, or a mapping without a client that was touched at another time. -/
inductive Alike (env : Platform) (mapping : EncryptionMapping) : EncryptionMapping → Prop
  | same : Alike env mapping mapping
  | waiting (last : ℚ) (unbound : mapping.clientIndex = none) (anchored : mapping.Anchored env)
      (anchored' : Anchored env { mapping with lastAccessTime := last }) :
      Alike env mapping { mapping with lastAccessTime := last }

/-- **The access time of an anchored mapping does not matter.** -/
theorem Anchored.expired_eq (anchored : mapping.Anchored env) (time : ℚ) :
    mapping.expired env time =
      (decide (0 ≤ mapping.expireTime) && decide (mapping.expireTime < time)) := by
  rw [Bool.eq_iff_iff]
  simp only [expired, Bool.or_eq_true, Bool.and_eq_true, decide_eq_true_eq]
  refine or_iff_right_of_imp fun idle => ?_
  obtain ⟨nonneg, before⟩ := anchored idle.1
  exact ⟨nonneg, before.trans_lt idle.2⟩

theorem Anchored.access (anchored : mapping.Anchored env) {time : ℚ}
    (forward : mapping.lastAccessTime ≤ time) :
    Anchored env { mapping with lastAccessTime := time } := by
  intro positive
  obtain ⟨nonneg, before⟩ := anchored positive
  exact ⟨nonneg, before.trans (env.float64_mono (by gcongr))⟩

/-- Only the access time differs. -/
theorem Alike.eq_with (alike : mapping.Alike env mapping') :
    ∃ last, mapping' = { mapping with lastAccessTime := last } := by
  cases alike with
  | same => exact ⟨mapping.lastAccessTime, rfl⟩
  | waiting last => exact ⟨last, rfl⟩

theorem Alike.expired (alike : mapping.Alike env mapping') (time : ℚ) :
    mapping'.expired env time = mapping.expired env time := by
  cases alike with
  | same => rfl
  | waiting last unbound anchored anchored' => rw [anchored.expired_eq, anchored'.expired_eq]

/-- **One more access of a waiting mapping does not show.** -/
theorem Alike.refresh (alike : mapping.Alike env mapping') (unbound : mapping'.clientIndex = none)
    (anchored : mapping'.Anchored env) {time : ℚ} (past : mapping'.lastAccessTime ≤ time) :
    mapping.Alike env { mapping' with lastAccessTime := time } := by
  cases alike with
  | same => exact .waiting time unbound anchored (anchored.access past)
  | waiting last _ anchoredFirst _ =>
    exact .waiting time unbound anchoredFirst (anchored.access past)

theorem Alike.of_bound (alike : mapping.Alike env mapping') (bound : mapping.clientIndex ≠ none) :
    mapping' = mapping := by
  cases alike with
  | same => rfl
  | waiting last unbound => exact absurd unbound bound

theorem Alike.dropped (alike : mapping.Alike env mapping') :
    mapping.dropped.Alike env mapping'.dropped := by
  cases alike with
  | same => exact .same
  | waiting last unbound anchored anchored' => exact .waiting last unbound anchored anchored'

/-- Giving up the client, if there was one. -/
theorem Alike.unbind (alike : mapping.Alike env mapping') :
    Alike env { mapping with clientIndex := none } { mapping' with clientIndex := none } := by
  cases alike with
  | same => exact .same
  | waiting last unbound anchored anchored' => exact .waiting last rfl anchored anchored'

end EncryptionMapping

/-! ### Tables that differ in access times -/

namespace EncryptionManager

variable {env : Platform} {m m' : EncryptionManager}

/-- The mappings are alike, one by one. -/
structure Alike (env : Platform) (m m' : EncryptionManager) : Prop where
  count : m'.numEncryptionMappings = m.numEncryptionMappings
  mapping : ∀ e, (m.mapping e).Alike env (m'.mapping e)

theorem Alike.refl (env : Platform) (m : EncryptionManager) : m.Alike env m :=
  ⟨rfl, fun _ => .same⟩

theorem Alike.set (alike : m.Alike env m') (e : Nat) {mapping mapping' : EncryptionMapping}
    (new : mapping.Alike env mapping') : (m.set e mapping).Alike env (m'.set e mapping') := by
  refine ⟨alike.count, fun j => ?_⟩
  by_cases here : j = e
  · subst here
    simpa [EncryptionManager.set] using new
  · simpa [EncryptionManager.set, Function.update_of_ne here] using alike.mapping j

/-- **Every lookup finds the same mapping.** -/
theorem Alike.lookup (alike : m.Alike env m') (address : Address) (time : ℚ) :
    m'.lookup env address time = m.lookup env address time := by
  unfold EncryptionManager.lookup
  rw [alike.count]
  congr 1
  funext e
  obtain ⟨last, same⟩ := (alike.mapping e).eq_with
  rw [(alike.mapping e).expired time, same]

theorem Alike.reusable (alike : m.Alike env m') (time : ℚ) :
    m'.reusable env time = m.reusable env time := by
  unfold EncryptionManager.reusable
  congr 1
  funext e
  obtain ⟨last, same⟩ := (alike.mapping e).eq_with
  rw [(alike.mapping e).expired time, same]

theorem Alike.access (alike : m.Alike env m') (e : Nat) (time : ℚ) :
    (m.access e time).Alike env (m'.access e time) := by
  refine alike.set e ?_
  obtain ⟨last, same⟩ := (alike.mapping e).eq_with
  rw [same]
  exact .same

/-- What was touched on both sides is the same. -/
theorem Alike.access_mapping (alike : m.Alike env m') (e : Nat) (time : ℚ) :
    (m'.access e time).mapping e = (m.access e time).mapping e := by
  obtain ⟨last, same⟩ := (alike.mapping e).eq_with
  simp [EncryptionManager.access, EncryptionManager.set, same]

theorem Alike.addEncryptionMapping (alike : m.Alike env m') (address : Address)
    (sendKey receiveKey : Key) (time expireTime : ℚ) (timeout : Int32) (index : Nat) :
    Lockstep (Alike env)
      (m.addEncryptionMapping env address sendKey receiveKey time expireTime timeout index)
      (m'.addEncryptionMapping env address sendKey receiveKey time expireTime timeout index) := by
  unfold EncryptionManager.addEncryptionMapping
  rw [alike.lookup, alike.reusable]
  cases m.lookup env address time with
  | some e =>
    refine .some (alike.set e ?_)
    obtain ⟨last, same⟩ := (alike.mapping e).eq_with
    rw [same]
    exact .same
  | none =>
    cases m.reusable env time with
    | none => exact .none
    | some e =>
      obtain ⟨last, same⟩ := (alike.mapping e).eq_with
      refine .some ⟨by simp only [alike.count], ?_⟩
      rw [same]
      exact (alike.set e .same).mapping

/-- The trimming loop drops the same mappings. -/
theorem trim_alike (time : ℚ) (count : Nat) : ∀ {mapping mapping' : Nat → EncryptionMapping},
    (∀ e, (mapping e).Alike env (mapping' e)) →
      (trim env time count mapping).Alike env (trim env time count mapping') := by
  induction count with
  | zero => exact fun alike => ⟨rfl, alike⟩
  | succ count ih =>
    intro mapping mapping' alike
    have dropped : ∀ e, EncryptionMapping.Alike env
        (Function.update mapping count (mapping count).dropped e)
        (Function.update mapping' count (mapping' count).dropped e) := by
      intro e
      by_cases here : e = count
      · subst here
        simpa using (alike e).dropped
      · simpa [Function.update_of_ne here] using alike e
    obtain ⟨last, same⟩ := (alike count).eq_with
    have client : (mapping' count).clientIndex = (mapping count).clientIndex := by rw [same]
    rw [trim, trim, (alike count).expired, client]
    split_ifs
    · exact ⟨rfl, alike⟩
    · exact ih dropped

theorem Alike.removeEncryptionMapping (alike : m.Alike env m') (address : Address) (time : ℚ) :
    (m.removeEncryptionMapping env address time).Alike env
      (m'.removeEncryptionMapping env address time) := by
  have search : ((List.range m'.numEncryptionMappings).find? fun e =>
      (m'.mapping e).address.Equal address) =
      (List.range m.numEncryptionMappings).find? fun e => (m.mapping e).address.Equal address := by
    rw [alike.count]
    congr 1
    funext e
    obtain ⟨last, same⟩ := (alike.mapping e).eq_with
    rw [same]
  unfold EncryptionManager.removeEncryptionMapping
  rw [search]
  cases (List.range m.numEncryptionMappings).find? fun e => (m.mapping e).address.Equal address with
  | none => exact alike
  | some e =>
    have cleared : (m.set e (m.mapping e).cleared).Alike env (m'.set e (m'.mapping e).cleared) := by
      refine alike.set e ?_
      obtain ⟨last, same⟩ := (alike.mapping e).eq_with
      rw [same]
      exact .same
    dsimp only
    rw [cleared.count]
    split_ifs
    · exact trim_alike time e cleared.mapping
    · exact cleared

theorem Alike.setClientIndex_none (alike : m.Alike env m') (e : Nat) :
    (m.setClientIndex e none).Alike env (m'.setClientIndex e none) :=
  alike.set e (alike.mapping e).unbind

/-- `touch` answers alike. -/
theorem Alike.touch (alike : m.Alike env m') (e : Nat) (address : Address) (time : ℚ) :
    m'.touch e address time = (m.touch e address time).map fun _ => m'.access e time := by
  obtain ⟨last, same⟩ := (alike.mapping e).eq_with
  unfold EncryptionManager.touch
  rw [same]
  split_ifs <;> rfl

end EncryptionManager

/-! ### Servers -/

/-- What a trace shows besides the datagrams that arrived and the readings of the clock. -/
def visible (trace : List Effect) : List Effect :=
  trace.filter fun
    | .clock _ => false
    | .datagram _ _ _ => false
    | _ => true

theorem visible_append (new trace : List Effect) :
    visible (new ++ trace) = visible new ++ visible trace := List.filter_append ..

namespace Server

/-- **Nothing but access times, datagrams and clock readings tells the servers apart.** -/
structure Alike (env : Platform) (s t : Server) : Prop where
  rest : t = { s with encryptionManager := t.encryptionManager, trace := t.trace }
  manager : s.encryptionManager.Alike env t.encryptionManager
  trace : visible t.trace = visible s.trace

variable {env : Platform} {config : ServerConfig} {s t : Server}

theorem Alike.refl (env : Platform) (s : Server) : Alike env s s := ⟨rfl, .refl env _, rfl⟩

/-- The second server as the first one with another table and trace. -/
theorem Alike.eq_with (alike : Alike env s t) : ∃ manager trace,
    t = { s with encryptionManager := manager, trace := trace } ∧
      s.encryptionManager.Alike env manager ∧ visible trace = visible s.trace :=
  ⟨t.encryptionManager, t.trace, alike.rest, alike.manager, alike.trace⟩

/-- The same effects on both sides. -/
theorem visible_grown {trace trace' : List Effect} (same : visible trace' = visible trace)
    (new : List Effect) : visible (new ++ trace') = visible (new ++ trace) := by
  rw [visible_append, visible_append, same]

theorem Alike.record (alike : Alike env s t) (effect : Effect) :
    Alike env (s.record effect) (t.record effect) := by
  obtain ⟨manager, trace, rfl, managers, shown⟩ := alike.eq_with
  exact ⟨rfl, managers, visible_grown shown [effect]⟩

theorem Alike.setClient (alike : Alike env s t) (i : Nat) (slot : ClientSlot) :
    Alike env (s.setClient i slot) (t.setClient i slot) := by
  obtain ⟨manager, trace, rfl, managers, shown⟩ := alike.eq_with
  exact ⟨rfl, managers, shown⟩

theorem Alike.clients (alike : Alike env s t) : t.clients = s.clients := by rw [alike.rest]

theorem Alike.time (alike : Alike env s t) : t.time = s.time := by rw [alike.rest]

theorem Alike.running (alike : Alike env s t) : t.running = s.running := by rw [alike.rest]

theorem Alike.validSlot (alike : Alike env s t) (clientIndex : Int) :
    t.validSlot clientIndex = s.validSlot clientIndex := by
  rw [alike.rest]
  rfl

theorem Alike.findClientIndexByAddress (alike : Alike env s t) (source : Address) :
    t.findClientIndexByAddress source = s.findClientIndexByAddress source := by
  rw [alike.rest]
  rfl

/-- A loop over the slots. -/
theorem forEachSlot_alike {body : Server → Nat → Go Server}
    (each : ∀ s t i, Alike env s t → Lockstep (Alike env) (body s i) (body t i))
    (alike : Alike env s t) : Lockstep (Alike env) (s.forEachSlot body) (t.forEachSlot body) := by
  refine Lockstep.foldlM (fun s t i alike => ?_) _ s t alike
  have slots : t.maxClients = s.maxClients := by rw [alike.rest]
  rw [slots]
  exact .ite (fun _ => each s t i alike) fun _ => .some alike

/-! ### Sending -/

theorem sendGlobalPacket_alike (alike : Alike env s t) (p : Packet) (destination : Address)
    (key : Key) : Alike env (sendGlobalPacket env config s p destination key)
      (sendGlobalPacket env config t p destination key) := by
  obtain ⟨manager, trace, rfl, managers, shown⟩ := alike.eq_with
  exact ⟨rfl, managers, visible_grown shown [_, _]⟩

theorem writeToClient_alike (alike : Alike env s t) (p : Packet) (i : Nat) (key : Key) :
    Alike env (writeToClient env config s p i key) (writeToClient env config t p i key) := by
  obtain ⟨manager, trace, rfl, managers, shown⟩ := alike.eq_with
  exact ⟨rfl, managers, visible_grown shown [_, _]⟩

theorem sendClientPacket_alike (alike : Alike env s t) (p : Packet) (i : Nat) :
    Lockstep (Alike env) (sendClientPacket env config s p i)
      (sendClientPacket env config t p i) := by
  obtain ⟨manager, trace, rfl, managers, shown⟩ := alike.eq_with
  unfold sendClientPacket
  dsimp only
  cases (s.clients i).encryptionIndex with
  | none => exact .none
  | some e =>
    simp only [Option.bind_eq_bind, Option.bind_some]
    rw [managers.touch]
    cases touched : s.encryptionManager.touch e (s.clients i).address s.time with
    | none => exact .some (alike.record (.outOfDate i))
    | some accessed =>
      have isAccess : accessed = s.encryptionManager.access e s.time := by
        unfold EncryptionManager.touch at touched
        split_ifs at touched
        exact (Option.some_inj.mp touched).symm
      subst isAccess
      rw [Option.map_some]
      dsimp only
      rw [managers.access_mapping]
      exact .some (writeToClient_alike ⟨rfl, managers.access e s.time, shown⟩ p i _)

/-! ### Disconnecting -/

theorem notify_alike (quiet : config.NonReentrant) (alike : Alike env s t) (i : Nat)
    (connected : Bool) :
    Lockstep (Alike env) (notify config s i connected) (notify config t i connected) := by
  rw [notify_eq quiet, notify_eq quiet]
  exact .some alike

theorem resetClientSlot_alike (alike : Alike env s t) (i : Nat) :
    Alike env (resetClientSlot s i) (resetClientSlot t i) := by
  obtain ⟨manager, trace, rfl, managers, shown⟩ := alike.eq_with
  exact ⟨rfl, managers, shown⟩

theorem releaseClient_alike (alike : Alike env s t) (i e : Nat) :
    Alike env (releaseClient env s i e) (releaseClient env t i e) := by
  obtain ⟨manager, trace, rfl, managers, shown⟩ := alike.eq_with
  exact ⟨rfl, (managers.setClientIndex_none e).removeEncryptionMapping _ _,
    visible_grown shown [_]⟩

theorem disconnectClientInternal_alike (quiet : config.NonReentrant) (alike : Alike env s t) (i : Nat)
    (sendDisconnectPackets : Bool) (disconnectReason : DisconnectReason) :
    Lockstep (Alike env)
      (disconnectClientInternal env config s i sendDisconnectPackets disconnectReason)
      (disconnectClientInternal env config t i sendDisconnectPackets disconnectReason) := by
  unfold disconnectClientInternal
  rw [alike.clients]
  refine (notify_alike quiet (alike.setClient i _) i false).bind fun s t alike => ?_
  refine Lockstep.bind (R := Alike env) ?_ fun s t alike => ?_
  · exact .ite
      (fun _ => Lockstep.foldlM (fun s t _ alike => sendClientPacket_alike alike _ i) _ s t alike)
      fun _ => .some alike
  · rw [alike.clients]
    cases (s.clients i).encryptionIndex with
    | none => exact .none
    | some e => exact .some (releaseClient_alike alike i e)

theorem disconnectClient_alike (quiet : config.NonReentrant) (alike : Alike env s t)
    (clientIndex : Int) : Lockstep (Alike env) (disconnectClient env config s clientIndex)
      (disconnectClient env config t clientIndex) := by
  unfold disconnectClient
  rw [alike.validSlot]
  cases s.validSlot clientIndex with
  | none => exact .some alike
  | some i =>
    dsimp only
    rw [alike.clients]
    exact .ite (fun _ => .some alike) fun _ => .ite (fun _ => .some alike) fun _ =>
      disconnectClientInternal_alike quiet alike i true _

theorem disconnectAllClients_alike (quiet : config.NonReentrant) (alike : Alike env s t) :
    Lockstep (Alike env) (disconnectAllClients env config s)
      (disconnectAllClients env config t) := by
  unfold disconnectAllClients
  rw [alike.running]
  refine .ite (fun _ => .some alike) fun _ => forEachSlot_alike (fun s t i alike => ?_) alike
  rw [alike.clients]
  exact .ite (fun _ => disconnectClientInternal_alike quiet alike i true _) fun _ => .some alike

theorem disconnectLoopbackClient_alike (quiet : config.NonReentrant) (alike : Alike env s t)
    (clientIndex : Int) : Lockstep (Alike env) (disconnectLoopbackClient config s clientIndex)
      (disconnectLoopbackClient config t clientIndex) := by
  unfold disconnectLoopbackClient
  rw [alike.validSlot]
  cases s.validSlot clientIndex with
  | none => exact .some alike
  | some i =>
    dsimp only
    rw [alike.clients]
    refine .ite (fun _ => .some alike) fun _ => ?_
    exact (notify_alike quiet (alike.setClient i _) i false).bind fun s t alike =>
      .some (resetClientSlot_alike alike i)

/-! ### Starting and stopping -/

theorem resetServer_alike (alike : Alike env s t) : Alike env (resetServer s) (resetServer t) := by
  obtain ⟨manager, trace, rfl, managers, shown⟩ := alike.eq_with
  exact ⟨rfl, .refl env _, visible_grown shown [_]⟩

theorem stop_alike (quiet : config.NonReentrant) (alike : Alike env s t) :
    Lockstep (Alike env) (stop env config s) (stop env config t) := by
  unfold stop
  rw [alike.running]
  refine .ite (fun _ => .some alike) fun _ => ?_
  refine (disconnectAllClients_alike quiet alike).bind fun s t alike => ?_
  refine (forEachSlot_alike (fun s t i alike => ?_) alike).bind fun s t alike =>
    .some (resetServer_alike alike)
  rw [alike.clients]
  exact .ite (fun _ => disconnectLoopbackClient_alike quiet alike i) fun _ => .some alike

theorem start_alike (quiet : config.NonReentrant) (alike : Alike env s t) (maxClients : Int)
    (challengeKey : Key) (reading : UInt64) :
    Lockstep (Alike env) (start env config s maxClients challengeKey reading)
      (start env config t maxClients challengeKey reading) := by
  unfold start
  rw [alike.running]
  refine .ite (fun _ => .some alike) fun _ => ?_
  refine Lockstep.bind (R := Alike env)
    (.ite (fun _ => stop_alike quiet alike) fun _ => .some alike) fun s t alike => .some ?_
  obtain ⟨manager, trace, rfl, managers, shown⟩ := alike.eq_with
  exact ⟨rfl, managers, visible_grown shown [_, _]⟩

/-! ### The handshake -/

theorem sendChallenge_alike (alike : Alike env s t) (source : Address) (request : ConnectionRequest)
    (token : ConnectTokenPrivate) : Alike env (sendChallenge env config s source request token)
      (sendChallenge env config t source request token) := by
  obtain ⟨manager, trace, rfl, managers, shown⟩ := alike.eq_with
  exact sendGlobalPacket_alike ⟨rfl, managers, visible_grown shown [_, _]⟩ _ _ _

theorem admitRequest_alike (alike : Alike env s t) (source : Address) (request : ConnectionRequest)
    (token : ConnectTokenPrivate) (index : Nat) :
    Alike env (admitRequest env config s source request token index)
      (admitRequest env config t source request token index) := by
  obtain ⟨manager, trace, rfl, managers, shown⟩ := alike.eq_with
  unfold admitRequest
  dsimp only
  split_ifs
  · exact sendGlobalPacket_alike alike _ _ _
  · have added := managers.addEncryptionMapping source token.serverToClientKey
      token.clientToServerKey s.time (mappingExpireTime env s token) token.timeoutSeconds index
    rw [show mappingExpireTime env { s with encryptionManager := manager, trace := trace } token =
      mappingExpireTime env s token from rfl]
    generalize s.encryptionManager.addEncryptionMapping _ _ _ _ _ _ _ _ = first at *
    generalize manager.addEncryptionMapping _ _ _ _ _ _ _ _ = second at *
    cases added with
    | none => exact alike
    | some managers => exact sendChallenge_alike ⟨rfl, managers, shown⟩ source request token

/-- The history gives both the same answer. -/
theorem Alike.consult (alike : Alike env s t) (source : Address) (request : ConnectionRequest)
    (reading : UInt64) :
    Server.consult t source request reading = Server.consult s source request reading := by
  have entries : t.connectTokenEntries = s.connectTokenEntries := by rw [alike.rest]
  unfold Server.consult
  rw [entries, alike.time]

theorem noteRequest_alike (alike : Alike env s t) (source : Address) (request : ConnectionRequest)
    (reading : UInt64) : Alike env (noteRequest s source request reading)
      (noteRequest t source request reading) := by
  unfold noteRequest
  rw [alike.consult]
  obtain ⟨manager, trace, rfl, managers, shown⟩ := alike.eq_with
  exact ⟨rfl, managers, visible_grown shown [_]⟩

theorem processConnectionRequestPacket_alike (alike : Alike env s t) (source : Address)
    (request : ConnectionRequest) (reading : UInt64) :
    Lockstep (Alike env) (processConnectionRequestPacket env config s source request reading)
      (processConnectionRequestPacket env config t source request reading) := by
  have noted := noteRequest_alike alike source request reading
  have answer := alike.consult source request reading
  have listed : ∀ token, t.serverAddressListed token = s.serverAddressListed token := by
    intro token
    rw [alike.rest]
    rfl
  have byID : ∀ clientID, t.findClientIndexByID clientID = s.findClientIndexByID clientID := by
    intro clientID
    rw [alike.rest]
    rfl
  unfold processConnectionRequestPacket
  cases ConnectTokenPrivate.read request.connectTokenData.bytes with
  | none => exact .none
  | some result =>
    cases result with
    | none => exact .some alike
    | some token =>
      simp only [Option.bind_eq_bind, Option.bind_some]
      rw [listed, alike.findClientIndexByAddress, byID, answer]
      refine .ite (fun _ => .some alike) fun _ => .ite (fun _ => .some alike) fun _ =>
        .ite (fun _ => .some alike) fun _ => ?_
      cases (consult s source request reading).2 with
      | historyFull => exact .some noted
      | refused => exact .some noted
      | entry index => exact .some (admitRequest_alike noted source request token index)

/-- A client is installed on a mapping that both have. -/
theorem installClient_alike (alike : Alike env s t) (i : Nat) (address : Address) (clientID : UInt64)
    {e : Nat} (timeoutSeconds : Int32) (userData : UserData)
    (same : t.encryptionManager.mapping e = s.encryptionManager.mapping e) :
    Alike env (installClient s i address clientID e timeoutSeconds userData)
      (installClient t i address clientID e timeoutSeconds userData) := by
  obtain ⟨manager, trace, rfl, managers, shown⟩ := alike.eq_with
  have same : manager.mapping e = s.encryptionManager.mapping e := same
  have bound : ((s.encryptionManager.setExpireTime e (-1)).setClientIndex e (some i)).Alike env
      ((manager.setExpireTime e (-1)).setClientIndex e (some i)) := by
    have lasting : (s.encryptionManager.setExpireTime e (-1)).Alike env
        (manager.setExpireTime e (-1)) := managers.set e (by rw [same]; exact .same)
    refine lasting.set e ?_
    simp only [EncryptionManager.setExpireTime, EncryptionManager.set, Function.update_self, same]
    exact .same
  have here : ((manager.setExpireTime e (-1)).setClientIndex e (some i)).mapping e =
      ((s.encryptionManager.setExpireTime e (-1)).setClientIndex e (some i)).mapping e := by
    simp [EncryptionManager.setExpireTime, EncryptionManager.setClientIndex, EncryptionManager.set,
      same]
  unfold installClient
  dsimp only [EncryptionManager.getConnectTokenEntryIndex]
  rw [here]
  exact ⟨rfl, bound, visible_grown shown [_]⟩

theorem connectClient_alike (quiet : config.NonReentrant) (alike : Alike env s t) (i : Nat)
    (address : Address) (clientID : UInt64) {e : Nat} (timeoutSeconds : Int32)
    (userData : UserData)
    (same : t.encryptionManager.mapping e = s.encryptionManager.mapping e) :
    Lockstep (Alike env) (connectClient env config s i address clientID e timeoutSeconds userData)
      (connectClient env config t i address clientID e timeoutSeconds userData) := by
  unfold connectClient
  have installed := installClient_alike alike i address clientID timeoutSeconds userData same
  have packet : (installClient t i address clientID e timeoutSeconds userData).keepAlivePacket i =
      (installClient s i address clientID e timeoutSeconds userData).keepAlivePacket i := by
    rw [installed.rest]
    rfl
  dsimp only
  rw [packet]
  exact (sendClientPacket_alike installed _ i).bind fun s t alike => notify_alike quiet alike i true

/-- The choice of a slot for a client whose response was accepted. -/
theorem chooseSlot_alike (quiet : config.NonReentrant) (alike : Alike env s t) (source : Address)
    (challenge : ChallengeToken) {e : Nat} (key : Key) (timeoutSeconds : Int32)
    (located : s.findClientIndexByAddress source = none →
      t.encryptionManager.mapping e = s.encryptionManager.mapping e) :
    Lockstep (Alike env)
      (if s.findClientIndexByAddress source ≠ none then some s
      else if s.findClientIndexByID challenge.clientID ≠ none then some s
      else if s.numConnectedClients = s.maxClients then
        some (sendGlobalPacket env config s .connectionDenied source key)
      else s.findFreeClientIndex.bind fun i =>
        connectClient env config s i source challenge.clientID e timeoutSeconds challenge.userData)
      (if t.findClientIndexByAddress source ≠ none then some t
      else if t.findClientIndexByID challenge.clientID ≠ none then some t
      else if t.numConnectedClients = t.maxClients then
        some (sendGlobalPacket env config t .connectionDenied source key)
      else t.findFreeClientIndex.bind fun i =>
        connectClient env config t i source challenge.clientID e timeoutSeconds
          challenge.userData) := by
  have counts : t.numConnectedClients = s.numConnectedClients ∧ t.maxClients = s.maxClients ∧
      t.findFreeClientIndex = s.findFreeClientIndex ∧
      t.findClientIndexByID challenge.clientID = s.findClientIndexByID challenge.clientID := by
    rw [alike.rest]
    exact ⟨rfl, rfl, rfl, rfl⟩
  rw [alike.findClientIndexByAddress, counts.1, counts.2.1, counts.2.2.1, counts.2.2.2]
  refine .ite (fun _ => .some alike) fun stranger => .ite (fun _ => .some alike) fun _ =>
    .ite (fun _ => .some (sendGlobalPacket_alike alike _ source key)) fun _ => ?_
  cases s.findFreeClientIndex with
  | none => exact .none
  | some i =>
    exact connectClient_alike quiet alike i source challenge.clientID timeoutSeconds
      challenge.userData (located (not_not.mp stranger))

/-- **A connection response**, read with a mapping that both have unless its address has a client. -/
theorem processConnectionResponsePacket_alike (quiet : config.NonReentrant) (alike : Alike env s t)
    (source : Address) (sequence : UInt64) (data : FixedBytes challengeTokenBytes)
    (encryptionIndex : Option Nat)
    (located : ∀ e, encryptionIndex = some e → s.findClientIndexByAddress source = none →
      t.encryptionManager.mapping e = s.encryptionManager.mapping e) :
    Lockstep (Alike env)
      (processConnectionResponsePacket env config s source sequence data encryptionIndex)
      (processConnectionResponsePacket env config t source sequence data encryptionIndex) := by
  have challengeKey : t.challengeKey = s.challengeKey := by rw [alike.rest]
  unfold processConnectionResponsePacket
  rw [challengeKey]
  cases decryptChallengeToken env data sequence s.challengeKey with
  | none => exact .some alike
  | some call =>
    have opened := alike.record (.opened .challengeToken call)
    dsimp only
    cases ChallengeToken.read (call.plaintext ++
        data.bytes.drop (challengeTokenBytes - MacBytes)) with
    | none => exact .none
    | some result =>
      cases result with
      | none => exact .some opened
      | some challenge =>
        cases encryptionIndex with
        | none => exact .some opened
        | some e =>
          have responded := opened.record (.responded source sequence
            (s.encryptionManager.mapping e).sendKey (s.encryptionManager.mapping e).receiveKey)
          obtain ⟨last, mapping⟩ := (alike.manager.mapping e).eq_with
          have keys : ∀ effect, ((t.record effect).encryptionManager.mapping e).sendKey =
                (s.encryptionManager.mapping e).sendKey ∧
              ((t.record effect).encryptionManager.mapping e).receiveKey =
                (s.encryptionManager.mapping e).receiveKey ∧
              ((t.record effect).encryptionManager.mapping e).timeout =
                (s.encryptionManager.mapping e).timeout := by
            intro effect
            show (t.encryptionManager.mapping e).sendKey = _ ∧
              (t.encryptionManager.mapping e).receiveKey = _ ∧
              (t.encryptionManager.mapping e).timeout = _
            rw [mapping]
            exact ⟨rfl, rfl, rfl⟩
          simp only [Option.bind_eq_bind, Option.bind_some]
          rw [(keys _).1, (keys _).2.1, (keys _).2.2]
          exact chooseSlot_alike quiet responded source challenge _ _ (located e rfl)

/-! ### Packets -/

theorem confirmClient_alike (alike : Alike env s t) (i : Nat) :
    Alike env (s.confirmClient i) (t.confirmClient i) := by
  unfold confirmClient
  rw [alike.clients, alike.time]
  exact alike.setClient i _

theorem pushPayload_alike (alike : Alike env s t) (i : Nat) (payload : Bytes) (sequence : UInt64) :
    Alike env (s.pushPayload i payload sequence) (t.pushPayload i payload sequence) := by
  unfold pushPayload
  rw [alike.clients]
  dsimp only
  split_ifs
  · exact (alike.setClient i _).record _
  · exact alike.setClient i _

theorem processPacketInternal_alike (quiet : config.NonReentrant) (alike : Alike env s t)
    (source : Address) (p : Packet) (sequence : UInt64) (encryptionIndex clientIndex : Option Nat)
    (reading : UInt64)
    (located : ∀ e, encryptionIndex = some e → s.findClientIndexByAddress source = none →
      t.encryptionManager.mapping e = s.encryptionManager.mapping e) :
    Lockstep (Alike env)
      (processPacketInternal env config s source p sequence encryptionIndex clientIndex reading)
      (processPacketInternal env config t source p sequence encryptionIndex clientIndex
        reading) := by
  have flags : t.flags = s.flags := by rw [alike.rest]
  unfold processPacketInternal
  cases p with
  | connectionRequest request =>
    dsimp only
    rw [flags]
    exact .ite (fun _ => processConnectionRequestPacket_alike alike source request reading)
      fun _ => .some alike
  | connectionResponse challengeTokenSequence data =>
    dsimp only
    rw [flags]
    exact .ite (fun _ => processConnectionResponsePacket_alike quiet alike source
      challengeTokenSequence data encryptionIndex located) fun _ => .some alike
  | connectionKeepAlive =>
    cases clientIndex with
    | none => exact .some alike
    | some i => exact .some (confirmClient_alike alike i)
  | connectionPayload payload =>
    cases clientIndex with
    | none => exact .some alike
    | some i =>
      exact .some (pushPayload_alike (confirmClient_alike alike i) i payload sequence)
  | connectionDisconnect =>
    cases clientIndex with
    | none => exact .some alike
    | some i => exact disconnectClientInternal_alike quiet alike i false _
  | connectionDenied | connectionChallenge => cases clientIndex <;> exact .some alike

theorem applyReading_alike (alike : Alike env s t) (source : Address) (reading : UInt64)
    (clientIndex : Option Nat) (outcome : ReadOutcome) :
    Alike env (s.applyReading source reading clientIndex outcome)
      (t.applyReading source reading clientIndex outcome) := by
  have window : Alike env (s.setWindow clientIndex outcome.replayProtection)
      (t.setWindow clientIndex outcome.replayProtection) := by
    unfold setWindow
    rw [alike.clients]
    cases clientIndex with
    | none => exact alike
    | some i =>
      cases outcome.replayProtection with
      | none => exact alike
      | some window => exact alike.setClient i _
  unfold applyReading recordReading
  cases outcome.opened with
  | none => exact window
  | some call =>
    cases outcome.packet with
    | none => exact window.record _
    | some packet =>
      cases packet with
      | connectionRequest request => exact (window.record _).record _
      | _ => exact window.record _

/-- Reading a packet does not change who is connected from where. -/
theorem applyReading_findClientIndexByAddress (s : Server) (source : Address) (reading : UInt64)
    (clientIndex : Option Nat) (outcome : ReadOutcome) (address : Address) :
    (s.applyReading source reading clientIndex outcome).findClientIndexByAddress address =
      s.findClientIndexByAddress address := by
  obtain ⟨maxClients, -, slots⟩ := applyReading_windows s source reading clientIndex outcome
  exact findClientIndexByAddress_congr s _ maxClients (fun j => .of_window (slots j)) address

/-- **Both read a datagram with the same mapping**, which is the same on both sides unless its
address has a client. -/
theorem locateMapping_alike (alike : Alike env s t) (source : Address) (clientIndex : Option Nat) :
    (locateMapping env t source clientIndex).1 = (locateMapping env s source clientIndex).1 ∧
      Alike env (locateMapping env s source clientIndex).2
        (locateMapping env t source clientIndex).2 ∧
      (locateMapping env s source clientIndex).2.findClientIndexByAddress source =
        s.findClientIndexByAddress source ∧
      ∀ e, (locateMapping env s source clientIndex).1 = some e → clientIndex = none →
        (locateMapping env t source clientIndex).2.encryptionManager.mapping e =
          (locateMapping env s source clientIndex).2.encryptionManager.mapping e := by
  obtain ⟨manager, trace, rfl, managers, shown⟩ := alike.eq_with
  unfold locateMapping EncryptionManager.findEncryptionMapping
  cases clientIndex with
  | some i =>
    refine ⟨rfl, alike, rfl, fun _ _ stranger => ?_⟩
    cases stranger
  | none =>
    dsimp only
    rw [managers.lookup]
    cases s.encryptionManager.lookup env source s.time with
    | none =>
      refine ⟨rfl, alike, rfl, fun _ found => ?_⟩
      cases found
    | some e =>
      refine ⟨rfl, ⟨rfl, managers.access e s.time, shown⟩, rfl, fun e' found _ => ?_⟩
      cases found
      exact managers.access_mapping e s.time

/-- **A datagram that both receive.** -/
theorem readAndProcessPacket_alike (quiet : config.NonReentrant) (alike : Alike env s t)
    (source : Address) (data : Bytes) (currentTimestamp reading : UInt64) :
    Lockstep (Alike env) (readAndProcessPacket env config s source data currentTimestamp reading)
      (readAndProcessPacket env config t source data currentTimestamp reading) := by
  have arrived := alike.record (.datagram currentTimestamp source data)
  unfold readAndProcessPacket
  generalize s.record (.datagram currentTimestamp source data) = s at *
  generalize t.record (.datagram currentTimestamp source data) = t at *
  dsimp only
  rw [arrived.running, arrived.findClientIndexByAddress]
  refine .ite (fun _ => .some arrived) fun _ => .ite (fun _ => .some arrived) fun _ => ?_
  obtain ⟨sameIndex, located, connected, sameMapping⟩ :=
    locateMapping_alike arrived source (s.findClientIndexByAddress source)
  rw [sameIndex]
  generalize s.findClientIndexByAddress source = clientIndex at *
  generalize (locateMapping env s source clientIndex).1 = encryptionIndex at *
  generalize (locateMapping env s source clientIndex).2 = s at *
  generalize (locateMapping env t source clientIndex).2 = t at *
  have key : t.encryptionManager.getReceiveKey encryptionIndex =
      s.encryptionManager.getReceiveKey encryptionIndex := by
    cases encryptionIndex with
    | none => rfl
    | some e =>
      obtain ⟨last, same⟩ := (located.manager.mapping e).eq_with
      simp only [EncryptionManager.getReceiveKey, Option.map_some, same]
  have floor : t.minConnectTokenExpireTimestamp = s.minConnectTokenExpireTimestamp := by
    rw [located.rest]
  rw [key, floor, located.clients]
  refine .ite (fun _ => .some located) fun _ => ?_
  cases readPacket env config.protocolID currentTimestamp s.minConnectTokenExpireTimestamp
      serverAllowedPackets data (s.encryptionManager.getReceiveKey encryptionIndex)
      (some config.privateKey) (clientIndex.map fun i => (s.clients i).replayProtection) with
  | none => exact .none
  | some outcome =>
    have applied := applyReading_alike located source currentTimestamp clientIndex outcome
    simp only [Option.bind_eq_bind, Option.bind_some]
    cases outcome.packet with
    | none => exact .some applied
    | some packet =>
      refine processPacketInternal_alike quiet applied source packet outcome.sequence
        encryptionIndex clientIndex reading fun e isIndex stranger => ?_
      rw [applyReading_findClientIndexByAddress, connected] at stranger
      rw [applyReading_encryptionManager, applyReading_encryptionManager]
      exact sameMapping e isIndex stranger

theorem receivePackets_alike (quiet : config.NonReentrant) (alike : Alike env s t)
    (currentTimestamp : UInt64) (batch : List Datagram) :
    Lockstep (Alike env) (receivePackets env config s currentTimestamp batch)
      (receivePackets env config t currentTimestamp batch) :=
  Lockstep.foldlM (fun _ _ d alike => readAndProcessPacket_alike quiet alike d.source d.data
    currentTimestamp d.reading) batch _ _ (alike.record (.clock currentTimestamp))

/-! ### Updating -/

theorem sendPackets_alike (alike : Alike env s t) :
    Lockstep (Alike env) (sendPackets env config s) (sendPackets env config t) := by
  unfold sendPackets
  rw [alike.running]
  refine .ite (fun _ => .some alike) fun _ => forEachSlot_alike (fun s t i alike => ?_) alike
  have packet : t.keepAlivePacket i = s.keepAlivePacket i := by
    rw [alike.rest]
    rfl
  rw [alike.clients, alike.time, packet]
  exact .ite (fun _ => sendClientPacket_alike alike _ i) fun _ => .some alike

theorem checkForTimeouts_alike (quiet : config.NonReentrant) (alike : Alike env s t) :
    Lockstep (Alike env) (checkForTimeouts env config s) (checkForTimeouts env config t) := by
  unfold checkForTimeouts
  rw [alike.running]
  refine .ite (fun _ => .some alike) fun _ => forEachSlot_alike (fun s t i alike => ?_) alike
  rw [alike.clients, alike.time]
  exact .ite (fun _ => .some alike) fun _ => .ite (fun _ => .some alike) fun _ =>
    .ite (fun _ => .some alike) fun _ =>
      .ite (fun _ => disconnectClientInternal_alike quiet alike i false _) fun _ => .some alike

/-- The end of `Update`, behind the datagrams. -/
theorem sendAndCheck_alike (quiet : config.NonReentrant) (alike : Alike env s t) :
    Lockstep (Alike env) (sendPackets env config s >>= checkForTimeouts env config)
      (sendPackets env config t >>= checkForTimeouts env config) :=
  (sendPackets_alike alike).bind fun _ _ alike => checkForTimeouts_alike quiet alike

theorem Alike.tick (alike : Alike env s t) (time : ℚ) :
    Alike env { s with time := time } { t with time := time } := by
  obtain ⟨manager, trace, rfl, managers, shown⟩ := alike.eq_with
  exact ⟨rfl, managers, shown⟩

/-! ### Payloads -/

theorem sendPayload_alike (alike : Alike env s t) (i : Nat) (payload : Bytes) :
    Lockstep (Alike env) (sendPayload env config s i payload)
      (sendPayload env config t i payload) := by
  have packet : t.keepAlivePacket i = s.keepAlivePacket i := by
    rw [alike.rest]
    rfl
  unfold sendPayload
  rw [alike.clients, packet]
  refine Lockstep.bind (R := Alike env) (.ite (fun _ => sendClientPacket_alike alike _ i)
    fun _ => .some alike) fun s t alike => ?_
  rw [alike.clients]
  exact sendClientPacket_alike (alike.record _) _ i

theorem sendPacket_alike (quiet : config.NonReentrant) (alike : Alike env s t) (clientIndex : Int)
    (payload : Bytes) : Lockstep (Alike env) (sendPacket env config s clientIndex payload)
      (sendPacket env config t clientIndex payload) := by
  unfold sendPacket
  rw [alike.validSlot]
  refine .ite (fun _ => .some alike) fun _ => ?_
  cases s.validSlot clientIndex with
  | none => exact .some alike
  | some i =>
    dsimp only
    rw [alike.clients]
    refine .ite (fun _ => .some alike) fun _ => .ite (fun _ => sendPayload_alike alike i payload)
      fun _ => ?_
    cases isCallback : config.sendLoopbackPacketCallback with
    | none => exact .none
    | some callback =>
      simp only [Option.bind_eq_bind, Option.bind_some, quiet.sendLoopback callback isCallback]
      have sent := alike.record (.sentLoopback i payload (s.clients i).sequence)
      have slot : (t.record (.sentLoopback i payload (s.clients i).sequence)).clients i =
          (s.record (.sentLoopback i payload (s.clients i).sequence)).clients i := by
        rw [sent.clients]
      rw [slot, sent.time]
      exact .some (sent.setClient i _)

theorem receivePacket_alike (alike : Alike env s t) (clientIndex : Int) :
    Alike env (receivePacket s clientIndex) (receivePacket t clientIndex) := by
  unfold receivePacket
  rw [alike.validSlot]
  cases s.validSlot clientIndex with
  | none => exact alike
  | some i =>
    dsimp only
    rw [alike.clients]
    split_ifs
    · exact alike
    · cases (s.clients i).packetQueue.pop.2.1 with
      | none => exact alike.setClient i _
      | some payload => exact (alike.setClient i _).record _

/-! ### Loopback clients -/

theorem connectLoopbackClient_alike (quiet : config.NonReentrant) (alike : Alike env s t)
    (clientIndex : Int) (clientID : UInt64) (userData : Bytes) :
    Lockstep (Alike env) (connectLoopbackClient config s clientIndex clientID userData)
      (connectLoopbackClient config t clientIndex clientID userData) := by
  obtain ⟨manager, trace, rfl, managers, shown⟩ := alike.eq_with
  unfold connectLoopbackClient
  rw [show ({ s with encryptionManager := manager, trace := trace } : Server).validSlot clientIndex =
    s.validSlot clientIndex from rfl]
  cases s.validSlot clientIndex with
  | none => exact .some alike
  | some i =>
    refine .ite (fun _ => .some alike) fun _ => notify_alike quiet ?_ i true
    exact ⟨rfl, managers, shown⟩

theorem processLoopbackPacket_alike (alike : Alike env s t) (clientIndex : Int) (payload : Bytes)
    (sequence : UInt64) : Alike env (processLoopbackPacket s clientIndex payload sequence)
      (processLoopbackPacket t clientIndex payload sequence) := by
  unfold processLoopbackPacket
  rw [alike.validSlot]
  cases s.validSlot clientIndex with
  | none => exact alike
  | some i =>
    dsimp only
    rw [alike.clients, alike.time]
    split_ifs
    · exact alike
    · exact alike
    · exact pushPayload_alike (alike.setClient i _) i payload sequence

/-- **Every call takes alike servers to alike servers**, or panics on both. -/
theorem step_alike (quiet : config.NonReentrant) (alike : Alike env s t) (call : Call) :
    Lockstep (Alike env) (step env config s call) (step env config t call) := by
  cases call with
  | start maxClients challengeKey reading =>
    exact start_alike quiet alike maxClients challengeKey reading
  | stop => exact stop_alike quiet alike
  | processPacket source data currentTimestamp reading =>
    exact readAndProcessPacket_alike quiet (alike.record (.clock currentTimestamp)) source data
      currentTimestamp reading
  | update time currentTimestamp batch =>
    exact (receivePackets_alike quiet (alike.tick time) currentTimestamp batch).bind
      fun _ _ alike => sendAndCheck_alike quiet alike
  | sendPacket clientIndex payload => exact sendPacket_alike quiet alike clientIndex payload
  | receivePacket clientIndex => exact .some (receivePacket_alike alike clientIndex)
  | disconnectClient clientIndex => exact disconnectClient_alike quiet alike clientIndex
  | disconnectAllClients => exact disconnectAllClients_alike quiet alike
  | connectLoopbackClient clientIndex clientID userData =>
    exact connectLoopbackClient_alike quiet alike clientIndex clientID userData
  | disconnectLoopbackClient clientIndex =>
    exact disconnectLoopbackClient_alike quiet alike clientIndex
  | processLoopbackPacket clientIndex payload sequence =>
    exact .some (processLoopbackPacket_alike alike clientIndex payload sequence)

end Server

end Netcode
