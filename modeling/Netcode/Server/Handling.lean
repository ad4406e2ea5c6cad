/-
**Handling a datagram.**

What a datagram does to the slots and the mappings, at whatever times: `Accounted`. It is stated
for each function a datagram goes through, up to the point where the server calls back (`Handled`),
and holds of `readAndProcessPacket` as a whole if the callback does not call the server
(`readAndProcessPacket_slots`). The server also returns: `connectClient` is never reached without a
free slot.

* the slots move within the slot table, and of those only the one at the datagram's address changes,
  or a free one is taken by a client at that address (`present`, `absent`);
* a denial is sent only when every slot is taken, and a client is installed only into the free slot
  that was found, which is then as in a new server but for what the installation writes (`shows`);
* the mappings of other addresses are kept (`mappings`).
-/

import Netcode.Server.Chain
import Netcode.Server.Occupancy

namespace Netcode

open Relation

/-- Neither a denial nor the installation of a client. -/
def Effect.plain : Effect → Bool
  | .installed _ _ _ _ _ => false
  | .sealed (.global .connectionDenied _) _ => false
  | _ => true

namespace Server

variable {env : Platform} {config : ServerConfig} {s s' t u v : Server} {source : Address} {i e : Nat}

/-! ### What a handshake packet comes to -/

/-- A request is dropped, refused by the history, or admitted. -/
theorem processConnectionRequestPacket_cases {request : ConnectionRequest} {reading : UInt64}
    (done : processConnectionRequestPacket env config s source request reading = some s') :
    s' = s ∨ s' = noteRequest s source request reading ∨ ∃ token index,
      s' = admitRequest env config (noteRequest s source request reading) source request token
        index := by
  unfold processConnectionRequestPacket at done
  obtain ⟨token?, -, done⟩ := Option.bind_eq_some_iff.mp done
  cases token? with
  | none => exact .inl (Option.some_inj.mp done).symm
  | some token =>
    dsimp only at done
    split_ifs at done
    · exact .inl (Option.some_inj.mp done).symm
    · exact .inl (Option.some_inj.mp done).symm
    · exact .inl (Option.some_inj.mp done).symm
    cases answer : (consult s source request reading).2 with
    | historyFull | refused =>
      rw [answer] at done
      exact .inr (.inl (Option.some_inj.mp done).symm)
    | entry index =>
      rw [answer] at done
      exact .inr (.inr ⟨token, index, (Option.some_inj.mp done).symm⟩)

/-- How far a response got: its challenge token did not open, it opened, or the server also had a
mapping for it. -/
inductive Examined (source : Address) (s : Server) : Server → Prop
  | unopened : Examined source s s
  | opened (call : AeadCall) : Examined source s (s.record (.opened .challengeToken call))
  | responded (call : AeadCall) (challengeTokenSequence : UInt64) (sendKey receiveKey : Key) :
      Examined source s ((s.record (.opened .challengeToken call)).record
        (.responded source challengeTokenSequence sendKey receiveKey))

/-- A response is dropped, denied, or lets its client in. -/
theorem processConnectionResponsePacket_cases {challengeTokenSequence : UInt64}
    {challengeTokenData : FixedBytes challengeTokenBytes} {encryptionIndex : Option Nat}
    (done : processConnectionResponsePacket env config s source challengeTokenSequence
      challengeTokenData encryptionIndex = some s') :
    ∃ t, Examined source s t ∧ (s' = t ∨
      (∃ key, s' = sendGlobalPacket env config t .connectionDenied source key) ∨
      ∃ i clientID e timeoutSeconds userData,
        connectClient env config t i source clientID e timeoutSeconds userData = some s') := by
  unfold processConnectionResponsePacket at done
  cases opens : decryptChallengeToken env challengeTokenData challengeTokenSequence
      s.challengeKey with
  | none =>
    rw [opens] at done
    exact ⟨s, .unopened, .inl (Option.some_inj.mp done).symm⟩
  | some call =>
    rw [opens] at done
    obtain ⟨challenge?, -, done⟩ := Option.bind_eq_some_iff.mp done
    cases challenge? with
    | none => exact ⟨_, .opened call, .inl (Option.some_inj.mp done).symm⟩
    | some challenge =>
      cases encryptionIndex with
      | none => exact ⟨_, .opened call, .inl (Option.some_inj.mp done).symm⟩
      | some e =>
        refine ⟨_, .responded call challengeTokenSequence (s.encryptionManager.mapping e).sendKey
          (s.encryptionManager.mapping e).receiveKey, ?_⟩
        dsimp only at done
        split_ifs at done
        · exact .inl (Option.some_inj.mp done).symm
        · exact .inl (Option.some_inj.mp done).symm
        · exact .inr (.inl ⟨_, (Option.some_inj.mp done).symm⟩)
        · obtain ⟨i, -, done⟩ := Option.bind_eq_some_iff.mp done
          exact .inr (.inr ⟨i, _, e, _, _, done⟩)

/-- **What a packet comes to**, by its kind: a request or a response is looked at, a packet of a
client is for its slot, and anything else is dropped. -/
inductive Processed (env : Platform) (config : ServerConfig) (source : Address) (s s' : Server) :
    Packet → Prop
  | dropped (p : Packet) (same : s' = s) : Processed env config source s s' p
  | request (request : ConnectionRequest) (reading : UInt64)
      (done : processConnectionRequestPacket env config s source request reading = some s') :
      Processed env config source s s' (.connectionRequest request)
  | response (challengeTokenSequence : UInt64) (challengeTokenData : FixedBytes challengeTokenBytes)
      (encryptionIndex : Option Nat)
      (done : processConnectionResponsePacket env config s source challengeTokenSequence
        challengeTokenData encryptionIndex = some s') :
      Processed env config source s s'
        (.connectionResponse challengeTokenSequence challengeTokenData)
  | keepAlive (i : Nat) (clientIndex maxClients : Int32) (heard : s' = s.confirmClient i) :
      Processed env config source s s' (.connectionKeepAlive clientIndex maxClients)
  | payload (i : Nat) (payload : Bytes) (sequence : UInt64)
      (heard : s' = (s.confirmClient i).pushPayload i payload sequence) :
      Processed env config source s s' (.connectionPayload payload)
  | disconnect (i : Nat)
      (done : disconnectClientInternal env config s i false .clientDisconnect = some s') :
      Processed env config source s s' .connectionDisconnect

theorem processPacketInternal_cases {p : Packet} {sequence : UInt64}
    {encryptionIndex clientIndex : Option Nat} {reading : UInt64}
    (done : processPacketInternal env config s source p sequence encryptionIndex clientIndex reading =
      some s') : Processed env config source s s' p := by
  have dropped : some s = some s' → Processed env config source s s' p :=
    fun same => .dropped p (Option.some_inj.mp same).symm
  cases p with
  | connectionRequest request =>
    unfold processPacketInternal at done
    dsimp only at done
    split_ifs at done
    · exact .request request reading done
    · exact dropped done
  | connectionResponse challengeTokenSequence challengeTokenData =>
    unfold processPacketInternal at done
    dsimp only at done
    split_ifs at done
    · exact .response challengeTokenSequence challengeTokenData encryptionIndex done
    · exact dropped done
  | connectionDenied => cases clientIndex <;> exact dropped done
  | connectionChallenge => cases clientIndex <;> exact dropped done
  | connectionKeepAlive index maxClients =>
    cases clientIndex with
    | none => exact dropped done
    | some i => exact .keepAlive i index maxClients (Option.some_inj.mp done).symm
  | connectionPayload payload =>
    cases clientIndex with
    | none => exact dropped done
    | some i => exact .payload i payload sequence (Option.some_inj.mp done).symm
  | connectionDisconnect =>
    cases clientIndex with
    | none => exact dropped done
    | some i => exact .disconnect i done

/-! ### What is accounted for -/

/-- What the new effects say: a denial is sent only by a full server; a client is installed only
into the free slot that was found, and nothing of an earlier client is left in it. -/
def Shows (t u : Server) (new : List Effect) : Prop :=
  (∀ sequence call, .sealed (.global .connectionDenied sequence) call ∈ new →
    ∀ j < t.maxClients, (t.clients j).connected = true) ∧
  ∀ k address e sendKey receiveKey, .installed k address e sendKey receiveKey ∈ new →
    t.findFreeClientIndex = some k ∧ ∃ clientID timeout userData sequence,
      u.clients k = { ClientSlot.new.fill address clientID e timeout userData t.time with
        sequence := sequence }

theorem Shows.of_plain {new : List Effect} (plain : ∀ effect ∈ new, effect.plain = true) :
    Shows t u new := by
  refine ⟨fun sequence call denied => ?_, fun k address e sendKey receiveKey installed => ?_⟩
  · cases plain _ denied
  · cases plain _ installed

/-- **What handling a datagram from `source` does.** -/
structure Accounted (env : Platform) (source : Address) (t u : Server) : Prop where
  moves : Moves t u
  shows : ∃ new, u.trace = new ++ t.trace ∧ Shows t u new
  time : u.time = t.time
  /-- A client is connected at the address: no other slot changes. -/
  present : ∀ i, t.findClientIndexByAddress source = some i →
    ∀ j, j ≠ i → u.clients j = t.clients j
  /-- Nobody is connected at the address: no slot changes, or a free one is taken from there. -/
  absent : t.findClientIndexByAddress source = none → u.clients = t.clients ∨
    ∃ i, (t.clients i).connected = false ∧ (u.clients i).connected = true ∧
      (u.clients i).loopback = false ∧ (u.clients i).address = source ∧
      ∀ j, j ≠ i → u.clients j = t.clients j
  mappings : EncryptionManager.Keeps env source t.time t.encryptionManager u.encryptionManager

/-- No slot changes. -/
theorem Accounted.unmoved (new : List Effect) (table : u.slotTable = t.slotTable)
    (tables : t.TablesOk → u.TablesOk) (time : u.time = t.time)
    (mappings : EncryptionManager.Keeps env source t.time t.encryptionManager u.encryptionManager)
    (trace : u.trace = new ++ t.trace) (shows : Shows t u new) : Accounted env source t u := by
  have clients : u.clients = t.clients := congrArg SlotTable.clients table
  exact ⟨⟨by rw [table], tables⟩, ⟨new, trace, shows⟩, time, fun _ _ j _ => congrFun clients j,
    fun _ => .inl clients, mappings⟩

theorem Accounted.refl (env : Platform) (source : Address) (t : Server) : Accounted env source t t :=
  .unmoved [] rfl (fun tables => tables) rfl (.refl _ _ _ _) rfl (.of_plain (by simp))

/-- The client at the address changes, within its session. -/
theorem Accounted.within (new : List Effect) (ok : t.slotTable.Ok)
    (found : t.findClientIndexByAddress source = some i) (within : Within env t u i)
    (trace : u.trace = new ++ t.trace) (plain : ∀ effect ∈ new, effect.plain = true) :
    Accounted env source t u := by
  obtain ⟨-, connected, equal⟩ := findClientIndexByAddress_eq_some found
  refine ⟨within.moves ok connected, ⟨new, trace, .of_plain plain⟩, within.time,
    fun k foundK j other => ?_, fun away => ?_, within.mappings.congr equal⟩
  · cases found.symm.trans foundK
    exact within.others j other
  · rw [found] at away
    cases away

/-- The search for a free slot looks at sessions only. -/
theorem findFreeClientIndex_congr (maxClients : s'.maxClients = s.maxClients)
    (slots : ∀ j, SameSession (s.clients j) (s'.clients j)) :
    s'.findFreeClientIndex = s.findFreeClientIndex := by
  unfold findFreeClientIndex
  rw [maxClients]
  congr 1
  funext j
  rw [(slots j).connected]

/-- **A first part that leaves the sessions alone**: nobody comes or goes. -/
structure Preface (env : Platform) (source : Address) (t v : Server) : Prop
    extends Accounted env source t v where
  slots : ∀ j, SameSession (t.clients j) (v.clients j)
  maxClients : v.maxClients = t.maxClients
  running : v.running = t.running
  plain : ∃ new, v.trace = new ++ t.trace ∧ ∀ effect ∈ new, effect.plain = true

/-- Nothing but the trace changes. -/
theorem Preface.noted (env : Platform) (source : Address) (t : Server) (new : List Effect)
    (plain : ∀ effect ∈ new, effect.plain = true) :
    Preface env source t { t with trace := new ++ t.trace } :=
  ⟨.unmoved new rfl (fun tables => ⟨tables.tidy, tables.stopped⟩) rfl (.refl _ _ _ _) rfl
    (.of_plain plain), fun _ => .refl _, rfl, rfl, new, rfl, plain⟩

theorem Preface.find (preface : Preface env source t v) :
    v.findClientIndexByAddress source = t.findClientIndexByAddress source :=
  findClientIndexByAddress_congr t v preface.maxClients preface.slots source

theorem Preface.ok (preface : Preface env source t v) (ok : t.slotTable.Ok) : v.slotTable.Ok :=
  ok.steps preface.moves.table

/-- The rest follows. -/
theorem Preface.then (first : Preface env source t v) (rest : Accounted env source v u) :
    Accounted env source t u := by
  have mappings := rest.mappings
  rw [first.time] at mappings
  refine ⟨first.moves.trans rest.moves, ?_, rest.time.trans first.time, fun i found j other => ?_,
    fun away => ?_, first.mappings.trans mappings⟩
  · obtain ⟨new, trace, plain⟩ := first.plain
    obtain ⟨new', trace', denied, installed⟩ := rest.shows
    refine ⟨new' ++ new, by rw [trace', trace, List.append_assoc], fun sequence call member => ?_,
      fun k address e sendKey receiveKey member => ?_⟩
    · rcases List.mem_append.mp member with late | early
      · intro j small
        rw [← (first.slots j).connected]
        exact denied sequence call late j (first.maxClients ▸ small)
      · cases plain _ early
    · rcases List.mem_append.mp member with late | early
      · obtain ⟨free, fresh⟩ := installed k address e sendKey receiveKey late
        rw [findFreeClientIndex_congr first.maxClients first.slots] at free
        rw [first.time] at fresh
        exact ⟨free, fresh⟩
      · cases plain _ early
  · rw [rest.present i (first.find.trans found) j other, first.present i found j other]
  · have still : v.clients = t.clients := by
      rcases first.absent away with same | ⟨i, free, taken, -⟩
      · exact same
      · rw [(first.slots i).connected, free] at taken
        cases taken
    rw [← still]
    exact rest.absent (first.find.trans away)

theorem Preface.trans (first : Preface env source t v) (second : Preface env source v u) :
    Preface env source t u := by
  obtain ⟨new, trace, plain⟩ := first.plain
  obtain ⟨new', trace', plain'⟩ := second.plain
  refine ⟨first.then second.toAccounted, fun j => ?_, second.maxClients.trans first.maxClients,
    second.running.trans first.running, new' ++ new, by rw [trace', trace, List.append_assoc],
    fun effect member => ?_⟩
  · exact (first.slots j).trans (second.slots j)
  · exact (List.mem_append.mp member).elim (plain' effect) (plain effect)

/-- **What handling a datagram comes to**: everything is accounted for up to the point where the
server calls back, at its very end for a new client, and in a disconnection for one that leaves. -/
inductive Handled (env : Platform) (config : ServerConfig) (source : Address) (s : Server) :
    Go Server → Prop
  | settles {u : Server} (accounted : Accounted env source s u) : Handled env config source s (some u)
  | joins {u : Server} (i : Nat) (accounted : Accounted env source s u) :
      Handled env config source s (notify config u i true)
  | leaves {v : Server} (i : Nat) (preface : Preface env source s v)
      (found : v.findClientIndexByAddress source = some i) :
      Handled env config source s
        (disconnectClientInternal env config v i false .clientDisconnect)

theorem Preface.handled {result : Go Server} (first : Preface env source t v)
    (rest : Handled env config source v result) : Handled env config source t result := by
  cases rest with
  | settles accounted => exact .settles (first.then accounted)
  | joins i accounted => exact .joins i (first.then accounted)
  | leaves i preface found => exact .leaves i (first.trans preface) found

/-! ### The handshake -/

/-- A connection request changes no slot, and is denied only by a full server. -/
theorem processConnectionRequestPacket_slots (env : Platform) (config : ServerConfig)
    (ok : s.slotTable.Ok) (running : s.running = true) (source : Address)
    (request : ConnectionRequest) (reading : UInt64) :
    ∃ u, processConnectionRequestPacket env config s source request reading = some u ∧
      Accounted env source s u := by
  unfold processConnectionRequestPacket
  obtain ⟨token?, reads⟩ := ConnectTokenPrivate.read_isSome request.connectTokenData
  rw [reads, Option.bind_eq_bind, Option.bind_some]
  cases token? with
  | none => exact ⟨s, rfl, .refl env source s⟩
  | some token =>
    dsimp only
    split_ifs with unlisted known sameID
    · exact ⟨s, rfl, .refl env source s⟩
    · exact ⟨s, rfl, .refl env source s⟩
    · exact ⟨s, rfl, .refl env source s⟩
    rw [not_not] at known
    -- a running server's tables are in order when its mappings are
    have settled : ∀ {u : Server} (new : List Effect), u.slotTable = s.slotTable →
        u.time = s.time → EncryptionManager.Keeps env source s.time s.encryptionManager
          u.encryptionManager → u.trace = new ++ s.trace → Shows s u new →
        Accounted env source s u := fun {u} new table time mappings trace shows =>
      .unmoved new table (fun tables => .of_running
        ((congrArg SlotTable.running table).trans running) (mappings.tidy tables.tidy)) time mappings
        trace shows
    have noted : Accounted env source s (noteRequest s source request reading) :=
      settled [.clock reading] rfl rfl (.refl _ _ _ _) rfl
        (.of_plain (by simp [Effect.plain]))
    cases (consult s source request reading).2 with
    | historyFull => exact ⟨_, rfl, noted⟩
    | refused => exact ⟨_, rfl, noted⟩
    | entry index =>
      refine ⟨_, rfl, ?_⟩
      unfold admitRequest
      split_ifs with full
      · refine settled [_, _, .clock reading] rfl rfl (.refl _ _ _ _) rfl
          ⟨fun _ _ _ => ok.full_iff.mp full, ?_⟩
        simp
      · cases added : (noteRequest s source request reading).encryptionManager.addEncryptionMapping
            env source token.serverToClientKey token.clientToServerKey
            (noteRequest s source request reading).time
            (mappingExpireTime env (noteRequest s source request reading) token)
            token.timeoutSeconds index with
        | none => exact noted
        | some manager =>
          have owners : manager.owner = s.encryptionManager.owner :=
            EncryptionManager.owner_add (fun _ _ _ owns =>
              ok.stranger (findClientIndexByAddress_eq_none.mp known) owns) added
          refine settled [_, _, _, _, .clock reading] ?_ rfl
            (EncryptionManager.Keeps.add added) rfl (.of_plain (by simp [Effect.plain]))
          simp only [slotTable, sendChallenge, sendGlobalPacket, noteRequest, owners]

/-- What the search by client id finds. -/
theorem findClientIndexByID_eq_none {clientID : UInt64} :
    s.findClientIndexByID clientID = none ↔ ∀ i < s.maxClients,
      (s.clients i).connected = true → (s.clients i).clientID ≠ clientID := by
  simp [findClientIndexByID, List.find?_eq_none]

/-- **`connectClient` installs the client and sends its first keep-alive**, and then tells of it: the
mapping is for its address, so that the `touch` check passes. -/
theorem connectClient_notifies (env : Platform) (config : ServerConfig) (i : Nat) (clientID : UInt64)
    (timeout : Int32) (userData : UserData)
    (isMapping : (s.encryptionManager.mapping e).address.Equal source = true) :
    connectClient env config s i source clientID e timeout userData =
      let installed := installClient s i source clientID e timeout userData
      notify config (writeToClient env config
        { installed with encryptionManager := installed.encryptionManager.access e s.time }
        (installed.keepAlivePacket i) i (installed.encryptionManager.mapping e).sendKey) i true := by
  let installed := installClient s i source clientID e timeout userData
  have slot : installed.clients i =
      (s.clients i).fill source clientID e timeout userData s.time := Function.update_self _ _ _
  have mapped : (installed.clients i).encryptionIndex = some e := by
    rw [slot]
    rfl
  have touches : (installed.encryptionManager.mapping e).address.Equal
      (installed.clients i).address = true := by
    rw [slot, show installed.encryptionManager = _ from
      installClient_manager s i source clientID e timeout userData]
    simpa [EncryptionManager.set, ClientSlot.fill] using isMapping
  have sends := sendClientPacket_touch env config (installed.keepAlivePacket i) mapped
  rw [if_pos touches] at sends
  unfold connectClient
  dsimp only
  rw [show installClient s i source clientID e timeout userData = installed from rfl, sends,
    Option.bind_eq_bind, Option.bind_some]
  rfl

/-- `connectClient` returns if the callback does. -/
theorem connectClient_eq (env : Platform) (quiet : config.NonReentrant) (i : Nat) (clientID : UInt64)
    (timeout : Int32) (userData : UserData)
    (isMapping : (s.encryptionManager.mapping e).address.Equal source = true) :
    connectClient env config s i source clientID e timeout userData =
      let installed := installClient s i source clientID e timeout userData
      some (writeToClient env config
        { installed with encryptionManager := installed.encryptionManager.access e s.time }
        (installed.keepAlivePacket i) i (installed.encryptionManager.mapping e).sendKey) := by
  rw [connectClient_notifies env config i clientID timeout userData isMapping]
  exact notify_eq quiet _ i true

/-- **A client is installed** into the free slot that was found. -/
theorem connectClient_slots (env : Platform) (config : ServerConfig) (ok : s.slotTable.Ok)
    (running : s.running = true) {clientID : UInt64} (timeout : Int32) (userData : UserData)
    (strangerAddress : s.findClientIndexByAddress source = none)
    (strangerID : s.findClientIndexByID clientID = none)
    (isMapping : (s.encryptionManager.mapping e).address.Equal source = true)
    (free : s.findFreeClientIndex = some i) :
    ∃ u, connectClient env config s i source clientID e timeout userData = notify config u i true ∧
      Accounted env source s u := by
  obtain ⟨small, vacant⟩ := findFreeClientIndex_eq_some free
  have absent := findClientIndexByAddress_eq_none.mp strangerAddress
  have unowned : s.encryptionManager.owner e = none := by
    cases owns : s.encryptionManager.owner e with
    | none => rfl
    | some entry =>
      have apart := (ok.stranger absent owns).2
      rw [← (EncryptionManager.owner_eq_some.mp owns).2, isMapping] at apart
      cases apart
  let installed := installClient s i source clientID e timeout userData
  have table : installed.slotTable =
      { s.slotTable with
        numConnectedClients := s.numConnectedClients + 1
        clients := Function.update s.clients i
          ((s.clients i).fill source clientID e timeout userData s.time)
        owner := Function.update s.encryptionManager.owner e
          (some (i, (s.encryptionManager.mapping e).address)) } := by
    rw [← EncryptionManager.owner_install s.encryptionManager e i (-1)]
    rfl
  have isAddress : (installed.encryptionManager.mapping e).address =
      (s.encryptionManager.mapping e).address := by
    simp [installed, installClient, EncryptionManager.setClientIndex,
      EncryptionManager.setExpireTime, EncryptionManager.set]
  have keeps : EncryptionManager.Keeps env source s.time s.encryptionManager
      installed.encryptionManager := by
    have first : EncryptionManager.Keeps env source s.time s.encryptionManager
        (s.encryptionManager.setExpireTime e (-1)) := .rewrite env s.time isMapping rfl
    refine first.trans (.rewrite env s.time ?_ rfl)
    simpa [EncryptionManager.setExpireTime, EncryptionManager.set] using isMapping
  have connects : Moves s installed := by
    refine ⟨?_, fun tables => .of_running running (keeps.tidy tables.tidy)⟩
    rw [table]
    exact .single (.connect s.slotTable i e source _ clientID timeout userData s.time small vacant
      absent (findClientIndexByID_eq_none.mp strangerID) unowned isMapping)
  have slot : installed.clients i =
      (s.clients i).fill source clientID e timeout userData s.time := Function.update_self _ _ _
  have pristine : (s.clients i).fill source clientID e timeout userData s.time =
      ClientSlot.new.fill source clientID e timeout userData s.time := by
    rw [show s.clients i = _ from ok.vacant i vacant]
    rfl
  have touches : (installed.encryptionManager.mapping e).address.Equal
      (installed.clients i).address = true := by
    rw [slot, isAddress]
    exact isMapping
  have within := writeToClient_within env config (installed.keepAlivePacket i)
    (installed.encryptionManager.mapping e).sendKey touches
  have okI := ok.steps connects.table
  have address : (installed.clients i).address = source := by
    rw [slot]
    rfl
  have keepsLast := within.mappings
  rw [address] at keepsLast
  have others : ∀ j, j ≠ i → installed.clients j = s.clients j :=
    fun j other => Function.update_of_ne other _ _
  refine ⟨_, ?_, connects.trans (within.moves okI (by rw [slot]; rfl)), ⟨[_, _, _], rfl, ?_, ?_⟩, rfl,
    fun k found => ?_, fun _ => .inr ⟨i, vacant, ?_, ?_, ?_, fun j other => ?_⟩, keeps.trans keepsLast⟩
  · exact connectClient_notifies env config i clientID timeout userData isMapping
  · simp [keepAlivePacket]
  · simp only [List.mem_cons, reduceCtorEq, List.not_mem_nil, or_false, false_or,
      Effect.installed.injEq]
    rintro k address e' sendKey receiveKey ⟨rfl, rfl, rfl, -, -⟩
    refine ⟨free, clientID, timeout, userData, 1, ?_⟩
    rw [← pristine]
    simp only [writeToClient, Function.update_self, slot]
    rfl
  · rw [strangerAddress] at found
    cases found
  · rw [within.slot.connected, slot]
    rfl
  · rw [within.slot.loopback, slot, pristine]
    rfl
  · rw [within.slot.address, address]
  · rw [within.others j other, others j other]

/-- A challenge token read back by the server is always a whole one. -/
theorem challengeToken_reads {data : FixedBytes challengeTokenBytes} {sequence : UInt64} {key : Key}
    {call : AeadCall} (opens : decryptChallengeToken env data sequence key = some call) :
    ∃ challenge, ChallengeToken.read (call.plaintext ++
      data.bytes.drop (challengeTokenBytes - MacBytes)) = some (some challenge) := by
  obtain ⟨-, -, -, -, plain⟩ := decryptAEAD_eq_some opens
  refine ChallengeToken.read_isSome _ ?_
  rw [data.length_eq] at plain
  rw [List.length_append, List.length_drop, data.length_eq]
  simp only [challengeTokenBytes, MacBytes] at plain ⊢
  omega

/-- **A connection response** installs a client, or changes no slot. -/
theorem processConnectionResponsePacket_slots (env : Platform) (config : ServerConfig)
    (ok : s.slotTable.Ok) (running : s.running = true) (challengeTokenSequence : UInt64)
    (data : FixedBytes challengeTokenBytes) {encryptionIndex : Option Nat}
    (isMapping : s.findClientIndexByAddress source = none → ∀ e, encryptionIndex = some e →
      (s.encryptionManager.mapping e).address.Equal source = true) :
    Handled env config source s (processConnectionResponsePacket env config s source
      challengeTokenSequence data encryptionIndex) := by
  unfold processConnectionResponsePacket
  cases opens : decryptChallengeToken env data challengeTokenSequence s.challengeKey with
  | none => exact .settles (.refl env source s)
  | some call =>
    obtain ⟨challenge, reads⟩ := challengeToken_reads opens
    dsimp only
    rw [reads, Option.bind_eq_bind, Option.bind_some]
    cases encryptionIndex with
    | none =>
      exact .settles (Preface.noted env source s [.opened .challengeToken call]
        (by simp [Effect.plain])).toAccounted
    | some e =>
      dsimp only
      -- the server once it has noted the challenge and the response
      obtain ⟨responding, isState⟩ : ∃ u, u = (s.record (.opened .challengeToken call)).record
        (.responded source challengeTokenSequence
          ((s.record (.opened .challengeToken call)).encryptionManager.mapping e).sendKey
          ((s.record (.opened .challengeToken call)).encryptionManager.mapping e).receiveKey) :=
        ⟨_, rfl⟩
      have noted : Preface env source s responding := by
        rw [isState]
        exact .noted env source s [_, _] (by simp [Effect.plain])
      have okR := noted.ok ok
      have sameMappings : responding.encryptionManager = s.encryptionManager := by
        rw [isState]
        rfl
      rw [← isState]
      split_ifs with known sameID full
      · exact .settles noted.toAccounted
      · exact .settles noted.toAccounted
      · refine .settles (noted.then (.unmoved [_, _] rfl (fun tables => ⟨tables.tidy,
          tables.stopped⟩) rfl (.refl _ _ _ _) rfl ⟨fun _ _ _ => okR.full_iff.mp full, ?_⟩))
        simp
      · rw [not_not] at known sameID
        obtain ⟨i, free⟩ : ∃ i, responding.findFreeClientIndex = some i := by
          cases found : responding.findFreeClientIndex with
          | some i => exact ⟨i, rfl⟩
          | none =>
            have all : ∀ i < responding.maxClients, (responding.clients i).connected = true := by
              simpa [findFreeClientIndex, List.find?_eq_none] using found
            exact absurd (okR.full_iff.mpr all) full
        have isMappingR : (responding.encryptionManager.mapping e).address.Equal source = true := by
          rw [sameMappings]
          exact isMapping (noted.find.symm.trans known) e rfl
        rw [free, Option.bind_eq_bind, Option.bind_some]
        obtain ⟨u, installs, accounted⟩ := connectClient_slots env config okR
          (noted.running.trans running)
          ((s.record (.opened .challengeToken call)).encryptionManager.mapping e).timeout
          challenge.userData known sameID isMappingR free
        rw [installs]
        exact .joins i (noted.then accounted)

/-! ### Packets -/

/-- A payload that is pushed is noted, unless it is dropped. -/
theorem pushPayload_plain (s : Server) (i : Nat) (payload : Bytes) (sequence : UInt64) :
    ∃ new, (s.pushPayload i payload sequence).trace = new ++ s.trace ∧
      ∀ effect ∈ new, effect.plain = true := by
  unfold pushPayload
  dsimp only
  split_ifs
  · exact ⟨[_], rfl, by simp [Effect.plain]⟩
  · exact ⟨[], rfl, by simp⟩

/-- A client that disconnects itself is sent nothing. -/
theorem disconnectClientInternal_silent (env : Platform) (quiet : config.NonReentrant)
    (mapped : (s.clients i).encryptionIndex = some e) (reason : DisconnectReason) :
    disconnectClientInternal env config s i false reason =
      some (releaseClient env (s.setClient i { s.clients i with disconnectReason := reason }) i e) := by
  have index :
      ((s.setClient i { s.clients i with disconnectReason := reason }).clients i).encryptionIndex =
        some e := by
    simpa [setClient] using mapped
  simp only [disconnectClientInternal, notify_eq quiet, Option.bind_eq_bind, Option.bind_some,
    Bool.false_eq_true, if_false, index]
  rfl

/-- A client found by its address is on the network: a loopback client has no address. -/
theorem network_of_found (ok : s.slotTable.Ok) (found : s.findClientIndexByAddress source = some i) :
    (s.clients i).loopback = false := by
  have equal := (findClientIndexByAddress_eq_some found).2.2
  cases isLoopback : (s.clients i).loopback with
  | false => rfl
  | true =>
    rw [show (s.clients i).address = Address.none from (ok.loopback i isLoopback).1,
      Address.none_equal] at equal
    cases equal

/-- **A packet is processed**, for the client at the address if there is one. -/
theorem processPacketInternal_handled (env : Platform) (config : ServerConfig)
    (ok : s.slotTable.Ok) (running : s.running = true) (packet : Packet) (sequence : UInt64)
    {encryptionIndex clientIndex : Option Nat} (reading : UInt64)
    (isIndex : s.findClientIndexByAddress source = clientIndex)
    (isMapping : clientIndex = none → ∀ e, encryptionIndex = some e →
      (s.encryptionManager.mapping e).address.Equal source = true) :
    Handled env config source s (processPacketInternal env config s source packet sequence
      encryptionIndex clientIndex reading) := by
  have quietly : Handled env config source s (some s) := .settles (.refl env source s)
  have heard : ∀ i, Within env s (s.confirmClient i) i :=
    fun i => .set env s i ⟨rfl, rfl, rfl, rfl, rfl, rfl⟩ fun _ => rfl
  cases packet with
  | connectionRequest request =>
    simp only [processPacketInternal]
    split_ifs
    · obtain ⟨u, returns, accounted⟩ := processConnectionRequestPacket_slots env config ok running
        source request reading
      rw [returns]
      exact .settles accounted
    · exact quietly
  | connectionResponse challengeTokenSequence data =>
    simp only [processPacketInternal]
    split_ifs
    · exact processConnectionResponsePacket_slots env config ok running challengeTokenSequence data
        (fun away => isMapping (isIndex.symm.trans away))
    · exact quietly
  | connectionDenied => cases clientIndex <;> exact quietly
  | connectionChallenge => cases clientIndex <;> exact quietly
  | connectionKeepAlive =>
    cases clientIndex with
    | none => exact quietly
    | some i => exact .settles (.within [] ok isIndex (heard i) rfl (by simp))
  | connectionPayload payload =>
    cases clientIndex with
    | none => exact quietly
    | some i =>
      obtain ⟨new, trace, plain⟩ := pushPayload_plain (s.confirmClient i) i payload sequence
      exact .settles (.within new ok isIndex
        ((heard i).trans (pushPayload_within env _ i payload sequence)) trace plain)
  | connectionDisconnect =>
    cases clientIndex with
    | none => exact quietly
    | some i => exact .leaves i (.noted env source s [] (by simp)) isIndex

/-! ### Datagrams -/

/-- The mapping a datagram is read with is for its address, if nobody is connected there. -/
theorem locateMapping_slots (env : Platform) (source : Address) (running : s.running = true)
    {clientIndex : Option Nat} (isIndex : s.findClientIndexByAddress source = clientIndex) :
    ∃ encryptionIndex v, locateMapping env s source clientIndex = (encryptionIndex, v) ∧
      Preface env source s v ∧ (clientIndex = none → ∀ e, encryptionIndex = some e →
        (v.encryptionManager.mapping e).address.Equal source = true) := by
  have still : Preface env source s s := .noted env source s [] (by simp)
  cases clientIndex with
  | some i =>
    exact ⟨(s.clients i).encryptionIndex, s, rfl, still, fun impossible => by cases impossible⟩
  | none =>
    unfold locateMapping EncryptionManager.findEncryptionMapping
    cases found : s.encryptionManager.lookup env source s.time with
    | none => exact ⟨none, s, rfl, still, fun _ e isE => by cases isE⟩
    | some e =>
      have equal := (EncryptionManager.lookup_eq_some.mp found).2.1
      have keeps : EncryptionManager.Keeps env source s.time s.encryptionManager
          (s.encryptionManager.access e s.time) := .rewrite env s.time equal rfl
      refine ⟨some e, { s with encryptionManager := s.encryptionManager.access e s.time }, rfl,
        ⟨.unmoved [] ?_ (fun tables => .of_running running (keeps.tidy tables.tidy)) rfl keeps rfl
          (.of_plain (by simp)), fun _ => .refl _, rfl, rfl, [], rfl, by simp⟩, ?_⟩
      · simp [slotTable]
      · rintro - e' ⟨⟩
        simpa [EncryptionManager.access, EncryptionManager.set] using equal

/-- What was opened is noted. -/
theorem recordReading_eq (s : Server) (source : Address) (reading : UInt64) (opened : Option AeadCall)
    (packet : Option Packet) : ∃ new, s.recordReading source reading opened packet =
      { s with trace := new ++ s.trace } ∧ ∀ effect ∈ new, effect.plain = true := by
  cases opened with
  | none => exact ⟨[], rfl, by simp⟩
  | some call =>
    cases packet with
    | none => exact ⟨[_], rfl, by simp [Effect.plain]⟩
    | some packet =>
      cases packet with
      | connectionRequest request => exact ⟨[_, _], rfl, by simp [Effect.plain]⟩
      | _ => exact ⟨[_], rfl, by simp [Effect.plain]⟩

/-- What `readPacket` advanced and opened. -/
theorem applyReading_slots (env : Platform) (ok : s.slotTable.Ok) {clientIndex : Option Nat}
    (isIndex : s.findClientIndexByAddress source = clientIndex) (reading : UInt64)
    (outcome : ReadOutcome) :
    Preface env source s (s.applyReading source reading clientIndex outcome) ∧
      (s.applyReading source reading clientIndex outcome).encryptionManager = s.encryptionManager := by
  have window : Preface env source s (s.setWindow clientIndex outcome.replayProtection) ∧
      (s.setWindow clientIndex outcome.replayProtection).encryptionManager = s.encryptionManager := by
    have still : Preface env source s s := .noted env source s [] (by simp)
    cases clientIndex with
    | none => exact ⟨still, rfl⟩
    | some i =>
      cases outcome.replayProtection with
      | none => exact ⟨still, rfl⟩
      | some window =>
        have within : Within env s (s.setClient i { s.clients i with replayProtection := window }) i :=
          .set env s i ⟨rfl, rfl, rfl, rfl, rfl, rfl⟩ fun isLoopback => by
            rw [network_of_found ok isIndex] at isLoopback
            cases isLoopback
        exact ⟨⟨.within [] ok isIndex within rfl (by simp),
          SameSession.update ⟨rfl, rfl, rfl, rfl, rfl, rfl⟩, rfl, rfl, [], rfl, by simp⟩, rfl⟩
  obtain ⟨new, same, plain⟩ := recordReading_eq (s.setWindow clientIndex outcome.replayProtection)
    source reading outcome.opened outcome.packet
  rw [applyReading, same]
  exact ⟨window.1.trans (.noted env source _ new plain), window.2⟩

/-- **A datagram is accounted for**, up to the point where the server calls back. -/
theorem readAndProcessPacket_handled (env : Platform) (config : ServerConfig) (ok : s.slotTable.Ok)
    (source : Address) (data : Bytes) (currentTimestamp reading : UInt64) :
    Handled env config source s
      (readAndProcessPacket env config s source data currentTimestamp reading) := by
  have arrived : Preface env source s (s.record (.datagram currentTimestamp source data)) :=
    .noted env source s [_] (by simp [Effect.plain])
  have okT := arrived.ok ok
  unfold readAndProcessPacket
  generalize s.record (.datagram currentTimestamp source data) = t at *
  dsimp only
  split_ifs with stopped short unknown
  · exact .settles arrived.toAccounted
  · exact .settles arrived.toAccounted
  all_goals
    have running : t.running = true := by simpa using stopped
    obtain ⟨index, v, located, finds, isMapping⟩ := locateMapping_slots env source running rfl
    have found := arrived.trans finds
  · rw [located]
    exact .settles found.toAccounted
  rw [located]
  obtain ⟨outcome, returns, -⟩ := readPacket_spec env config.protocolID currentTimestamp
    v.minConnectTokenExpireTimestamp serverAllowedPackets data (v.encryptionManager.getReceiveKey index)
    (some config.privateKey)
    ((t.findClientIndexByAddress source).map fun i => (v.clients i).replayProtection)
  rw [returns, Option.bind_eq_bind, Option.bind_some]
  have okV := finds.ok okT
  obtain ⟨reads, sameMappings⟩ := applyReading_slots env okV finds.find currentTimestamp outcome
  have read := found.trans reads
  cases outcome.packet with
  | none => exact .settles read.toAccounted
  | some packet =>
    exact read.handled (processPacketInternal_handled env config (reads.ok okV)
      (reads.running.trans (finds.running.trans running)) packet outcome.sequence reading
      (reads.find.trans finds.find) (fun away e isE => by
        rw [sameMappings]
        exact isMapping away e isE))

/-- With a callback that does not call the server, everything is accounted for. -/
theorem Handled.accounted {result : Go Server} (quiet : config.NonReentrant) (ok : s.slotTable.Ok)
    (handled : Handled env config source s result) :
    ∃ u, result = some u ∧ Accounted env source s u := by
  cases handled with
  | settles accounted => exact ⟨_, rfl, accounted⟩
  | joins i accounted => exact ⟨_, notify_eq quiet _ i true, accounted⟩
  | @leaves v i preface found =>
    have okV := preface.ok ok
    obtain ⟨-, connected, equal⟩ := findClientIndexByAddress_eq_some found
    have network := network_of_found okV found
    obtain ⟨e, mapped, -⟩ := mapped_address okV connected network
    obtain ⟨u, returns, moves, vacated, time, mappings⟩ := disconnectClientInternal_moves env quiet
      okV connected network false .clientDisconnect
    refine ⟨u, returns, preface.then ⟨moves, ?_, time, fun k foundK j other => ?_, fun away => ?_,
      mappings.congr equal⟩⟩
    · rw [disconnectClientInternal_silent env quiet mapped] at returns
      cases returns
      exact ⟨[.released i e], rfl, .of_plain (by simp [Effect.plain])⟩
    · cases found.symm.trans foundK
      exact vacated.others j other
    · rw [found] at away
      cases away

/-- **With calm callbacks the server returns**, having moved within the slot table. -/
theorem Handled.moves {result : Go Server} (calm : Calm env config) (ok : s.slotTable.Ok)
    (handled : Handled env config source s result) : ∃ u, result = some u ∧ Moves s u := by
  cases handled with
  | settles accounted => exact ⟨_, rfl, accounted.moves⟩
  | joins i accounted =>
    obtain ⟨u, returns, moves⟩ := calm.joined (ok.steps accounted.moves.table)
    exact ⟨u, returns, accounted.moves.trans moves⟩
  | leaves i preface found =>
    have okV := preface.ok ok
    obtain ⟨u, returns, moves, -⟩ := disconnectClientInternal_calm calm okV
      (findClientIndexByAddress_eq_some found).2.1 (network_of_found okV found) false
      .clientDisconnect
    exact ⟨u, returns, preface.moves.trans moves⟩

/-- **A datagram is accounted for**, and the server returns from handling it. -/
theorem readAndProcessPacket_slots (env : Platform) (quiet : config.NonReentrant)
    (ok : s.slotTable.Ok) (source : Address) (data : Bytes) (currentTimestamp reading : UInt64) :
    ∃ u, readAndProcessPacket env config s source data currentTimestamp reading = some u ∧
      Accounted env source s u :=
  (readAndProcessPacket_handled env config ok source data currentTimestamp reading).accounted quiet ok

end Server

end Netcode
