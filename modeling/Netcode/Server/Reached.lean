/-
**Slots in every state a server reaches.**

The slots are in order after any calls, with any datagrams and at any times: `Reached` puts no
condition on the times the server is told, so time may even go back.

* `Reached.ok` — the slot table is in order in every state reached, and (`AtDatagram.ok`) in every
  state in which a call looks at one of its datagrams;
* `slot_pristineness` — a free slot is as in a new server, so a new client finds nothing of the last
  one, and `Stop` leaves the tables of a new server;
* `slot_accounting` — the counter counts the connected slots, so a denial means that every slot is
  taken, and a client is installed into a free one;
* `no_duplicate_clients` — no two clients of the network share an address or a client id;
* `client_isolation` — a datagram changes at most the slot of its own address, and leaves the
  mappings of all other addresses alone.
-/

import Netcode.Server.Handling
import Netcode.Model.Sample

namespace Netcode.Server

open Relation

/-! ### Reached states -/

/-- **A state reached** from a new server by calls, newest first. -/
inductive Reached (env : Platform) (config : ServerConfig) : List Call → Server → Prop
  | new (address address2 : Address) (time : ℚ) : Reached env config [] (new address address2 time)
  | step {calls : List Call} {s s' : Server} (reached : Reached env config calls s) (call : Call)
      (done : step env config s call = some s') : Reached env config (call :: calls) s'

/-- **A state in which a datagram is looked at**: first in a call, after the reading of the clock,
or behind another datagram of its batch. -/
inductive AtDatagram (env : Platform) (config : ServerConfig) : Server → Prop
  | processPacket {calls : List Call} {s : Server} (reached : Reached env config calls s)
      (currentTimestamp : UInt64) : AtDatagram env config (s.record (.clock currentTimestamp))
  | update {calls : List Call} {s : Server} (reached : Reached env config calls s) (time : ℚ)
      (currentTimestamp : UInt64) :
      AtDatagram env config ({ s with time := time }.record (.clock currentTimestamp))
  | next {t u : Server} (before : AtDatagram env config t) (source : Address) (data : Bytes)
      (currentTimestamp reading : UInt64)
      (done : readAndProcessPacket env config t source data currentTimestamp reading = some u) :
      AtDatagram env config u

variable {env : Platform} {config : ServerConfig} {s s' t u : Server} {calls : List Call} {i : Nat}

theorem Run.reached (run : Run env config calls s) : Reached env config calls s := by
  induction run with
  | new address address2 time _ => exact .new address address2 time
  | step _ call _ done ih => exact .step ih call done

/-- A batch of datagrams moves within the slot table. -/
theorem receivePackets_moves (calm : Calm env config) (ok : s.slotTable.Ok)
    (currentTimestamp : UInt64) (batch : List Datagram) :
    ∃ s', receivePackets env config s currentTimestamp batch = some s' ∧ Moves s s' := by
  have first : Moves s (s.record (.clock currentTimestamp)) :=
    ⟨.refl, fun tables => ⟨tables.tidy, tables.stopped⟩⟩
  obtain ⟨s', returns, chain, -, -, -⟩ := Trace.foldlM_chain (fun t => t.slotTable.Ok)
    (fun _ _ => True)
    (fun s (d : Datagram) =>
      readAndProcessPacket env config s d.source d.data currentTimestamp d.reading)
    (fun t d okT => by
      obtain ⟨u, returns, moves⟩ := (readAndProcessPacket_handled env config okT d.source d.data
        currentTimestamp d.reading).moves calm okT
      exact ⟨u, returns, .single moves, okT.steps moves.table, trivial, fun _ _ => trivial⟩)
    batch (s.record (.clock currentTimestamp)) ok
  exact ⟨s', returns, first.trans (moves_of_chain chain)⟩

theorem update_moves (calm : Calm env config) (ok : s.slotTable.Ok) (time : ℚ)
    (currentTimestamp : UInt64) (batch : List Datagram) :
    ∃ s', update env config s time currentTimestamp batch = some s' ∧ Moves s s' := by
  have first : Moves s { s with time := time } :=
    ⟨.refl, fun tables => ⟨tables.tidy, tables.stopped⟩⟩
  have okFirst : ({ s with time := time } : Server).slotTable.Ok := ok
  obtain ⟨t, received, moves⟩ := receivePackets_moves calm okFirst currentTimestamp batch
  obtain ⟨u, finishes, chain⟩ :=
    (stepwise_slots calm).sendAndCheck (okFirst.steps moves.table)
  refine ⟨u, ?_, (first.trans moves).trans (moves_of_chain chain)⟩
  unfold update
  rw [received, Option.bind_eq_bind, Option.bind_some]
  exact finishes

/-- **Every call moves within the slot table**, but for the call of a nil function. -/
theorem step_slots (calm : Calm env config) (ok : s.slotTable.Ok) (call : Call) :
    (∃ s', step env config s call = some s' ∧ Moves s s') ∨
      NilLoopbackCallback config s call := by
  have others : call.datagrams = [] →
      (∀ time currentTimestamp batch, call ≠ .update time currentTimestamp batch) →
      (∃ s', step env config s call = some s' ∧ Moves s s') ∨ NilLoopbackCallback config s call := by
    intro alone notUpdate
    rcases (stepwise_slots calm).call ok call alone notUpdate with
      ⟨s', returns, chain⟩ | nil
    · exact .inl ⟨s', returns, moves_of_chain chain⟩
    · exact .inr nil
  cases call with
  | processPacket source data currentTimestamp reading =>
    have first : Moves s (s.record (.clock currentTimestamp)) :=
      ⟨.refl, fun tables => ⟨tables.tidy, tables.stopped⟩⟩
    have okFirst : (s.record (.clock currentTimestamp)).slotTable.Ok := ok
    obtain ⟨u, returns, moves⟩ := (readAndProcessPacket_handled env config okFirst source data
      currentTimestamp reading).moves calm okFirst
    exact .inl ⟨u, returns, first.trans moves⟩
  | update time currentTimestamp batch =>
    exact .inl (update_moves calm ok time currentTimestamp batch)
  | _ => exact others rfl (by simp)

/-- A call that returned moved within the slot table. -/
theorem step_moves (calm : Calm env config) (ok : s.slotTable.Ok) {call : Call}
    (done : step env config s call = some s') : Moves s s' := by
  rcases step_slots calm ok call with ⟨t, returns, moves⟩ | nil
  · cases done.symm.trans returns
    exact moves
  · rw [nil.returns done]
    exact .refl s

/-- The slots of a new server. -/
theorem new_ok (address address2 : Address) (time : ℚ) : (new address address2 time).slotTable.Ok :=
  SlotTable.ok_of_gone (Nat.zero_le _) (fun _ => rfl) (fun _ => rfl) (fun _ => rfl) (fun _ => rfl)

/-- **The slots are in order in every state reached**, and so are the other tables. -/
theorem Reached.ok (quiet : config.NonReentrant) (reached : Reached env config calls s) :
    s.slotTable.Ok ∧ s.TablesOk := by
  induction reached with
  | new address address2 time =>
    exact ⟨new_ok address address2 time, EncryptionManager.tidy_reset, fun _ => ⟨rfl, rfl⟩⟩
  | step _ call done ih =>
    have moves := step_moves (.of_quiet env quiet) ih.1 done
    exact ⟨ih.1.steps moves.table, moves.tables ih.2⟩

/-- **The slots are in order whenever a datagram is looked at.** -/
theorem AtDatagram.ok (quiet : config.NonReentrant) (looks : AtDatagram env config t) :
    t.slotTable.Ok := by
  induction looks with
  | processPacket reached => exact (reached.ok quiet).1
  | update reached => exact (reached.ok quiet).1
  | next _ source data currentTimestamp reading done ih =>
    obtain ⟨u, returns, accounted⟩ := readAndProcessPacket_slots env quiet ih source data
      currentTimestamp reading
    cases done.symm.trans returns
    exact ih.steps accounted.moves.table

/-! ### Sample states -/

/-- One client has connected, to the first of two slots. -/
theorem connectFirst_reached : ∃ calls s, Reached samplePlatform Sample.config calls s ∧
    (s.clients 0).connected = true ∧ (s.clients 0).address = Sample.firstAddress ∧
    (s.clients 1).connected = false := by
  have connects : (execute samplePlatform Sample.config Sample.server Sample.connectFirst).map
      (fun s => ((s.clients 0).connected, (s.clients 0).address, (s.clients 1).connected)) =
        some (true, Sample.firstAddress, false) := by
    decide +kernel
  obtain ⟨s, done, slots⟩ := Option.map_eq_some_iff.mp connects
  simp only [Prod.mk.injEq] at slots
  exact ⟨_, s, (Sample.server_run.execute done).reached, slots⟩

/-- Two clients have connected. -/
theorem connectBoth_reached : ∃ calls s, Reached samplePlatform Sample.config calls s ∧
    s.numConnectedClients = 2 ∧
    ((s.clients 0).connected = true ∧ (s.clients 0).loopback = false) ∧
    (s.clients 1).connected = true ∧ (s.clients 1).loopback = false := by
  have connects : (execute samplePlatform Sample.config Sample.server Sample.connectBoth).map
      (fun s => (s.numConnectedClients, ((s.clients 0).connected, (s.clients 0).loopback),
        (s.clients 1).connected, (s.clients 1).loopback)) =
        some (2, (true, false), true, false) := by
    decide +kernel
  obtain ⟨s, done, slots⟩ := Option.map_eq_some_iff.mp connects
  simp only [Prod.mk.injEq] at slots
  exact ⟨_, s, (Sample.server_run.execute done).reached, slots⟩

/-! ### A free slot is as in a new server -/

/-- `ConnectLoopbackClient` fills the slot. -/
theorem connectLoopbackClient_eq (quiet : config.NonReentrant) {clientIndex : Int}
    (clientID : UInt64) (userData : Bytes) (valid : s.validSlot clientIndex = some i)
    (free : (s.clients i).connected = false) :
    connectLoopbackClient config s clientIndex clientID userData =
      some { s.setClient i ((s.clients i).fillLoopback clientID userData s.time) with
        numConnectedClients := s.numConnectedClients + 1 } := by
  rw [connectLoopbackClient, valid]
  dsimp only
  rw [if_neg (by simp [free]), notify_eq quiet]
  rfl

/-- **Nothing is left of an earlier client.** A slot that is not connected is as in a new server, but
for the timeout and the reason of the last client; so is the slot a new client gets, on the network
or on loopback, but for what the connection writes; and after `Stop` so are all slots, the mapping
table and the token history. -/
theorem slot_pristineness (quiet : config.NonReentrant) :
    (∀ calls s, Reached env config calls s →
      (∀ i, (s.clients i).connected = false → (s.clients i).Pristine) ∧
      (∀ clientIndex clientID userData i, s.validSlot clientIndex = some i →
        (s.clients i).connected = false →
        ∃ s', connectLoopbackClient config s clientIndex clientID userData = some s' ∧
          s'.clients i = { ClientSlot.new.fillLoopback clientID userData s.time with
            timeout := (s.clients i).timeout }) ∧
      ∃ s', stop env config s = some s' ∧ (∀ i, (s'.clients i).Pristine) ∧
        s'.encryptionManager = .reset ∧ s'.connectTokenEntries = connectTokenEntriesReset) ∧
    ∀ t, AtDatagram env config t → ∀ source data currentTimestamp reading u,
      readAndProcessPacket env config t source data currentTimestamp reading = some u →
      ∃ new, u.trace = new ++ t.trace ∧
        ∀ i address e sendKey receiveKey, .installed i address e sendKey receiveKey ∈ new →
          ∃ clientID timeout userData sequence, u.clients i =
            { ClientSlot.new.fill address clientID e timeout userData t.time with
              sequence := sequence } := by
  refine ⟨fun calls s reached => ?_, fun t looks source data currentTimestamp reading u done => ?_⟩
  · obtain ⟨ok, tables⟩ := reached.ok quiet
    refine ⟨ok.vacant, fun clientIndex clientID userData i valid free => ?_, ?_⟩
    · refine ⟨_, connectLoopbackClient_eq quiet clientID userData valid free, ?_⟩
      show Function.update s.clients i ((s.clients i).fillLoopback clientID userData s.time) i = _
      rw [Function.update_self, show s.clients i = _ from ok.vacant i free]
      rfl
    · obtain ⟨s', returns, chain, idle, -⟩ := (stepwise_slots (.of_quiet env quiet)).stop ok
      have moves := moves_of_chain chain
      have ok' := ok.steps moves.table
      refine ⟨s', returns, fun i => ok'.vacant i ?_, (moves.tables tables).stopped idle⟩
      by_contra connected
      rw [running_of_connected ok' (Bool.eq_true_of_not_eq_false connected)] at idle
      cases idle
  · obtain ⟨u', returns, accounted⟩ := readAndProcessPacket_slots env quiet (looks.ok quiet) source
      data currentTimestamp reading
    cases done.symm.trans returns
    obtain ⟨new, trace, -, installed⟩ := accounted.shows
    exact ⟨new, trace, fun i address e sendKey receiveKey member =>
      (installed i address e sendKey receiveKey member).2⟩

/-- A server with a client in its first slot: the second slot is free, and `Stop` empties both. -/
theorem slot_pristineness_connected :
    ∃ s s', (s.clients 0).connected = true ∧ (s.clients 1).Pristine ∧
      stop samplePlatform Sample.config s = some s' ∧ (s'.clients 0).Pristine := by
  obtain ⟨calls, s, reached, connected, -, free⟩ := connectFirst_reached
  obtain ⟨vacant, -, s', stops, pristine, -⟩ :=
    (slot_pristineness Sample.config_nonReentrant).1 calls s reached
  exact ⟨s, s', connected, vacant 1 free, stops, pristine 0⟩

/-! ### The counter and the slots -/

/-- **The counter counts the connected slots**, which are all in use. So a denial is sent only when
every slot is taken; and handling a datagram always returns, so that a free slot is found where a
client is installed, and that slot was not taken. -/
theorem slot_accounting (quiet : config.NonReentrant) :
    (∀ calls s, Reached env config calls s →
      s.numConnectedClients = connectedCount s.clients ∧
      ∀ i, (s.clients i).connected = true → i < s.maxClients) ∧
    ∀ t, AtDatagram env config t → ∀ source data currentTimestamp reading,
      ∃ u new, readAndProcessPacket env config t source data currentTimestamp reading = some u ∧
        u.trace = new ++ t.trace ∧
        (∀ sequence call, .sealed (.global .connectionDenied sequence) call ∈ new →
          ∀ i < t.maxClients, (t.clients i).connected = true) ∧
        ∀ i address e sendKey receiveKey, .installed i address e sendKey receiveKey ∈ new →
          t.findFreeClientIndex = some i ∧ i < t.maxClients ∧ (t.clients i).connected = false := by
  refine ⟨fun calls s reached => ?_, fun t looks source data currentTimestamp reading => ?_⟩
  · have ok := (reached.ok quiet).1
    exact ⟨ok.count, ok.inUse⟩
  · obtain ⟨u, returns, accounted⟩ := readAndProcessPacket_slots env quiet (looks.ok quiet) source
      data currentTimestamp reading
    obtain ⟨new, trace, denied, installed⟩ := accounted.shows
    refine ⟨u, new, returns, trace, denied, fun i address e sendKey receiveKey member => ?_⟩
    have free := (installed i address e sendKey receiveKey member).1
    exact ⟨free, findFreeClientIndex_eq_some free⟩

/-- With two clients the counter says two, and whatever datagram arrives is handled. -/
theorem slot_accounting_connected :
    ∃ s : Server, s.numConnectedClients = 2 ∧ s.numConnectedClients = connectedCount s.clients ∧
      ∀ source data currentTimestamp reading, ∃ u,
        readAndProcessPacket samplePlatform Sample.config (s.record (.clock currentTimestamp)) source
          data currentTimestamp reading = some u := by
  obtain ⟨calls, s, reached, count, -⟩ := connectBoth_reached
  refine ⟨s, count, ((slot_accounting Sample.config_nonReentrant).1 calls s reached).1,
    fun source data currentTimestamp reading => ?_⟩
  obtain ⟨u, -, returns, -⟩ := (slot_accounting Sample.config_nonReentrant).2 _
    (.processPacket reached currentTimestamp) source data currentTimestamp reading
  exact ⟨u, returns⟩

/-! ### No duplicate clients -/

/-- **No two clients of the network have equal addresses or the same client id.** -/
theorem no_duplicate_clients (quiet : config.NonReentrant) (reached : Reached env config calls s)
    (i j : Nat) (distinct : i ≠ j)
    (connected : (s.clients i).connected = true ∧ (s.clients i).loopback = false)
    (connected' : (s.clients j).connected = true ∧ (s.clients j).loopback = false) :
    (s.clients i).address.Equal (s.clients j).address = false ∧
      (s.clients i).clientID ≠ (s.clients j).clientID := by
  have ok := (reached.ok quiet).1
  refine ⟨?_, fun same => distinct ?_⟩
  · by_contra equal
    exact distinct (ok.addresses i j connected.1 connected'.1 (Bool.eq_true_of_not_eq_false equal))
  · exact ok.identities i j connected.1 connected.2 connected'.1 connected'.2 same

/-- Two clients that have connected. -/
theorem no_duplicate_clients_connected :
    ∃ s : Server, (s.clients 0).connected = true ∧ (s.clients 1).connected = true ∧
      (s.clients 0).address.Equal (s.clients 1).address = false ∧
      (s.clients 0).clientID ≠ (s.clients 1).clientID := by
  obtain ⟨calls, s, reached, -, onNetwork, onNetwork'⟩ := connectBoth_reached
  exact ⟨s, onNetwork.1, onNetwork'.1, no_duplicate_clients Sample.config_nonReentrant reached 0 1
    (by decide) onNetwork onNetwork'⟩

/-! ### Isolation -/

/-- **A datagram touches one client.** It changes at most one slot: that of the client of the
network connected at its address, or a free one that a client takes from there. Every live mapping of
another address stays as it is, and every other address finds the mapping it found before. -/
theorem client_isolation (quiet : config.NonReentrant) (reached : Reached env config calls s)
    (source : Address) (data : Bytes) (currentTimestamp reading : UInt64) :
    ∃ s', processPacket env config s source data currentTimestamp reading = some s' ∧
      (∃ i, (∀ j, j ≠ i → s'.clients j = s.clients j) ∧
        (s'.clients i = s.clients i ∨
          (s.clients i).connected = true ∧ (s.clients i).loopback = false ∧
            (s.clients i).address.Equal source = true ∨
          (s.clients i).connected = false ∧ (s'.clients i).connected = true ∧
            (s'.clients i).loopback = false ∧ (s'.clients i).address = source)) ∧
      (∀ j, (s.clients j).loopback = true → s'.clients j = s.clients j) ∧
      (∀ e, (s.encryptionManager.mapping e).address.type ≠ AddressNone →
        (s.encryptionManager.mapping e).address.Equal source = false →
        (s.encryptionManager.mapping e).expired env s.time = false →
        s'.encryptionManager.mapping e = s.encryptionManager.mapping e) ∧
      ∀ address, address.Equal source = false →
        (s'.encryptionManager.findEncryptionMapping env address s'.time).1 =
          (s.encryptionManager.findEncryptionMapping env address s.time).1 := by
  obtain ⟨ok, tables⟩ := reached.ok quiet
  have okT : (s.record (.clock currentTimestamp)).slotTable.Ok := ok
  obtain ⟨s', returns, accounted⟩ := readAndProcessPacket_slots env quiet okT source data
    currentTimestamp reading
  refine ⟨s', returns, ?_, fun j loopback => ?_, fun e valid apart live =>
    accounted.mappings.kept e valid apart (.inl live), fun address apart => ?_⟩
  · cases found : (s.record (.clock currentTimestamp)).findClientIndexByAddress source with
    | some i =>
      obtain ⟨-, connected, equal⟩ := findClientIndexByAddress_eq_some found
      exact ⟨i, accounted.present i found,
        .inr (.inl ⟨connected, network_of_found okT found, equal⟩)⟩
    | none =>
      rcases accounted.absent found with same | ⟨i, free, taken, network, isSource, others⟩
      · exact ⟨0, fun j _ => congrFun same j, .inl (congrFun same 0)⟩
      · exact ⟨i, others, .inr (.inr ⟨free, taken, network, isSource⟩)⟩
  · cases found : (s.record (.clock currentTimestamp)).findClientIndexByAddress source with
    | some i =>
      refine accounted.present i found j fun isI => ?_
      rw [isI, show (s.clients i).loopback = false from network_of_found okT found] at loopback
      cases loopback
    | none =>
      rcases accounted.absent found with same | ⟨i, free, -, -, -, others⟩
      · exact congrFun same j
      · refine others j fun isI => ?_
        have free : (s.clients i).connected = false := free
        rw [isI, show s.clients i = _ from ok.vacant i free] at loopback
        cases loopback
  · rw [EncryptionManager.findEncryptionMapping_fst, EncryptionManager.findEncryptionMapping_fst,
      accounted.time]
    exact accounted.mappings.lookup tables.tidy apart

/-- A datagram from elsewhere leaves a connected client alone. -/
theorem client_isolation_connected :
    ∃ s s', (s.clients 0).connected = true ∧
      processPacket samplePlatform Sample.config s Sample.secondAddress
        (Sample.request Sample.second 1040) 1001 1001 = some s' ∧
      s'.clients 0 = s.clients 0 ∧
      (s'.encryptionManager.findEncryptionMapping samplePlatform Sample.firstAddress s'.time).1 =
        (s.encryptionManager.findEncryptionMapping samplePlatform Sample.firstAddress s.time).1 := by
  obtain ⟨calls, s, reached, connected, address, -⟩ := connectFirst_reached
  obtain ⟨s', returns, ⟨i, others, changed⟩, -, -, finds⟩ :=
    client_isolation Sample.config_nonReentrant reached Sample.secondAddress
      (Sample.request Sample.second 1040) 1001 1001
  refine ⟨s, s', connected, returns, ?_, finds Sample.firstAddress (by decide)⟩
  by_cases here : 0 = i
  · subst here
    rcases changed with same | ⟨-, -, equal⟩ | ⟨free, -⟩
    · exact same
    · rw [address] at equal
      exact absurd equal (by decide)
    · rw [connected] at free
      cases free
  · exact others 0 here

end Netcode.Server
