/-
**Timeouts, to the point.**

`Update` ends with a pass over the slots that lets go of the clients that are overdue. By the machine
of one client, all that happens in between counts for nothing.

* `Line.Deaf` — a datagram that is nothing to the client;
* `silent_client_times_out` — **a client that is not heard from is let go by the first `Update` at or
  after its deadline**, and not before, whatever datagrams arrive under its address that do not open.
-/

import Netcode.Server.Independence

namespace Netcode

/-- The slot was silent for its timeout. -/
def ClientSlot.Overdue (env : Platform) (time : ℚ) (slot : ClientSlot) : Prop :=
  0 < slot.timeout ∧ env.float64 (slot.lastPacketReceiveTime + slot.timeout.toInt) ≤ time

instance (env : Platform) (time : ℚ) (slot : ClientSlot) : Decidable (slot.Overdue env time) :=
  inferInstanceAs (Decidable (_ ∧ _))

namespace Server

/-- The calls that end the connection of the client in slot `i`. -/
def Call.Ends (i : Nat) : Call → Prop
  | .disconnectClient clientIndex => clientIndex = i
  | .disconnectAllClients | .stop => True
  | .start maxClients _ _ => ¬ (maxClients ≤ 0 ∨ (MaxClients : Int) < maxClients)
  | _ => False

end Server

/-! ### A silent client -/

namespace Line

variable {env : Platform} {protocolID : UInt64} {l l' l'' : Line} {i : Nat}

theorem heard_iff {time : ℚ} : Heard env { l with time := time } ↔ ¬ l.slot.Overdue env time := by
  simp only [Heard, ClientSlot.Overdue, not_and, not_le]

/-- **The datagram is nothing to the client**: it does not open under its key, or is a replay. -/
def Deaf (env : Platform) (protocolID : UInt64) (l : Line) (data : Bytes) : Prop :=
  ∃ outcome, readPacket env protocolID 0 0 Server.serverAllowedPackets data (some l.receiveKey) none
    (some l.slot.replayProtection) = some outcome ∧ outcome.opened = none

/-- Nothing was heard from the client. -/
structure Waits (l l' : Line) : Prop where
  receiveKey : l'.receiveKey = l.receiveKey
  address : l'.slot.address = l.slot.address
  window : l'.slot.replayProtection = l.slot.replayProtection
  timeout : l'.slot.timeout = l.slot.timeout
  lastPacketReceiveTime : l'.slot.lastPacketReceiveTime = l.slot.lastPacketReceiveTime

theorem Waits.refl (l : Line) : Waits l l := ⟨rfl, rfl, rfl, rfl, rfl⟩

theorem Waits.trans (first : Waits l l') (second : Waits l' l'') : Waits l l'' :=
  ⟨second.receiveKey.trans first.receiveKey, second.address.trans first.address,
    second.window.trans first.window, second.timeout.trans first.timeout,
    second.lastPacketReceiveTime.trans first.lastPacketReceiveTime⟩

/-- What is nothing to the client stays nothing to it. -/
theorem Waits.deaf (waits : Waits l l') {data : Bytes} (deaf : l.Deaf env protocolID data) :
    l'.Deaf env protocolID data := by
  unfold Deaf
  rw [waits.receiveKey, waits.window]
  exact deaf

theorem Waits.overdue (waits : Waits l l') (time : ℚ) :
    l'.slot.Overdue env time ↔ l.slot.Overdue env time := by
  unfold ClientSlot.Overdue
  rw [waits.timeout, waits.lastPacketReceiveTime]

theorem read_deaf {data : Bytes} (deaf : l.Deaf env protocolID data) :
    l.read env protocolID data = some l := by
  obtain ⟨outcome, reads, unopened⟩ := deaf
  obtain ⟨outcome', reads', spec⟩ := readPacket_spec env protocolID 0 0 Server.serverAllowedPackets data
    (some l.receiveKey) none (some l.slot.replayProtection)
  cases reads.symm.trans reads'
  unfold read
  rw [reads]
  cases spec with
  | ignored => rfl
  | request | encrypted => cases unopened

theorem datagram_deaf {source : Address} {data : Bytes}
    (silent : l.slot.address.Equal source = true → l.Deaf env protocolID data) :
    l.datagram env protocolID source data = some l := by
  unfold datagram
  split_ifs with fromPeer
  · exact read_deaf (silent fromPeer)
  · rfl

/-- A batch that is nothing to the client. -/
theorem batch_deaf (batch : List Server.Datagram) (silent : ∀ d ∈ batch,
    l.slot.address.Equal d.source = true → l.Deaf env protocolID d.data) :
    batch.foldlM (fun l d => l.datagram env protocolID d.source d.data) l = some l := by
  induction batch with
  | nil => rfl
  | cons d batch ih =>
    rw [List.foldlM_cons, datagram_deaf (silent d List.mem_cons_self)]
    exact ih fun other member => silent other (List.mem_cons_of_mem _ member)

theorem waits_write (p : Packet) (l : Line) : Waits l (l.write env protocolID p) :=
  ⟨rfl, rfl, rfl, rfl, rfl⟩

theorem waits_upkeep (time : ℚ) (i : Nat) (l : Line) :
    Waits l (({ l with time := time } : Line).upkeep env protocolID i) := by
  unfold upkeep
  split_ifs <;> exact ⟨rfl, rfl, rfl, rfl, rfl⟩

theorem waits_submit (i : Nat) (payload : Bytes) (l : Line) :
    Waits l (l.submit env protocolID i payload) := by
  unfold submit
  split_ifs
  · exact waits_write _ l
  · exact (waits_write _ l).trans (waits_write _ _)

/-- **An `Update` that brings nothing from the client** checks its deadline. -/
theorem update_silent {time : ℚ} {currentTimestamp : UInt64} {batch : List Server.Datagram}
    (silent : ∀ d ∈ batch, l.slot.address.Equal d.source = true → l.Deaf env protocolID d.data) :
    l.step env protocolID i (.update time currentTimestamp batch) =
      if l.slot.Overdue env time then none
      else some (({ l with time := time } : Line).upkeep env protocolID i) := by
  have reads := @batch_deaf env protocolID { l with time := time } batch silent
  split_ifs with overdue
  · rw [step, reads]
    refine if_neg fun heard => ?_
    have waits := @waits_upkeep env protocolID time i l
    have isTime : (({ l with time := time } : Line).upkeep env protocolID i).time = time := by
      unfold upkeep
      split_ifs <;> rfl
    have late := (waits.overdue time).mpr overdue
    have inTime := heard late.1
    rw [isTime] at inTime
    exact absurd late.2 (not_le.mpr inTime)
  · exact step_update reads (heard_iff.mpr overdue)

/-- **A call that brings nothing from the client** leaves it waiting. -/
theorem step_silent {call : Server.Call} (spares : ¬ call.Ends i)
    (silent : ∀ d ∈ call.datagrams, l.slot.address.Equal d.source = true → l.Deaf env protocolID d.data)
    (early : ∀ time currentTimestamp batch, call = .update time currentTimestamp batch →
      ¬ l.slot.Overdue env time) :
    ∃ l', l.step env protocolID i call = some l' ∧ Waits l l' := by
  cases call with
  | update time currentTimestamp batch =>
    exact ⟨_, (update_silent silent).trans (if_neg (early time currentTimestamp batch rfl)),
      waits_upkeep time i l⟩
  | processPacket source data currentTimestamp reading =>
    exact ⟨l, datagram_deaf (silent ⟨source, data, reading⟩ List.mem_cons_self), .refl l⟩
  | sendPacket clientIndex payload =>
    simp only [step]
    split_ifs
    · exact ⟨_, rfl, waits_submit i payload l⟩
    · exact ⟨l, rfl, .refl l⟩
  | receivePacket clientIndex =>
    refine ⟨_, rfl, ?_⟩
    split_ifs
    · exact ⟨rfl, rfl, rfl, rfl, rfl⟩
    · exact .refl l
  | disconnectClient clientIndex => exact ⟨l, if_neg spares, .refl l⟩
  | disconnectAllClients | stop => exact absurd trivial spares
  | start maxClients challengeKey reading => exact ⟨l, if_pos (not_not.mp spares), .refl l⟩
  | connectLoopbackClient | disconnectLoopbackClient | processLoopbackPacket =>
    exact ⟨l, rfl, .refl l⟩

/-- **So do the calls of a run.** -/
theorem run_silent (calls : List Server.Call) : ∀ {l : Line}, (∀ call ∈ calls, ¬ call.Ends i) →
    (∀ call ∈ calls, ∀ d ∈ call.datagrams, l.slot.address.Equal d.source = true →
      l.Deaf env protocolID d.data) →
    (∀ time currentTimestamp batch, .update time currentTimestamp batch ∈ calls →
      ¬ l.slot.Overdue env time) →
    ∃ l', calls.foldlM (Line.step env protocolID i) l = some l' ∧ Waits l l' := by
  induction calls with
  | nil => exact fun _ _ _ => ⟨_, rfl, .refl _⟩
  | cons call calls ih =>
    intro l spares silent early
    obtain ⟨middle, first, waits⟩ := step_silent (spares call List.mem_cons_self)
      (silent call List.mem_cons_self)
      (fun time currentTimestamp batch same => early time currentTimestamp batch
        (same ▸ List.mem_cons_self))
    obtain ⟨l', rest, waits'⟩ := ih
      (fun other member => spares other (List.mem_cons_of_mem _ member))
      (fun other member d isDatagram fromPeer => waits.deaf
        (silent other (List.mem_cons_of_mem _ member) d isDatagram (waits.address ▸ fromPeer)))
      (fun time currentTimestamp batch member late => early time currentTimestamp batch
        (List.mem_cons_of_mem _ member) ((waits.overdue time).mp late))
    refine ⟨l', ?_, waits.trans waits'⟩
    rw [List.foldlM_cons, first]
    exact rest

end Line

namespace Server

variable {env : Platform} {config : ServerConfig} {s s' t : Server} {i e : Nat}

/-- **A silent client times out**, exactly at its deadline. Take a client of the network in any state of
the server, and calls that do not end its connection and bring nothing that opens under its key,
whatever arrives under its address. Before the deadline the client stays connected, and it is heard
from no later than it was. The next `Update` that brings nothing from the client keeps it if the
deadline has not come, and releases its slot if it has. -/
theorem silent_client_times_out (quiet : config.NonReentrant) {before calls : List Call}
    (reached : Reached env config before s) (connected : (s.clients i).connected = true)
    (network : (s.clients i).loopback = false) (mapped : (s.clients i).encryptionIndex = some e)
    (spares : ∀ call ∈ calls, ¬ call.Ends i)
    (silent : ∀ call ∈ calls, ∀ d ∈ call.datagrams, (s.clients i).address.Equal d.source = true →
      (s.line i e).Deaf env config.protocolID d.data)
    (early : ∀ time currentTimestamp batch, .update time currentTimestamp batch ∈ calls →
      ¬ (s.clients i).Overdue env time)
    (done : calls.foldlM (step env config) s = some t) {time : ℚ} {currentTimestamp : UInt64}
    {batch : List Datagram} (stillSilent : ∀ d ∈ batch, (s.clients i).address.Equal d.source = true →
      (s.line i e).Deaf env config.protocolID d.data)
    (last : step env config t (.update time currentTimestamp batch) = some s') :
    (t.clients i).connected = true ∧
    (t.clients i).lastPacketReceiveTime = (s.clients i).lastPacketReceiveTime ∧
    (¬ (s.clients i).Overdue env time → (s'.clients i).connected = true ∧
      (s'.clients i).lastPacketReceiveTime = (s.clients i).lastPacketReceiveTime) ∧
    ((s.clients i).Overdue env time → ∃ new, s'.trace = new ++ t.trace ∧ .released i e ∈ new) := by
  have serves : Serves s i e := ⟨(reached.ok quiet).1, connected, network, mapped⟩
  obtain ⟨l, runs, waits⟩ := @Line.run_silent env config.protocolID i calls (s.line i e) spares silent
    early
  obtain ⟨servesT, rfl⟩ := serves.run quiet calls done runs
  have steps := @Line.update_silent env config.protocolID (t.line i e) i time currentTimestamp batch
    fun d member fromPeer => waits.deaf (stillSilent d member (waits.address ▸ fromPeer))
  have overdue := @Line.Waits.overdue env _ _ waits time
  have keepsUp := servesT.keepsUp quiet last
  refine ⟨servesT.connected, waits.lastPacketReceiveTime, fun timely => ?_, fun late => ?_⟩
  · obtain ⟨servesS, same⟩ := keepsUp.kept (steps.trans (if_neg fun late => timely (overdue.mp late)))
    refine ⟨servesS.connected, Eq.trans ?_ waits.lastPacketReceiveTime⟩
    have slot := congrArg Line.slot same
    rw [show s'.clients i = _ from slot]
    exact (Line.waits_upkeep time i (t.line i e)).lastPacketReceiveTime
  · exact keepsUp.released (steps.trans (if_pos (overdue.mpr late)))

/-- A client with a timeout of ten seconds that connected at time 0 is still there at time 5, and is let
go at time 10, though datagrams arrive under its address. -/
theorem silent_client_times_out_ten : ∃ s t s' : Server,
    step samplePlatform Sample.config s (.update 5 1005 [⟨Sample.firstAddress, [1, 2, 3], 1005⟩]) =
        some t ∧ (t.clients 0).connected = true ∧
      step samplePlatform Sample.config t (.update 10 1010 [⟨Sample.firstAddress, [1, 2, 3], 1010⟩]) =
        some s' ∧ ∃ new, s'.trace = new ++ t.trace ∧ .released 0 0 ∈ new := by
  have runs : (execute samplePlatform Sample.config Sample.server Sample.connectFirst).bind (fun s =>
      ([.update 5 1005 [⟨Sample.firstAddress, [1, 2, 3], 1005⟩]].foldlM
        (step samplePlatform Sample.config) s).bind fun t =>
      (step samplePlatform Sample.config t
        (.update 10 1010 [⟨Sample.firstAddress, [1, 2, 3], 1010⟩])).map fun _ => decide
        (((s.clients 0).connected = true ∧ (s.clients 0).loopback = false ∧
          (s.clients 0).encryptionIndex = some 0) ∧
        (readPacket samplePlatform Sample.config.protocolID 0 0 serverAllowedPackets [1, 2, 3]
          (some (s.line 0 0).receiveKey) none (some (s.line 0 0).slot.replayProtection)).map
            ReadOutcome.opened = some none ∧
        ¬ (s.clients 0).Overdue samplePlatform 5 ∧ (s.clients 0).Overdue samplePlatform 10)) =
      some true := by
    decide +kernel
  obtain ⟨s, done, rest⟩ := Option.bind_eq_some_iff.mp runs
  obtain ⟨t, updates, rest⟩ := Option.bind_eq_some_iff.mp rest
  obtain ⟨s', ends, facts⟩ := Option.map_eq_some_iff.mp rest
  obtain ⟨⟨connected, network, mapped⟩, unread, early, late⟩ := of_decide_eq_true facts
  have deaf : (s.line 0 0).Deaf samplePlatform Sample.config.protocolID [1, 2, 3] :=
    Option.map_eq_some_iff.mp unread
  obtain ⟨stays, -, -, leaves⟩ := silent_client_times_out Sample.config_nonReentrant
    (Sample.server_run.execute done).reached connected network mapped
    (fun call member => by cases List.mem_singleton.mp member; exact id)
    (fun call member d isDatagram _ => by
      cases List.mem_singleton.mp member
      cases List.mem_singleton.mp isDatagram
      exact deaf)
    (fun time currentTimestamp batch member => by
      cases List.mem_singleton.mp member
      exact early)
    updates (fun d isDatagram _ => by cases List.mem_singleton.mp isDatagram; exact deaf) ends
  refine ⟨s, t, s', ?_, stays, ends, leaves late⟩
  obtain ⟨u, first, last⟩ := Option.bind_eq_some_iff.mp updates
  cases last
  exact first

end Server

end Netcode
