/-
**Unauthenticated datagrams are invisible.**

Two servers get the same calls and the same datagrams; the second one also gets datagrams of an
attacker who holds no key, so that no AEAD open succeeds on them. The only thing such a datagram
changes is the access time of the mapping of its (spoofed) source address. That mapping waits for
its client: its expire time was set when it was added, and never lies past the idle timeout counted
from a later access (`Waits`). So the access time has no say in whether the mapping has expired.

* `Micro.waits` — mappings without a client are anchored, along every step.
* `readAndProcessPacket_silent` — what a datagram does that opens nothing.
* `unauthenticated_datagrams_invisible` — **the two servers are indistinguishable**.
-/

import Netcode.Server.Alike
import Netcode.Model.Sample

namespace Netcode

open Trace (Lockstep)
open Relation (ReflTransGen)

namespace Server

variable {env : Platform} {config : ServerConfig} {s s' t t' : Server}

/-! ### Mappings that wait for their client -/

/-- **A mapping without a client is anchored**, and was not accessed in the future. -/
structure Waits (env : Platform) (s : Server) : Prop where
  nonneg : 0 ≤ s.time
  anchored : ∀ e, (s.encryptionManager.mapping e).address.type ≠ AddressNone →
    (s.encryptionManager.mapping e).clientIndex = none →
      (s.encryptionManager.mapping e).Anchored env ∧
        (s.encryptionManager.mapping e).lastAccessTime ≤ s.time

/-- Every mapping is as before, has no address, has a client, or is anchored anew. -/
theorem Waits.kept (waits : Waits env s) (forward : s.time ≤ s'.time)
    (each : ∀ e, s'.encryptionManager.mapping e = s.encryptionManager.mapping e ∨
      (s'.encryptionManager.mapping e).address.type = AddressNone ∨
      (s'.encryptionManager.mapping e).clientIndex ≠ none ∨
      (s'.encryptionManager.mapping e).Anchored env ∧
        (s'.encryptionManager.mapping e).lastAccessTime ≤ s'.time) : Waits env s' := by
  refine ⟨waits.nonneg.trans forward, fun e valid unbound => ?_⟩
  rcases each e with same | gone | held | anchored
  · rw [same] at valid unbound ⊢
    obtain ⟨anchored, past⟩ := waits.anchored e valid unbound
    exact ⟨anchored, past.trans forward⟩
  · exact absurd gone valid
  · exact absurd unbound held
  · exact anchored

/-- A step that leaves the table alone. -/
theorem Waits.sameTable (waits : Waits env s) (time : s'.time = s.time)
    (manager : s'.encryptionManager = s.encryptionManager) : Waits env s' :=
  waits.kept time.ge fun _ => .inl (by rw [manager])

theorem Waits.new (env : Platform) (address address2 : Address) {time : ℚ} (nonneg : 0 ≤ time) :
    Waits env (new address address2 time) :=
  ⟨nonneg, fun _ valid => absurd rfl valid⟩

theorem Waits.access (waits : Waits env s) {e : Nat}
    (fits : (s.encryptionManager.mapping e).clientIndex ≠ none ∨
      (s.encryptionManager.mapping e).address.type ≠ AddressNone) :
    Waits env { s with encryptionManager := s.encryptionManager.access e s.time } := by
  refine waits.kept le_rfl fun j => ?_
  by_cases here : j = e
  · subst here
    right
    simp only [EncryptionManager.access, EncryptionManager.set, Function.update_self]
    cases held : (s.encryptionManager.mapping j).clientIndex with
    | some i => exact .inr (.inl (by simp))
    | none =>
      obtain ⟨anchored, past⟩ := waits.anchored j (fits.resolve_left (not_not.mpr held)) held
      exact .inr (.inr ⟨anchored.access past, le_rfl⟩)
  · exact .inl (by simp [EncryptionManager.access, EncryptionManager.set, Function.update_of_ne here])

/-- A mapping that was just added expires no later than it would idle. -/
theorem added_anchored {mapping : EncryptionMapping} {token : ConnectTokenPrivate} {index : Nat}
    (nonneg : 0 ≤ s.time)
    (holds : EncryptionManager.Added mapping token.serverToClientKey token.clientToServerKey s.time
      (mappingExpireTime env s token) token.timeoutSeconds index) : mapping.Anchored env := by
  intro positive
  rw [holds.timeout] at positive ⊢
  have seconds := seconds_nonneg (Int32.le_of_lt positive)
  have isExpire : mapping.expireTime = env.float64 (s.time + token.timeoutSeconds.toInt) := by
    rw [holds.expireTime, mappingExpireTime, if_pos (Int32.le_of_lt positive)]
  rw [isExpire, holds.lastAccessTime]
  refine ⟨?_, le_rfl⟩
  calc (0 : ℚ) = env.float64 0 := env.float64_zero.symm
    _ ≤ env.float64 (s.time + token.timeoutSeconds.toInt) :=
      env.float64_mono (add_nonneg nonneg seconds)

/-- **Every atomic step keeps waiting mappings anchored.** -/
theorem Micro.waits (inv : Binding env s) (waits : Waits env s) (micro : Micro env config s s') :
    Waits env s' := by
  cases micro with
  | tick time forward => exact waits.kept forward fun _ => .inl rfl
  | clock | openRequest | respond | deny | ask | issue | change | connectLoopback |
      disconnectLoopback | start => exact waits.sameTable rfl rfl
  | openPacket source reading data clientIndex e outcome call running head located reads isOpened
      notRequest =>
    obtain ⟨clients, same, -⟩ := applyReading_eq s source reading clientIndex outcome isOpened
      notRequest
    rw [same]
    exact waits.sameTable rfl rfl
  | refresh source e stranger found =>
    exact waits.access
      (.inr (Address.Equal.type_ne_none (EncryptionManager.lookup_eq_some.mp found).2.1))
  | grant source request token reading index manager asking admits room added =>
    obtain ⟨e, mapping, writes, holds, -, -, -⟩ := inv.added asking.strangerAddress added
    refine waits.kept le_rfl fun j => ?_
    show manager.mapping j = _ ∨ _
    rw [writes]
    by_cases here : j = e
    · subst here
      rw [Function.update_self]
      exact .inr (.inr (.inr ⟨added_anchored waits.nonneg holds, holds.lastAccessTime.le⟩))
    · exact .inl (Function.update_of_ne here _ _)
  | install source e i challenge sequence call responding strangerAddress strangerID found free =>
    refine waits.kept le_rfl fun j => ?_
    rw [installClient_manager]
    by_cases here : j = e
    · subst here
      exact .inr (.inr (.inl (by simp [EncryptionManager.set])))
    · exact .inl (Function.update_of_ne here _ _)
  | send p i e note connected network mapped kind =>
    have bound := inv.boundAt connected network mapped
    exact (waits.access (.inl (by rw [bound.client]; exact Option.some_ne_none i))).sameTable rfl rfl
  | release i e connected network mapped =>
    have bound := inv.boundAt connected network mapped
    obtain ⟨-, here, others⟩ := inv.table.release
      (by rw [bound.client]; exact Option.some_ne_none i) bound.address
    refine waits.kept le_rfl fun j => ?_
    by_cases isE : j = e
    · subst isE
      exact .inr (.inl (congrArg (·.address.type) here))
    · rcases others j isE with same | ⟨dropped, -, -⟩
      · exact .inl same
      · exact .inr (.inl (congrArg (·.address.type) dropped))
  | reset gone => exact waits.kept le_rfl fun _ => .inr (.inl rfl)

/-- Slots and mappings agree, and waiting mappings are anchored, along every chain of steps. -/
theorem steps_waits (config : ServerConfig) (inv : Binding env s) (waits : Waits env s)
    (chain : ReflTransGen (Atom env config) s s') : Binding env s' ∧ Waits env s' := by
  induction chain with
  | refl => exact ⟨inv, waits⟩
  | tail _ last ih =>
    refine ⟨ih.1.atom last, ?_⟩
    cases last with
    | arrive => exact ih.2.sameTable rfl rfl
    | micro micro => exact micro.waits ih.1 ih.2

/-! ### Datagrams that open nothing -/

/-- The AEAD opens that succeeded. -/
def openings (trace : List Effect) : List Effect :=
  trace.filter fun
    | .opened _ _ => true
    | _ => false

/-- **No AEAD open succeeded** between the two states. -/
def Silent (s s' : Server) : Prop := openings s'.trace = openings s.trace

instance (s s' : Server) : Decidable (Silent s s') :=
  inferInstanceAs (Decidable (openings s'.trace = openings s.trace))

/-- What was opened shows. -/
theorem not_silent (new : List Effect) {kind : OpenKind} {call : AeadCall}
    (opens : .opened kind call ∈ new) (grown : new ++ s.trace <:+ s'.trace) : ¬ Silent s s' := by
  obtain ⟨later, whole⟩ := grown
  intro silent
  have lengths := congrArg List.length silent
  rw [openings, openings, ← whole, List.filter_append, List.filter_append, List.length_append,
    List.length_append] at lengths
  have positive : 0 < (openings new).length :=
    List.length_pos_of_mem (List.mem_filter.mpr ⟨opens, rfl⟩)
  unfold openings at positive
  omega

/-- **A datagram that opens nothing** leaves the server as it was, but for an access of the mapping
of an address without a client. -/
theorem readAndProcessPacket_silent (quiet : config.NonReentrant) (inv : Binding env s)
    {source : Address} {data : Bytes} {currentTimestamp reading : UInt64}
    (done : readAndProcessPacket env config s source data currentTimestamp reading = some s')
    (silent : Silent s s') :
    s' = s.record (.datagram currentTimestamp source data) ∨
      ∃ e, s.findClientIndexByAddress source = none ∧
        s.encryptionManager.lookup env source s.time = some e ∧
        s' = { s.record (.datagram currentTimestamp source data) with
          encryptionManager := s.encryptionManager.access e s.time } := by
  rcases readAndProcessPacket_cases quiet inv source data currentTimestamp reading rfl with
    returns | returns | ⟨u, kind, call, new, -, trace, opens, s'', returns, rest⟩
  · rw [done] at returns
    exact .inl (Option.some_inj.mp returns)
  · rw [done, Option.some_inj] at returns
    rw [returns]
    unfold locateMapping
    cases stranger : s.findClientIndexByAddress source with
    | some i =>
      rw [show (s.record _).findClientIndexByAddress source = some i from stranger]
      exact .inl rfl
    | none =>
      rw [show (s.record _).findClientIndexByAddress source = none from stranger]
      show _ ∨ _
      unfold EncryptionManager.findEncryptionMapping
      cases found : s.encryptionManager.lookup env source s.time with
      | none =>
        left
        dsimp only
        rw [show (s.record _).encryptionManager.lookup env source (s.record _).time = none
          from found]
      | some e =>
        right
        refine ⟨e, rfl, rfl, ?_⟩
        dsimp only
        rw [show (s.record _).encryptionManager.lookup env source (s.record _).time = some e
          from found]
        rfl
  · rw [done] at returns
    cases returns
    have grown := Trace.chain_grows (Atom env config) Server.trace (fun _ _ => Atom.grows)
      (atoms_of_micros rest)
    rw [trace] at grown
    refine absurd silent (not_silent (new ++ [.datagram currentTimestamp source data])
      (List.mem_append_left _ opens) ?_)
    rw [List.append_assoc]
    exact grown

/-- **The server that got the datagram stays alike the one that did not.** -/
theorem Alike.silent (alike : Alike env s t) (quiet : config.NonReentrant) (inv : Binding env t)
    (waits : Waits env t) {source : Address} {data : Bytes} {currentTimestamp reading : UInt64}
    (done : readAndProcessPacket env config t source data currentTimestamp reading = some t')
    (silent : Silent t t') : Alike env s t' := by
  obtain ⟨manager, trace, rfl, managers, shown⟩ := alike.eq_with
  rcases readAndProcessPacket_silent quiet inv done silent with rfl | ⟨e, stranger, found, rfl⟩
  · exact ⟨rfl, managers, shown⟩
  · refine ⟨rfl, ⟨managers.count, fun j => ?_⟩, shown⟩
    by_cases here : j = e
    · subst here
      have equal := (EncryptionManager.lookup_eq_some.mp found).2.1
      have unbound : (manager.mapping j).clientIndex = none := inv.stranger stranger equal
      obtain ⟨anchored, past⟩ : (manager.mapping j).Anchored env ∧
          (manager.mapping j).lastAccessTime ≤ s.time :=
        waits.anchored j (Address.Equal.type_ne_none equal) unbound
      have touched : (manager.access j s.time).mapping j =
          { manager.mapping j with lastAccessTime := s.time } := Function.update_self _ _ _
      show EncryptionMapping.Alike env _ ((manager.access j s.time).mapping j)
      rw [touched]
      exact (managers.mapping j).refresh unbound anchored past
    · show EncryptionMapping.Alike env _ ((manager.access e s.time).mapping j)
      rw [show (manager.access e s.time).mapping j = manager.mapping j from
        Function.update_of_ne here _ _]
      exact managers.mapping j

/-! ### Two runs -/

/-- Datagrams of a batch, each marked whether only the second server gets it. -/
abbrev MarkedBatch := List (Datagram × Bool)

/-- What the first server gets of a batch. -/
def common (batch : MarkedBatch) : List Datagram := (batch.filter (!·.2)).map (·.1)

/-- **The extra datagrams of a batch open nothing** when their turn comes. -/
def SilentExtras (env : Platform) (config : ServerConfig) (currentTimestamp : UInt64) :
    Server → MarkedBatch → Prop
  | _, [] => True
  | t, (d, extra) :: rest => ∀ t',
    readAndProcessPacket env config t d.source d.data currentTimestamp d.reading = some t' →
      (extra = true → Silent t t') ∧ SilentExtras env config currentTimestamp t' rest

/-- **Two runs that differ only in datagrams that open nothing**: the calls of each, newest first,
and the states they lead to. The second server gets the extra datagrams, by `ProcessPacket` or in
the batches of `Update`. -/
inductive Padded (env : Platform) (config : ServerConfig) :
    List Call → Server → List Call → Server → Prop
  | new (address address2 : Address) (time : ℚ) (nonneg : 0 ≤ time)
      (isFloat : env.IsFloat64 time) :
      Padded env config [] (new address address2 time) [] (new address address2 time)
  | call {calls calls' : List Call} {s s' t t' : Server} (padded : Padded env config calls s calls' t)
      (call : Call) (forward : Forward env s call) (done : step env config s call = some s')
      (done' : step env config t call = some t') :
      Padded env config (call :: calls) s' (call :: calls') t'
  | update {calls calls' : List Call} {s s' t t' : Server}
      (padded : Padded env config calls s calls' t) (time : ℚ) (currentTimestamp : UInt64)
      (batch : MarkedBatch) (forward : s.time ≤ time ∧ env.IsFloat64 time)
      (silent : SilentExtras env config currentTimestamp
        (({ t with time := time } : Server).record (.clock currentTimestamp)) batch)
      (done : step env config s (.update time currentTimestamp (common batch)) = some s')
      (done' : step env config t (.update time currentTimestamp (batch.map (·.1))) = some t') :
      Padded env config (.update time currentTimestamp (common batch) :: calls) s'
        (.update time currentTimestamp (batch.map (·.1)) :: calls') t'
  | extra {calls calls' : List Call} {s t t' : Server} (padded : Padded env config calls s calls' t)
      (source : Address) (data : Bytes) (currentTimestamp reading : UInt64)
      (done' : step env config t (.processPacket source data currentTimestamp reading) = some t')
      (silent : Silent t t') :
      Padded env config calls s (.processPacket source data currentTimestamp reading :: calls') t'

/-- What is kept along two runs: the invariants are those of the second one. -/
structure Shadows (env : Platform) (s t : Server) : Prop where
  alike : Alike env s t
  inv : Binding env t
  waits : Waits env t

/-- **A batch with extra datagrams.** -/
theorem shadows_batch (quiet : config.NonReentrant) (currentTimestamp : UInt64)
    (batch : MarkedBatch) : ∀ {s t : Server}, Shadows env s t →
      SilentExtras env config currentTimestamp t batch →
      Lockstep (Shadows env)
        ((common batch).foldlM (fun s d =>
          readAndProcessPacket env config s d.source d.data currentTimestamp d.reading) s)
        ((batch.map (·.1)).foldlM (fun s d =>
          readAndProcessPacket env config s d.source d.data currentTimestamp d.reading) t) := by
  induction batch with
  | nil => exact fun shadows _ => .some shadows
  | cons item rest ih =>
    obtain ⟨d, extra⟩ := item
    intro s t shadows silent
    obtain ⟨t', returns, chain⟩ := readAndProcessPacket_leads quiet shadows.inv d.source d.data
      currentTimestamp d.reading
    obtain ⟨opensNone, silentRest⟩ := silent t' returns
    obtain ⟨inv, waits⟩ := steps_waits config (shadows.inv.record _) (shadows.waits.sameTable rfl rfl)
      (atoms_of_micros chain)
    rw [List.map_cons, List.foldlM_cons, returns]
    cases extra with
    | true =>
      exact ih ⟨shadows.alike.silent quiet shadows.inv shadows.waits returns (opensNone rfl), inv,
        waits⟩ silentRest
    | false =>
      have both := readAndProcessPacket_alike quiet shadows.alike d.source d.data currentTimestamp
        d.reading
      rw [returns] at both
      rw [show common ((d, false) :: rest) = d :: common rest from rfl, List.foldlM_cons]
      generalize readAndProcessPacket env config s d.source d.data currentTimestamp d.reading =
        first at *
      cases both with
      | some alike => exact ih ⟨alike, inv, waits⟩ silentRest

theorem Alike.forward (alike : Alike env s t) {call : Call} (forward : Forward env s call) :
    Forward env t call := by
  cases call with
  | update time currentTimestamp batch => exact ⟨alike.time ▸ forward.1, forward.2⟩
  | _ => trivial

/-- A call that returned on both sides. -/
theorem Shadows.step (shadows : Shadows env s t) (quiet : config.NonReentrant) (call : Call)
    (forward : Forward env t call) (alike : Alike env s' t')
    (done : Server.step env config t call = some t') : Shadows env s' t' := by
  obtain ⟨inv, waits⟩ := steps_waits config shadows.inv shadows.waits
    (step_chain quiet shadows.inv forward done)
  exact ⟨alike, inv, waits⟩

/-- **The relation along two runs.** -/
theorem Padded.shadows (quiet : config.NonReentrant) {calls calls' : List Call}
    (padded : Padded env config calls s calls' t) : Shadows env s t := by
  induction padded with
  | new address address2 time nonneg isFloat =>
    exact ⟨.refl env _, .new env address address2 time isFloat, .new env address address2 nonneg⟩
  | call padded call forward done done' ih =>
    have both := step_alike quiet ih.alike call
    rw [done, done'] at both
    cases both with
    | some alike => exact ih.step quiet call (ih.alike.forward forward) alike done'
  | @update _ _ s _ t _ padded time currentTimestamp batch forward silent done done' ih =>
    have forward' : t.time ≤ time ∧ env.IsFloat64 time := ⟨ih.alike.time ▸ forward.1, forward.2⟩
    have start : Shadows env (({ s with time := time } : Server).record (.clock currentTimestamp))
        (({ t with time := time } : Server).record (.clock currentTimestamp)) := by
      obtain ⟨inv, waits⟩ := steps_waits config ih.inv ih.waits
        (.single (.micro (.tick t time forward'.1 forward'.2)))
      exact ⟨(ih.alike.tick time).record _, inv.record _, waits.sameTable rfl rfl⟩
    have both : Lockstep (Alike env)
        (Server.step env config s (.update time currentTimestamp (common batch)))
        (Server.step env config t (.update time currentTimestamp (batch.map (·.1)))) :=
      (shadows_batch quiet currentTimestamp batch start silent).bind
        fun _ _ shadows => sendAndCheck_alike quiet shadows.alike
    rw [done, done'] at both
    cases both with
    | some alike => exact ih.step quiet (.update _ _ _) forward' alike done'
  | @extra _ _ s t t' padded source data currentTimestamp reading done' silent ih =>
    have hidden : Alike env s (t.record (.clock currentTimestamp)) :=
      ⟨by rw [ih.alike.rest]; rfl, ih.alike.manager, ih.alike.trace⟩
    have alike := hidden.silent quiet (ih.inv.record _) (ih.waits.sameTable rfl rfl) done' silent
    exact ih.step quiet (.processPacket _ _ _ _) trivial alike done'

/-- **What both runs have in common**: everything but access times. -/
structure Indistinguishable (env : Platform) (config : ServerConfig) (s t : Server) : Prop where
  /-- Every slot, the token history, every counter and setting. -/
  state : t = { s with encryptionManager := t.encryptionManager, trace := t.trace }
  /-- Everything that was sent, delivered, queued, opened and sealed, in the same order. -/
  effects : visible t.trace = visible s.trace
  count : t.encryptionManager.numEncryptionMappings = s.encryptionManager.numEncryptionMappings
  mappings : ∀ e, ∃ last, t.encryptionManager.mapping e =
    { s.encryptionManager.mapping e with lastAccessTime := last }
  bound : ∀ i e, (s.clients i).connected = true → (s.clients i).encryptionIndex = some e →
    t.encryptionManager.mapping e = s.encryptionManager.mapping e
  lookups : ∀ address time,
    t.encryptionManager.lookup env address time = s.encryptionManager.lookup env address time
  /-- No call panics on one side only. -/
  panics : ∀ call, (step env config t call).isSome = (step env config s call).isSome

/-- **Datagrams on which no AEAD open succeeds are invisible.** -/
theorem unauthenticated_datagrams_invisible (quiet : config.NonReentrant) {calls calls' : List Call}
    (padded : Padded env config calls s calls' t) : Indistinguishable env config s t := by
  obtain ⟨alike, inv, -⟩ := padded.shadows quiet
  refine ⟨alike.rest, alike.trace, alike.manager.count, fun e => (alike.manager.mapping e).eq_with,
    fun i e connected mapped => ?_, alike.manager.lookup, fun call => ?_⟩
  · refine (alike.manager.mapping e).of_bound fun unbound => ?_
    have slot : (t.clients i) = (s.clients i) := congrFun alike.clients i
    have network : (t.clients i).loopback = false := by
      by_contra loopback
      have none := (inv.inLoopback i (by simpa using loopback)).2
      rw [slot, mapped] at none
      cases none
    have isBound := inv.boundAt (slot ▸ connected) network (slot ▸ mapped)
    obtain ⟨last, same⟩ := (alike.manager.mapping e).eq_with
    have client := isBound.client
    rw [same, unbound] at client
    cases client
  · exact (step_alike quiet alike call).isSome_eq

/-- The same calls on both sides. -/
theorem Padded.execute {calls : List Call} : ∀ {s : Server} {rest : List Call},
    Padded env config calls s calls s → Server.execute env config s rest = some s' →
      Padded env config (rest.reverse ++ calls) s' (rest.reverse ++ calls) s' := by
  intro s rest
  induction rest generalizing s calls with
  | nil =>
    rintro padded ⟨⟩
    exact padded
  | cons call rest ih =>
    intro padded done
    unfold Server.execute at done
    split_ifs at done with forward
    obtain ⟨middle, first, last⟩ := Option.bind_eq_some_iff.mp done
    have whole := ih (.call padded call forward first first) last
    rwa [List.reverse_cons, List.append_assoc]

end Server

namespace Sample

/-- A client has sent its request, and a second passes. -/
def requestFirst : List Server.Call :=
  [.start 2 challengeKey 1000, .processPacket firstAddress (request first 1040) 1001 1001,
    .update 1 1002 []]

/-- A datagram with the prefix byte of a payload packet, and zeros. -/
def garbage : Bytes := 0x15 :: List.replicate 40 0

end Sample

namespace Server

/-- A spoofed datagram moves the access time of a waiting mapping, and nothing else. -/
theorem unauthenticated_datagrams_invisible_spoofed :
    ∃ calls s calls' t, Padded samplePlatform Sample.config calls s calls' t ∧
      (t.encryptionManager.mapping 0).lastAccessTime ≠
        (s.encryptionManager.mapping 0).lastAccessTime ∧
      Indistinguishable samplePlatform Sample.config s t := by
  have spoofs : (execute samplePlatform Sample.config Sample.server Sample.requestFirst).bind
      (fun s => (step samplePlatform Sample.config s
        (.processPacket Sample.firstAddress Sample.garbage 1003 1003)).map fun t =>
          decide (Silent s t ∧ (t.encryptionManager.mapping 0).lastAccessTime ≠
            (s.encryptionManager.mapping 0).lastAccessTime)) = some true := by
    decide +kernel
  obtain ⟨s, done, after⟩ := Option.bind_eq_some_iff.mp spoofs
  obtain ⟨t, spoofed, facts⟩ := Option.map_eq_some_iff.mp after
  obtain ⟨silent, moved⟩ := of_decide_eq_true facts
  have start : Padded samplePlatform Sample.config [] Sample.server [] Sample.server :=
    .new _ _ _ le_rfl rfl
  have spoof := (start.execute done).extra Sample.firstAddress Sample.garbage 1003 1003 spoofed
    silent
  exact ⟨_, s, _, t, spoof, moved,
    unauthenticated_datagrams_invisible Sample.config_nonReentrant spoof⟩

end Server

end Netcode
