/-
**Calls and the operations on one slot.**

`DisconnectAllClients`, `Stop`, `Start`, the keep-alives and the timeouts of `Update` are loops over
the slots, and the other calls check a slot number and work on one slot. What they do is a chain of
the steps that the operations on one slot are made of, whatever is counted as a step and whatever
invariant the operations rest on: `Stepwise` says what is needed of the two, and the calls follow.

* `Traffic.call` — the calls that pass a payload, for which less is needed;
* `Stepwise.forEachSlot` — **a loop over the slots** whose body is a chain of steps;
* `Stepwise.stop` — `Stop` returns, with every client gone;
* `Stepwise.restart`, `Stepwise.sendAndCheck` — `Start`, and the end of `Update`;
* `Stepwise.call` — **every call without datagrams**, but for `Update` and one panic: `SendPacket`
  to a loopback client without a callback calls a nil function.
-/

import Netcode.Lib.Trace
import Netcode.Server.Atom

namespace Netcode.Server

open Relation Trace

/-- What a disconnection leaves of everything but the slot. -/
structure Vacated (s s' : Server) (i : Nat) : Prop where
  maxClients : s'.maxClients = s.maxClients
  running : s'.running = s.running
  gone : (s'.clients i).connected = false
  others : ∀ j, j ≠ i → s'.clients j = s.clients j

/-- No client comes or goes. -/
structure Undisturbed (s s' : Server) : Prop where
  maxClients : s'.maxClients = s.maxClients
  running : s'.running = s.running
  slots : ∀ j, (s'.clients j).connected = (s.clients j).connected ∧
    (s'.clients j).loopback = (s.clients j).loopback

theorem Undisturbed.refl (s : Server) : Undisturbed s s := ⟨rfl, rfl, fun _ => ⟨rfl, rfl⟩⟩

/-- The client in a slot is gone, and no other client comes or goes. -/
structure Left (s s' : Server) (i : Nat) : Prop where
  maxClients : s'.maxClients = s.maxClients
  running : s'.running = s.running
  gone : (s'.clients i).connected = false
  others : ∀ j, j ≠ i → (s'.clients j).connected = (s.clients j).connected ∧
    (s'.clients j).loopback = (s.clients j).loopback

theorem Vacated.left {s s' : Server} {i : Nat} (vacated : Vacated s s' i) : Left s s' i :=
  ⟨vacated.maxClients, vacated.running, vacated.gone, fun j other => by
    rw [vacated.others j other]
    exact ⟨rfl, rfl⟩⟩

/-- A client that is still there was there before. -/
theorem Left.stays {s s' : Server} {i k : Nat} (left : Left s s' i)
    (connected : (s'.clients k).connected = true) :
    (s.clients k).connected = true ∧ (s'.clients k).loopback = (s.clients k).loopback := by
  have other : k ≠ i := by
    rintro rfl
    rw [left.gone] at connected
    cases connected
  obtain ⟨same, sameLoopback⟩ := left.others k other
  exact ⟨same.symm.trans connected, sameLoopback⟩

/-- `ReceivePacket` for a connected slot. -/
def deliverPacket (s : Server) (i : Nat) : Server :=
  let (queue, packet, sequence) := (s.clients i).packetQueue.pop
  let s := s.setClient i { s.clients i with packetQueue := queue }
  match packet with
  | some payload => s.record (.delivered i payload sequence)
  | none => s

/-- The function returns, through a chain of steps. -/
def Follows (step : Server → Server → Prop) (s : Server) (result : Go Server) : Prop :=
  ∃ s', result = some s' ∧ ReflTransGen step s s'

/-- **A notion of step, with an invariant, that the traffic of one slot follows.** -/
structure Traffic (env : Platform) (config : ServerConfig) (step : Server → Server → Prop)
    (holds : Server → Prop) : Prop where
  submit : ∀ {s i}, holds s → (s.clients i).connected = true → (s.clients i).loopback = false →
    ∀ payload, Follows step s (sendPayload env config s i payload)
  quietLoopback : ∀ callback, config.sendLoopbackPacketCallback = some callback →
    ∀ slot payload sequence s, callback slot payload sequence s = some s
  sendLoopback : ∀ {s i}, holds s → (s.clients i).connected = true →
    (s.clients i).loopback = true → ∀ payload,
    ReflTransGen step s ((s.record (.sentLoopback i payload (s.clients i).sequence)).setClient i
      { s.clients i with sequence := (s.clients i).sequence + 1, lastPacketSendTime := s.time })
  deliver : ∀ {s i}, holds s → (s.clients i).connected = true →
    ReflTransGen step s (s.deliverPacket i)
  hearLoopback : ∀ {s i}, holds s → (s.clients i).connected = true →
    (s.clients i).loopback = true → ∀ payload sequence,
    ReflTransGen step s ((s.setClient i { s.clients i with lastPacketReceiveTime := s.time }).pushPayload
      i payload sequence)

/-- **A notion of step, with an invariant, that the operations on one slot follow.** -/
structure Stepwise (env : Platform) (config : ServerConfig) (step : Server → Server → Prop)
    (holds : Server → Prop) : Prop extends Traffic env config step holds where
  keeps : ∀ {s s'}, holds s → step s s' → holds s'
  size : ∀ {s}, holds s → s.maxClients ≤ MaxClients
  inUse : ∀ {s i}, holds s → (s.clients i).connected = true → i < s.maxClients
  send : ∀ {s i}, holds s → (s.clients i).connected = true → (s.clients i).loopback = false →
    Follows step s (sendClientPacket env config s (s.keepAlivePacket i) i)
  leave : ∀ {s i}, holds s → (s.clients i).connected = true → (s.clients i).loopback = false →
    ∀ sends reason, ∃ s', disconnectClientInternal env config s i sends reason = some s' ∧
      ReflTransGen step s s' ∧ Left s s' i
  notifyLeft : ∀ {s i}, holds s → (s.clients i).connected = true →
    ∃ s', notify config s i false = some s' ∧ ReflTransGen step s s' ∧ Undisturbed s s'
  notifyJoined : ∀ {s i}, holds s → Follows step s (notify config s i true)
  reason : ∀ {s i}, holds s → (s.clients i).connected = true → ∀ reason,
    ReflTransGen step s (s.setClient i { s.clients i with disconnectReason := reason })
  leaveLoopback : ∀ {s i}, holds s → (s.clients i).connected = true →
    (s.clients i).loopback = true → ReflTransGen step s (resetClientSlot s i)
  reset : ∀ {s}, holds s → (∀ i < s.maxClients, (s.clients i).connected = false) →
    ReflTransGen step s (resetServer s)
  start : ∀ {s maxClients}, holds s → s.running = false → 0 < maxClients →
    maxClients ≤ MaxClients → ∀ challengeKey reading,
    ReflTransGen step s (startServer config s maxClients challengeKey reading)
  connectLoopback : ∀ {s i}, holds s → i < s.maxClients → (s.clients i).connected = false →
    ∀ clientID userData, ReflTransGen step s
      { s.setClient i (loopbackSlot s i clientID userData) with
        numConnectedClients := s.numConnectedClients + 1 }

/-- The datagrams a call brings. -/
def Call.datagrams : Call → List Datagram
  | .processPacket source data _ reading => [⟨source, data, reading⟩]
  | .update _ _ batch => batch
  | _ => []

/-- The calls that pass a payload, and no more. -/
def Call.isTraffic : Call → Bool
  | .sendPacket _ _ => true
  | .receivePacket _ => true
  | .processLoopbackPacket _ _ _ => true
  | _ => false

/-- What `validSlot` accepts. -/
theorem validSlot_eq_some {s : Server} {i : Nat} {clientIndex : Int}
    (valid : s.validSlot clientIndex = some i) :
    s.running = true ∧ i < s.maxClients := by
  unfold validSlot at valid
  split_ifs at valid with range
  cases valid
  exact ⟨range.1, by omega⟩

/-- **The call of a nil function**: the one panic that is left. -/
def NilLoopbackCallback (config : ServerConfig) (s : Server) (call : Call) : Prop :=
  ∃ clientIndex payload i, call = .sendPacket clientIndex payload ∧
    s.validSlot clientIndex = some i ∧ (s.clients i).loopback = true ∧
    config.sendLoopbackPacketCallback = none

/-- A callback that does not call back. -/
theorem notify_eq {config : ServerConfig} (quiet : config.NonReentrant) (s : Server) (i : Nat)
    (connected : Bool) : notify config s i connected = some s := by
  unfold notify
  cases callback : config.connectDisconnectCallback with
  | none => rfl
  | some callback' => exact quiet.connectDisconnect callback' callback i connected s

namespace Traffic

variable {env : Platform} {config : ServerConfig} {step step' : Server → Server → Prop}
  {holds : Server → Prop} {s : Server}

/-- Other steps, to which these lead. -/
theorem map (logic : Traffic env config step holds)
    (leads : ∀ {s s'}, holds s → ReflTransGen step s s' → ReflTransGen step' s s') :
    Traffic env config step' holds where
  submit := fun held connected network payload => by
    obtain ⟨s', returns, chain⟩ := logic.submit held connected network payload
    exact ⟨s', returns, leads held chain⟩
  quietLoopback := logic.quietLoopback
  sendLoopback := fun held connected loopback payload =>
    leads held (logic.sendLoopback held connected loopback payload)
  deliver := fun held connected => leads held (logic.deliver held connected)
  hearLoopback := fun held connected loopback payload sequence =>
    leads held (logic.hearLoopback held connected loopback payload sequence)

theorem sendPacket (logic : Traffic env config step holds) (held : holds s) (clientIndex : Int)
    (payload : Bytes) :
    Follows step s (Server.sendPacket env config s clientIndex payload) ∨
      NilLoopbackCallback config s (.sendPacket clientIndex payload) := by
  unfold Server.sendPacket
  split_ifs
  · exact .inl ⟨s, rfl, .refl⟩
  cases valid : s.validSlot clientIndex with
  | none => exact .inl ⟨s, rfl, .refl⟩
  | some i =>
    dsimp only
    split_ifs with away network
    · exact .inl ⟨s, rfl, .refl⟩
    · exact .inl (logic.submit held (by simpa using away) (by simpa using network) payload)
    · cases isCallback : config.sendLoopbackPacketCallback with
      | none => exact .inr ⟨clientIndex, payload, i, rfl, valid, by simpa using network, isCallback⟩
      | some callback =>
        refine .inl ⟨_, ?_, logic.sendLoopback held (by simpa using away) (by simpa using network)
          payload⟩
        simp only [Option.bind_eq_bind, Option.bind_some, logic.quietLoopback callback isCallback]
        rfl

theorem receivePacket (logic : Traffic env config step holds) (held : holds s) (clientIndex : Int) :
    Follows step s (some (Server.receivePacket s clientIndex)) := by
  unfold Server.receivePacket
  cases valid : s.validSlot clientIndex with
  | none => exact ⟨s, rfl, .refl⟩
  | some i =>
    dsimp only
    split_ifs with away
    · exact ⟨s, rfl, .refl⟩
    · exact ⟨_, rfl, logic.deliver held (by simpa using away)⟩

theorem processLoopbackPacket (logic : Traffic env config step holds) (held : holds s)
    (clientIndex : Int) (payload : Bytes) (sequence : UInt64) :
    Follows step s (some (Server.processLoopbackPacket s clientIndex payload sequence)) := by
  unfold Server.processLoopbackPacket
  cases valid : s.validSlot clientIndex with
  | none => exact ⟨s, rfl, .refl⟩
  | some i =>
    dsimp only
    split_ifs with away size
    · exact ⟨s, rfl, .refl⟩
    · exact ⟨s, rfl, .refl⟩
    · simp only [Bool.or_eq_true, Bool.not_eq_true', not_or, Bool.not_eq_false] at away
      exact ⟨_, rfl, logic.hearLoopback held away.1 away.2 payload sequence⟩

/-- **Every call that passes a payload**, but for the call of a nil function. -/
theorem call (logic : Traffic env config step holds) (held : holds s) {call : Call}
    (passes : call.isTraffic = true) :
    Follows step s (Server.step env config s call) ∨ NilLoopbackCallback config s call := by
  cases call with
  | sendPacket clientIndex payload => exact logic.sendPacket held clientIndex payload
  | receivePacket clientIndex => exact .inl (logic.receivePacket held clientIndex)
  | processLoopbackPacket clientIndex payload sequence =>
    exact .inl (logic.processLoopbackPacket held clientIndex payload sequence)
  | _ => cases passes

end Traffic

namespace Stepwise

variable {env : Platform} {config : ServerConfig} {step : Server → Server → Prop}
  {holds : Server → Prop} {s s' : Server}

theorem chain (logic : Stepwise env config step holds) (held : holds s)
    (chain : ReflTransGen step s s') : holds s' :=
  chain_keeps holds (fun _ _ => logic.keeps) held chain

/-- **A loop over the slots** whose body is a chain of steps. What the body achieves for its slot,
and never undoes, holds of every slot at the end. -/
theorem forEachSlot (still : Server → Prop) (done : Nat → Server → Prop)
    (body : Server → Nat → Go Server)
    (each : ∀ t j, still t → j < t.maxClients → ∃ t', body t j = some t' ∧
      ReflTransGen step t t' ∧ still t' ∧ done j t' ∧ ∀ k, done k t → done k t')
    (beyond : ∀ t j, still t → t.maxClients ≤ j → done j t) (held : still s) :
    ∃ s', Server.forEachSlot body s = some s' ∧ ReflTransGen step s s' ∧ still s' ∧
      ∀ j < MaxClients, done j s' := by
  obtain ⟨s', returns, chain, heldLast, all, -⟩ := Trace.foldlM_chain still done
    (fun t j => if j < t.maxClients then body t j else some t)
    (fun t j heldT => by
      by_cases small : j < t.maxClients
      · simp only [if_pos small]
        exact each t j heldT small
      · simp only [if_neg small]
        exact ⟨t, rfl, .refl, heldT, beyond t j heldT (Nat.not_lt.mp small),
          fun _ before => before⟩)
    (List.range MaxClients) s held
  exact ⟨s', returns, chain, heldLast, fun j small => all j (List.mem_range.mpr small)⟩

/-- A loop whose body promises no more than the invariant. -/
theorem forEachSlot_simple (keeps : ∀ s s', holds s → step s s' → holds s')
    (body : Server → Nat → Go Server) (each : ∀ t j, holds t → Follows step t (body t j))
    (held : holds s) : Follows step s (Server.forEachSlot body s) := by
  obtain ⟨s', returns, chain, -, -⟩ := forEachSlot holds (fun _ _ => True) body
    (fun t j heldT _ => by
      obtain ⟨t', returns, chain⟩ := each t j heldT
      exact ⟨t', returns, chain, chain_keeps holds keeps heldT chain, trivial, fun _ _ => trivial⟩)
    (fun _ _ _ _ => trivial) held
  exact ⟨s', returns, chain⟩

/-- A slot that is beyond those in use is not connected. -/
theorem beyond (logic : Stepwise env config step holds) (held : holds s) {i : Nat}
    (above : s.maxClients ≤ i) : (s.clients i).connected = false := by
  by_contra connected
  exact absurd (logic.inUse held (by simpa using connected)) (Nat.not_lt.mpr above)

/-- After `DisconnectAllClients` every connected slot is a loopback client's. -/
theorem disconnectAllClients (logic : Stepwise env config step holds) (held : holds s) :
    ∃ s', Server.disconnectAllClients env config s = some s' ∧ ReflTransGen step s s' ∧
      s'.running = s.running ∧
      (s.running = true → ∀ j < MaxClients, (s'.clients j).connected = true →
        (s'.clients j).loopback = true) := by
  unfold Server.disconnectAllClients
  cases running : s.running with
  | false => exact ⟨s, rfl, .refl, running, fun impossible => by cases impossible⟩
  | true =>
    obtain ⟨s', returns, chain, ⟨-, runs⟩, all⟩ := forEachSlot
      (fun t => holds t ∧ t.running = true)
      (fun j t => (t.clients j).connected = true → (t.clients j).loopback = true)
      (fun s i => if (s.clients i).connected && !(s.clients i).loopback then
          disconnectClientInternal env config s i true .serverDisconnect
        else some s)
      (fun t j still _ => by
        obtain ⟨heldT, runningT⟩ := still
        by_cases onNetwork : ((t.clients j).connected && !(t.clients j).loopback) = true
        · rw [if_pos onNetwork]
          rw [Bool.and_eq_true, Bool.not_eq_true'] at onNetwork
          obtain ⟨t', returns, chain, left⟩ := logic.leave heldT onNetwork.1 onNetwork.2 true
            .serverDisconnect
          refine ⟨t', returns, chain, ⟨logic.chain heldT chain, left.running.trans runningT⟩,
            fun connected => ?_, fun k before connected => ?_⟩
          · rw [left.gone] at connected
            cases connected
          · obtain ⟨was, same⟩ := left.stays connected
            exact same.trans (before was)
        · rw [if_neg onNetwork]
          refine ⟨t, rfl, .refl, ⟨heldT, runningT⟩, fun connected => ?_, fun _ before => before⟩
          simpa [connected] using onNetwork)
      (fun t j still above connected => by
        rw [logic.beyond still.1 above] at connected
        cases connected)
      ⟨held, running⟩
    exact ⟨s', returns, chain, runs, fun _ => all⟩

theorem disconnectLoopbackClient (logic : Stepwise env config step holds) (held : holds s) {i : Nat}
    (running : s.running = true) (connected : (s.clients i).connected = true)
    (loopback : (s.clients i).loopback = true) :
    ∃ s', Server.disconnectLoopbackClient config s i = some s' ∧ ReflTransGen step s s' ∧
      Left s s' i := by
  let noted := s.setClient i { s.clients i with disconnectReason := .serverDisconnect }
  have slot : noted.clients i = { s.clients i with disconnectReason := .serverDisconnect } :=
    Function.update_self _ _ _
  have first : ReflTransGen step s noted := logic.reason held connected .serverDisconnect
  obtain ⟨told, notified, second, undisturbed⟩ :=
    logic.notifyLeft (logic.chain held first) (by rw [slot]; exact connected)
  obtain ⟨stays, staysLoopback⟩ := undisturbed.slots i
  rw [slot] at stays staysLoopback
  have last : ReflTransGen step told (resetClientSlot told i) :=
    logic.leaveLoopback (logic.chain held (first.trans second)) (stays.trans connected)
      (staysLoopback.trans loopback)
  refine ⟨resetClientSlot told i, ?_, (first.trans second).trans last, undisturbed.maxClients,
    undisturbed.running, ?_, fun j other => ?_⟩
  · have valid : s.validSlot i = some i := by
      simp [validSlot, running, logic.inUse held connected]
    unfold Server.disconnectLoopbackClient
    rw [valid]
    dsimp only
    rw [if_neg (by simp [connected, loopback])]
    show (notify config noted i false).bind _ = _
    rw [notified]
    rfl
  · simp [resetClientSlot, setClient, clearedSlot]
  · obtain ⟨sameJ, sameLoopbackJ⟩ := undisturbed.slots j
    simp only [resetClientSlot, setClient, Function.update_of_ne other, noted] at sameJ sameLoopbackJ ⊢
    exact ⟨sameJ, sameLoopbackJ⟩

/-- **`Stop` returns**, and ends a running server once every client is gone. -/
theorem stop (logic : Stepwise env config step holds) (held : holds s) :
    ∃ s', Server.stop env config s = some s' ∧ ReflTransGen step s s' ∧ s'.running = false ∧
      (s.running = true → ∃ u, holds u ∧ (∀ j < MaxClients, (u.clients j).connected = false) ∧
        s' = resetServer u) := by
  cases running : s.running with
  | false =>
    exact ⟨s, by simp [Server.stop, running], .refl, running, fun impossible => by cases impossible⟩
  | true =>
    obtain ⟨t, returns, chain, runs, left⟩ := logic.disconnectAllClients held
    obtain ⟨u, returns', chain', ⟨heldU, -, -⟩, gone⟩ := forEachSlot
      (fun t => holds t ∧ t.running = true ∧
        ∀ j < MaxClients, (t.clients j).connected = true → (t.clients j).loopback = true)
      (fun j t => (t.clients j).connected = false)
      (fun s i => if (s.clients i).connected && (s.clients i).loopback then
          Server.disconnectLoopbackClient config s i
        else some s)
      (fun t j still small => by
        obtain ⟨heldT, runningT, onlyLoopback⟩ := still
        by_cases present : ((t.clients j).connected && (t.clients j).loopback) = true
        · rw [if_pos present]
          rw [Bool.and_eq_true] at present
          obtain ⟨t', returns, chain, left⟩ := logic.disconnectLoopbackClient heldT runningT
            present.1 present.2
          refine ⟨t', returns, chain,
            ⟨logic.chain heldT chain, left.running.trans runningT, fun k smallK connected => ?_⟩,
            left.gone, fun k before => ?_⟩
          · obtain ⟨was, same⟩ := left.stays connected
            exact same.trans (onlyLoopback k smallK was)
          · by_contra connected
            have was := (left.stays (by simpa using connected)).1
            rw [before] at was
            cases was
        · rw [if_neg present]
          refine ⟨t, rfl, .refl, ⟨heldT, runningT, onlyLoopback⟩, ?_, fun _ before => before⟩
          by_contra connected
          rw [Bool.not_eq_false] at connected
          refine present ?_
          rw [connected, onlyLoopback j (small.trans_le (logic.size heldT)) connected]
          rfl)
      (fun t j still above => logic.beyond still.1 above)
      ⟨logic.chain held chain, runs.trans running, left running⟩
    have last := logic.reset heldU fun j small => gone j (small.trans_le (logic.size heldU))
    refine ⟨resetServer u, ?_, (chain.trans chain').trans last, rfl, fun _ => ⟨u, heldU, gone, rfl⟩⟩
    simp only [Server.stop, running, Bool.not_true, Bool.false_eq_true, if_false,
      Option.bind_eq_bind]
    rw [returns, Option.bind_some, returns', Option.bind_some]
    rfl

/-- `Start` follows, over a `Stop` if the server is running. -/
theorem restart (logic : Stepwise env config step holds) (held : holds s) (maxClients : Int)
    (challengeKey : Key) (reading : UInt64) :
    Follows step s (Server.start env config s maxClients challengeKey reading) := by
  unfold Server.start
  by_cases range : maxClients ≤ 0 ∨ (MaxClients : Int) < maxClients
  · rw [if_pos range]
    exact ⟨s, rfl, .refl⟩
  rw [if_neg range]
  have stops : ∃ t, (if s.running then Server.stop env config s else some s) = some t ∧
      ReflTransGen step s t ∧ t.running = false := by
    cases running : s.running with
    | false => exact ⟨s, rfl, .refl, running⟩
    | true =>
      obtain ⟨t, returns, chain, idle, -⟩ := logic.stop held
      exact ⟨t, returns, chain, idle⟩
  obtain ⟨t, returns, chain, idle⟩ := stops
  have last := logic.start (logic.chain held chain) idle (show 0 < maxClients.toNat by omega)
    (by omega) challengeKey reading
  refine ⟨startServer config t maxClients.toNat challengeKey reading, ?_, chain.trans last⟩
  rw [returns]
  rfl

/-- The end of `update`: send to the clients and time them out. -/
theorem sendAndCheck_follows (keeps : ∀ s s', holds s → step s s' → holds s')
    (send : ∀ {s i}, holds s → (s.clients i).connected = true → (s.clients i).loopback = false →
      Follows step s (sendClientPacket env config s (s.keepAlivePacket i) i))
    (timeout : ∀ {s i}, holds s → (s.clients i).connected = true → (s.clients i).loopback = false →
      Follows step s (disconnectClientInternal env config s i false .timedOut)) (held : holds s) :
    Follows step s ((sendPackets env config s).bind (checkForTimeouts env config)) := by
  have sends : Follows step s (sendPackets env config s) := by
    unfold sendPackets
    split_ifs
    · exact ⟨s, rfl, .refl⟩
    · refine forEachSlot_simple keeps _ (fun t j heldT => ?_) held
      split_ifs with due
      · simp only [Bool.and_eq_true, Bool.not_eq_true'] at due
        exact send heldT due.1.1 due.1.2
      · exact ⟨t, rfl, .refl⟩
  obtain ⟨t, sent, chain⟩ := sends
  have checks : Follows step t (checkForTimeouts env config t) := by
    unfold checkForTimeouts
    split_ifs
    · exact ⟨t, rfl, .refl⟩
    · refine forEachSlot_simple keeps _ (fun u j heldU => ?_) (chain_keeps holds keeps held chain)
      split_ifs with away forever loopback late
      · exact ⟨u, rfl, .refl⟩
      · exact ⟨u, rfl, .refl⟩
      · exact ⟨u, rfl, .refl⟩
      · exact timeout heldU (by simpa using away) (by simpa using loopback)
      · exact ⟨u, rfl, .refl⟩
  obtain ⟨u, checked, chain'⟩ := checks
  exact ⟨u, by rw [sent, Option.bind_some, checked], chain.trans chain'⟩

theorem sendAndCheck (logic : Stepwise env config step holds) (held : holds s) :
    Follows step s ((sendPackets env config s).bind (checkForTimeouts env config)) := by
  refine sendAndCheck_follows (fun _ _ => logic.keeps) logic.send (fun heldT connected network => ?_) held
  obtain ⟨t, returns, chain, -⟩ := logic.leave heldT connected network false .timedOut
  exact ⟨t, returns, chain⟩

/-- **Every call that brings no datagram**, `Update` apart, but for the call of a nil function. -/
theorem call (logic : Stepwise env config step holds) (held : holds s) (call : Call)
    (alone : call.datagrams = [])
    (notUpdate : ∀ time currentTimestamp batch, call ≠ .update time currentTimestamp batch) :
    Follows step s (Server.step env config s call) ∨ NilLoopbackCallback config s call := by
  have still : Follows step s (some s) := ⟨s, rfl, .refl⟩
  cases call with
  | start maxClients challengeKey reading =>
    exact .inl (logic.restart held maxClients challengeKey reading)
  | stop =>
    obtain ⟨s', returns, chain, -⟩ := logic.stop held
    exact .inl ⟨s', returns, chain⟩
  | processPacket => cases alone
  | update time currentTimestamp batch => exact absurd rfl (notUpdate time currentTimestamp batch)
  | sendPacket => exact logic.toTraffic.call held rfl
  | receivePacket => exact logic.toTraffic.call held rfl
  | processLoopbackPacket => exact logic.toTraffic.call held rfl
  | disconnectClient clientIndex =>
    refine .inl ?_
    show Follows step s (disconnectClient env config s clientIndex)
    unfold disconnectClient
    cases valid : s.validSlot clientIndex with
    | none => exact still
    | some i =>
      dsimp only
      split_ifs with away loopback
      · exact still
      · exact still
      · obtain ⟨s', returns, chain, -⟩ := logic.leave held (by simpa using away)
          (by simpa using loopback) true .serverDisconnect
        exact ⟨s', returns, chain⟩
  | disconnectAllClients =>
    obtain ⟨s', returns, chain, -⟩ := logic.disconnectAllClients held
    exact .inl ⟨s', returns, chain⟩
  | connectLoopbackClient clientIndex clientID userData =>
    refine .inl ?_
    show Follows step s (connectLoopbackClient config s clientIndex clientID userData)
    unfold connectLoopbackClient
    cases valid : s.validSlot clientIndex with
    | none => exact still
    | some i =>
      dsimp only
      split_ifs with present
      · exact still
      · have joins := logic.connectLoopback held (validSlot_eq_some valid).2 (by simpa using present)
          clientID userData
        obtain ⟨s', returns, chain⟩ := logic.notifyJoined (logic.chain held joins)
        exact ⟨s', returns, joins.trans chain⟩
  | disconnectLoopbackClient clientIndex =>
    refine .inl ?_
    show Follows step s (Server.disconnectLoopbackClient config s clientIndex)
    cases valid : s.validSlot clientIndex with
    | none =>
      unfold Server.disconnectLoopbackClient
      rw [valid]
      exact still
    | some i =>
      by_cases present : (s.clients i).connected = true ∧ (s.clients i).loopback = true
      · have isIndex : clientIndex = i := by
          unfold validSlot at valid
          split_ifs at valid with range
          cases valid
          omega
        obtain ⟨s', returns, chain, -⟩ := logic.disconnectLoopbackClient held
          (validSlot_eq_some valid).1 present.1 present.2
        rw [isIndex]
        exact ⟨s', returns, chain⟩
      · unfold Server.disconnectLoopbackClient
        rw [valid]
        dsimp only
        rw [if_pos (by
          rw [not_and_or] at present
          rcases present with away | network
          · simp [Bool.not_eq_true _ ▸ away]
          · simp [Bool.not_eq_true _ ▸ network])]
        exact still

end Stepwise

end Netcode.Server
