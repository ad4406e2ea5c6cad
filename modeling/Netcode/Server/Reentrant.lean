/-
**Callbacks that call the server.**

`ConnectDisconnectCallback` runs in the middle of the server's own calls and may call the server
again. `Acts` is what such a callback does: it makes calls, one after the other, and looks at what
each of them leaves. In these calls the callback is met again, and `Reenters` bounds how deep that
goes. Since the callback may do something else each time, every call has a configuration of its own,
with the same settings.

* `reentrant_callbacks` — **the slots stay in order** if the callback does no more than pass
  payloads while it is told that a client leaves (`Gentle`). Told of a new client it may make any
  calls;
* `disconnect_reenters_slot` — otherwise they do not: the slot of a client that leaves is cleared
  only after the callback, so that a callback that disconnects that client once more has it cleared
  twice, and the second time there is no mapping to give up.
-/

import Netcode.Server.Reached

namespace Netcode

namespace Server

/-! ### What a callback does -/

/-- **Some calls of the server**, each permitted, and none of them a call of a nil function: the
state they start from, and what comes of them. -/
inductive Acts (env : Platform) (permits : ServerConfig → Call → Prop) : Server → Go Server → Prop
  | done (s : Server) : Acts env permits s (some s)
  | call {s : Server} {config : ServerConfig} {call : Call} (permitted : permits config call)
      (notNil : ¬ NilLoopbackCallback config s call) (rest : Server → Go Server)
      (continues : ∀ t, step env config s call = some t → Acts env permits t (rest t)) :
      Acts env permits s ((step env config s call).bind rest)

/-- The configurations differ in `ConnectDisconnectCallback` at most. -/
def SameButCallback (config config' : ServerConfig) : Prop :=
  config' = { config with connectDisconnectCallback := config'.connectDisconnectCallback }

/-- **A callback that makes calls allowed to it**, nested `depth` deep at most. The callback for
loopback packets makes none. -/
def Reenters (env : Platform) (allows : Bool → Call → Prop) : Nat → ServerConfig → Prop
  | 0, config => config.NonReentrant
  | depth + 1, config =>
    (∀ callback, config.sendLoopbackPacketCallback = some callback →
      ∀ slot payload sequence s, callback slot payload sequence s = some s) ∧
    ∀ callback, config.connectDisconnectCallback = some callback → ∀ slot connected s,
      Acts env (fun inner call => Reenters env allows depth inner ∧ SameButCallback config inner ∧
        allows connected call) s (callback slot connected s)

/-- A state reached from a new server, with a callback that makes the calls allowed to it. -/
inductive ReachedWith (env : Platform) (allows : Bool → Call → Prop) (settings : ServerConfig) :
    Server → Prop
  | new (address address2 : Address) (time : ℚ) :
      ReachedWith env allows settings (new address address2 time)
  | step {s s' : Server} (reached : ReachedWith env allows settings s) {config : ServerConfig}
      (same : SameButCallback settings config) {depth : Nat}
      (reenters : Reenters env allows depth config) (call : Call)
      (done : step env config s call = some s') : ReachedWith env allows settings s'

/-- **While it is told that a client leaves, the callback does no more than pass payloads.** -/
def Gentle (connected : Bool) (call : Call) : Prop :=
  connected = false → call.isTraffic = true

variable {env : Platform} {config : ServerConfig} {s : Server}

/-! ### Gentle callbacks -/

/-- Passing payloads changes slots within their sessions only. -/
theorem Acts.stirs {permits : ServerConfig → Call → Prop} {result : Go Server}
    (calm : ∀ inner call, permits inner call → Calm env inner ∧ call.isTraffic = true)
    (acts : Acts env permits s result) (ok : s.slotTable.Ok) :
    ∃ s', result = some s' ∧ Stirs env s s' := by
  induction acts with
  | done s => exact ⟨s, rfl, .refl⟩
  | @call s inner call permitted notNil rest _ ih =>
    obtain ⟨calmly, passes⟩ := calm inner call permitted
    rcases (traffic_slots env calmly.sendLoopback).call ok passes with ⟨t, returns, first⟩ | nil
    · obtain ⟨u, last, stirs⟩ := ih t returns (ok.steps (Stirs.moves first ok).table)
      exact ⟨u, by rw [returns, Option.bind_some, last], first.trans stirs⟩
    · exact absurd nil notNil

/-- Any calls move within the slot table. -/
theorem Acts.moves {permits : ServerConfig → Call → Prop} {result : Go Server}
    (calm : ∀ inner call, permits inner call → Calm env inner)
    (acts : Acts env permits s result) (ok : s.slotTable.Ok) :
    ∃ s', result = some s' ∧ Moves s s' := by
  induction acts with
  | done s => exact ⟨s, rfl, .refl s⟩
  | @call s inner call permitted notNil rest _ ih =>
    rcases step_slots (calm inner call permitted) ok call with ⟨t, returns, first⟩ | nil
    · obtain ⟨u, last, moves⟩ := ih t returns (ok.steps first.table)
      exact ⟨u, by rw [returns, Option.bind_some, last], first.trans moves⟩
    · exact absurd nil notNil

/-- **A gentle callback is calm**, however deep its calls are nested. -/
theorem Reenters.calm {depth : Nat} (reenters : Reenters env Gentle depth config) :
    Calm env config := by
  induction depth generalizing config with
  | zero => exact .of_quiet env reenters
  | succ depth ih =>
    obtain ⟨quietLoopback, acts⟩ := reenters
    refine ⟨fun {s i} ok _ => ?_, fun {s i} ok => ?_, quietLoopback⟩
    · unfold notify
      cases isCallback : config.connectDisconnectCallback with
      | none => exact ⟨s, rfl, .refl⟩
      | some callback =>
        exact (acts callback isCallback i false s).stirs
          (fun _ _ permitted => ⟨ih permitted.1, permitted.2.2 rfl⟩) ok
    · unfold notify
      cases isCallback : config.connectDisconnectCallback with
      | none => exact ⟨s, rfl, .refl s⟩
      | some callback =>
        exact (acts callback isCallback i true s).moves (fun _ _ permitted => ih permitted.1) ok

theorem ReachedWith.ok {settings : ServerConfig} (reached : ReachedWith env Gentle settings s) :
    s.slotTable.Ok := by
  induction reached with
  | new address address2 time => exact new_ok address address2 time
  | step _ _ reenters call done ih => exact ih.steps (step_moves reenters.calm ih done).table

/-- **Callbacks that call the server keep it consistent**, as long as they do no more than pass
payloads while they are told that a client leaves. From every state reached, every call returns: no
index is out of range on the way. Then the counter counts the connected slots, and every client of
the network has a mapping for its address. -/
theorem reentrant_callbacks {depth : Nat} (reenters : Reenters env Gentle depth config)
    (reached : ReachedWith env Gentle config s) (call : Call)
    (notNil : ¬ NilLoopbackCallback config s call) :
    ∃ s', step env config s call = some s' ∧
      s'.numConnectedClients = connectedCount s'.clients ∧
      ∀ i, (s'.clients i).connected = true → (s'.clients i).loopback = false →
        ∃ e, (s'.clients i).encryptionIndex = some e ∧
          (s'.encryptionManager.mapping e).address.Equal (s'.clients i).address = true := by
  rcases step_slots reenters.calm reached.ok call with ⟨s', returns, moves⟩ | nil
  · have ok := reached.ok.steps moves.table
    exact ⟨s', returns, ok.count, fun i connected network => mapped_address ok connected network⟩
  · exact absurd nil notNil

/-! ### Sample callbacks -/

/-- Calls with a callback that makes none. -/
theorem Reached.reachedWith {allows : Bool → Call → Prop} {settings : ServerConfig}
    {calls : List Call} (same : SameButCallback settings config) (quiet : config.NonReentrant)
    (reached : Reached env config calls s) : ReachedWith env allows settings s := by
  induction reached with
  | new address address2 time => exact .new address address2 time
  | step _ call done ih => exact .step ih same (show Reenters env allows 0 config from quiet) call done

end Server

namespace Sample

open Server

/-- The sample server with a callback. -/
def withCallback (callback : Nat → Bool → Server → Go Server) : ServerConfig :=
  { config with connectDisconnectCallback := some callback }

/-- Reads what the client has sent. -/
def reads : ServerConfig :=
  withCallback fun slot _ s => step samplePlatform config s (.receivePacket slot)

/-- Disconnects every client that connects, and reads what one that leaves has sent. -/
def turnsAway : ServerConfig :=
  withCallback fun slot connected s =>
    if connected then step samplePlatform reads s (.disconnectClient slot)
    else step samplePlatform config s (.receivePacket slot)

/-- Disconnects every client it is told of, once. -/
def insists : ServerConfig :=
  withCallback fun slot _ s => step samplePlatform config s (.disconnectClient slot)

/-- Disconnects every loopback client it is told of, once. -/
def insistsLoopback : ServerConfig :=
  withCallback fun slot _ s => step samplePlatform config s (.disconnectLoopbackClient slot)

/-- One call, which sends nothing. -/
theorem acts_call {permits : ServerConfig → Call → Prop} {inner : ServerConfig} {call : Call}
    (s : Server) (permitted : permits inner call)
    (notSend : ∀ clientIndex payload, call ≠ .sendPacket clientIndex payload) :
    Acts samplePlatform permits s (step samplePlatform inner s call) := by
  have notNil : ¬ NilLoopbackCallback inner s call := by
    rintro ⟨clientIndex, payload, -, isSend, -⟩
    exact notSend clientIndex payload isSend
  have acts : Acts samplePlatform permits s ((step samplePlatform inner s call).bind some) :=
    .call permitted notNil some fun t _ => .done t
  rwa [Option.bind_fun_some] at acts

theorem config_reenters (allows : Bool → Call → Prop) (depth : Nat) :
    Reenters samplePlatform allows depth config := by
  cases depth with
  | zero => exact config_nonReentrant
  | succ depth =>
    refine ⟨fun callback isCallback => ?_, fun callback isCallback => ?_⟩
    · cases isCallback
    · cases isCallback

theorem withCallback_reenters {allows : Bool → Call → Prop} {depth : Nat}
    {callback : Nat → Bool → Server → Go Server}
    (acts : ∀ slot connected s, Acts samplePlatform (fun inner call =>
      Reenters samplePlatform allows depth inner ∧ SameButCallback (withCallback callback) inner ∧
        allows connected call) s (callback slot connected s)) :
    Reenters samplePlatform allows (depth + 1) (withCallback callback) := by
  refine ⟨fun callback' isCallback => ?_, fun callback' isCallback => ?_⟩
  · cases isCallback
  · cases isCallback
    exact acts

theorem turnsAway_reenters : Reenters samplePlatform Gentle 2 turnsAway := by
  have inner : Reenters samplePlatform Gentle 1 reads := withCallback_reenters fun slot _ s =>
    acts_call s ⟨config_reenters _ 0, rfl, fun _ => rfl⟩ (by simp)
  refine withCallback_reenters fun slot connected s => ?_
  cases connected with
  | true =>
    show Acts samplePlatform _ s (step samplePlatform reads s (.disconnectClient slot))
    refine acts_call s ⟨inner, rfl, fun left => ?_⟩ (by simp)
    cases left
  | false =>
    show Acts samplePlatform _ s (step samplePlatform config s (.receivePacket slot))
    exact acts_call s ⟨config_reenters _ 1, rfl, fun _ => rfl⟩ (by simp)

theorem insists_reenters : Reenters samplePlatform (fun _ _ => True) 1 insists :=
  withCallback_reenters fun slot _ s => acts_call s ⟨config_reenters _ 0, rfl, trivial⟩ (by simp)

theorem insistsLoopback_reenters : Reenters samplePlatform (fun _ _ => True) 1 insistsLoopback :=
  withCallback_reenters fun slot _ s => acts_call s ⟨config_reenters _ 0, rfl, trivial⟩ (by simp)

/-- What is reached without a callback. -/
theorem reached_withCallback {callback : Nat → Bool → Server → Go Server}
    {allows : Bool → Call → Prop} {calls : List Call} {s : Server}
    (done : execute samplePlatform config server calls = some s) :
    ReachedWith samplePlatform allows (withCallback callback) s := by
  have same : SameButCallback (withCallback callback) config := rfl
  exact (server_run.execute done).reached.reachedWith same config_nonReentrant

/-- The calls up to the response of a client. -/
def awaitsResponse : List Call :=
  [.start 2 challengeKey 1000, .processPacket firstAddress (request first 1040) 1001 1001]

/-- A loopback client. -/
def hostsLoopback : List Call := [.start 2 challengeKey 1000, .connectLoopbackClient 0 7 []]

end Sample

namespace Server

/-- A client is disconnected by the callback that is told of it: its response is handled, and nobody
is connected afterwards. -/
theorem reentrant_callbacks_turnsAway :
    ∃ s s', step samplePlatform Sample.turnsAway s
        (.processPacket Sample.firstAddress (Sample.response Sample.first Sample.first 0 1) 1001 1001) =
          some s' ∧
      s.encryptionManager.numEncryptionMappings = 1 ∧ s'.numConnectedClients = 0 ∧
      s'.numConnectedClients = connectedCount s'.clients := by
  have answers : (execute samplePlatform Sample.config Sample.server Sample.awaitsResponse).map
      (fun s => (s.encryptionManager.numEncryptionMappings,
        (step samplePlatform Sample.turnsAway s (.processPacket Sample.firstAddress
          (Sample.response Sample.first Sample.first 0 1) 1001 1001)).map Server.numConnectedClients)) =
        some (1, some 0) := by
    decide +kernel
  obtain ⟨s, done, counts⟩ := Option.map_eq_some_iff.mp answers
  simp only [Prod.mk.injEq] at counts
  have reached : ReachedWith samplePlatform Gentle Sample.turnsAway s :=
    Sample.reached_withCallback done
  obtain ⟨s', returns, counted, -⟩ := reentrant_callbacks Sample.turnsAway_reenters reached
    (.processPacket Sample.firstAddress (Sample.response Sample.first Sample.first 0 1) 1001 1001)
    (by
      rintro ⟨clientIndex, payload, -, isSend, -⟩
      cases isSend)
  have none := counts.2
  rw [returns] at none
  exact ⟨s, s', returns, counts.1, Option.some_inj.mp none, counted⟩

/-- **A slot is cleared twice.** A client is connected, and the server disconnects it. The callback,
told of this, calls `DisconnectClient` for the same slot, which clears it; then the first call goes
on with a slot that has no mapping, and an index of `-1` is out of range. A loopback client that is
disconnected in this way is counted out twice. -/
theorem disconnect_reenters_slot :
    (Reenters samplePlatform (fun _ _ => True) 1 Sample.insists ∧
      ∃ s, ReachedWith samplePlatform (fun _ _ => True) Sample.insists s ∧
        (s.clients 0).connected = true ∧
        ¬ NilLoopbackCallback Sample.insists s (.disconnectClient 0) ∧
        step samplePlatform Sample.insists s (.disconnectClient 0) = none) ∧
    Reenters samplePlatform (fun _ _ => True) 1 Sample.insistsLoopback ∧
      ∃ s s', ReachedWith samplePlatform (fun _ _ => True) Sample.insistsLoopback s ∧
        step samplePlatform Sample.insistsLoopback s (.disconnectLoopbackClient 0) = some s' ∧
        s'.numConnectedClients = -1 := by
  have panics : (execute samplePlatform Sample.config Sample.server Sample.connectFirst).map
      (fun s => ((s.clients 0).connected,
        (step samplePlatform Sample.insists s (.disconnectClient 0)).isNone)) = some (true, true) := by
    decide +kernel
  have counts : (execute samplePlatform Sample.config Sample.server Sample.hostsLoopback).map
      (fun s => (step samplePlatform Sample.insistsLoopback s (.disconnectLoopbackClient 0)).map
        Server.numConnectedClients) = some (some (-1)) := by
    decide +kernel
  refine ⟨⟨Sample.insists_reenters, ?_⟩, Sample.insistsLoopback_reenters, ?_⟩
  · obtain ⟨s, done, observed⟩ := Option.map_eq_some_iff.mp panics
    simp only [Prod.mk.injEq, Option.isNone_iff_eq_none] at observed
    refine ⟨s, Sample.reached_withCallback done, observed.1, ?_, observed.2⟩
    rintro ⟨clientIndex, payload, -, isSend, -⟩
    cases isSend
  · obtain ⟨s, done, observed⟩ := Option.map_eq_some_iff.mp counts
    obtain ⟨s', returns, negative⟩ := Option.map_eq_some_iff.mp observed
    exact ⟨s, s', Sample.reached_withCallback done, returns, negative⟩

end Server

end Netcode
