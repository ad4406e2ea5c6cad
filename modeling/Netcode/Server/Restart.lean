/-
**Connect tokens and restarts.**

`Stop` empties the history, so what keeps a used token out after a restart is one inequality:
`Start` sets the floor `minConnectTokenExpireTimestamp` to its reading plus the maximum token
lifetime, and `readPacket` ignores a request that expires below it. A token created before the
second of the `Start` expires below the floor. A token with the full lifetime that was created in
the same second expires exactly at the floor, and passes.

* `connect_token_not_readmitted` — a token installed in an earlier run is **never accepted again**
  if every `Start` after its installation reads a later second than its creation;
* `connect_token_readmitted` — a restart within the second of its creation.
-/

import Netcode.Server.Identity

namespace Netcode

open Trace

/-- The trace up to the last `Start` or `Stop`. -/
def earlierRuns (trace : List Effect) : List Effect := trace.dropWhile fun effect => !effect.boundary

theorem earlierRuns_append {new trace : List Effect}
    (inside : ∀ effect ∈ new, effect.boundary = false) :
    earlierRuns (new ++ trace) = earlierRuns trace := by
  induction new with
  | nil => rfl
  | cons effect new ih =>
    have here := inside effect List.mem_cons_self
    rw [List.cons_append, ← ih fun other member => inside other (List.mem_cons_of_mem _ member)]
    simp [earlierRuns, here]

theorem earlierRuns_boundary {effect : Effect} (boundary : effect.boundary = true)
    (trace : List Effect) : earlierRuns (effect :: trace) = effect :: trace := by
  simp [earlierRuns, boundary]

theorem earlierRuns_suffix (trace : List Effect) : earlierRuns trace <:+ trace :=
  List.dropWhile_suffix _

/-- A `Start` after an installation of these keys: its reading is later than the creation of their
token, or the token has less than the full lifetime; and the floor it sets fits into 64 bits. -/
def startsLater (lifetime created expire : UInt64) (keys : Key × Key) :
    Effect → List Effect → Prop
  | .started _ _ reading, earlier => keys ∈ installations earlier →
      (created < reading ∨ created = reading ∧ expire.toNat < created.toNat + lifetime.toNat) ∧
        reading.toNat + lifetime.toNat < 2 ^ 64
  | _, _ => True

instance (lifetime created expire : UInt64) (keys : Key × Key) (effect : Effect)
    (earlier : List Effect) : Decidable (startsLater lifetime created expire keys effect earlier) := by
  unfold startsLater
  split <;> infer_instance

namespace Server

variable {env : Platform} {config : ServerConfig} {s s' : Server}

/-- **The floor of a run** is the reading of its `Start` plus the maximum token lifetime. -/
def Floor (config : ServerConfig) (s : Server) : Prop :=
  s.running = true → ∃ maxClients key reading before,
    earlierRuns s.trace = .started maxClients key reading :: before ∧
      s.minConnectTokenExpireTimestamp = reading + config.connectTokenLifetime

theorem Floor.grown (floor : Floor config s) (new : List Effect)
    (trace : s'.trace = new ++ s.trace) (inside : ∀ effect ∈ new, effect.boundary = false)
    (same : SameSettings s s') : Floor config s' := by
  intro running
  rw [same.running] at running
  rw [trace, earlierRuns_append inside, same.floor]
  exact floor running

theorem Floor.atom (floor : Floor config s) (atom : Atom env config s s') : Floor config s' := by
  cases atom.challengeStep with
  | quiet new trace none same =>
    exact floor.grown new trace (fun effect member => Effect.inside_of_noChallenge
      (by simpa using List.any_eq_false.mp none effect member)) same
  | packet kind p n key notToken new trace one same =>
    exact floor.grown new trace (Effect.inside_of_oneSeal one) same
  | issue source request token =>
    exact floor.grown [_, _, _, _] rfl (by simp [Effect.boundary]) ⟨rfl, rfl, rfl, rfl, rfl⟩
  | start maxClients challengeKey reading =>
    exact fun _ => ⟨maxClients, challengeKey, reading, .clock reading :: s.trace,
      earlierRuns_boundary rfl _, rfl⟩
  | reset =>
    intro running
    cases running

section Token

variable {call : AeadCall} {token : ConnectTokenPrivate} (created expire : UInt64)

/-- The token in `call` is not accepted in a run after one in which its keys were installed. -/
def NotReadmitted (call : AeadCall) (token : ConnectTokenPrivate) (trace : List Effect) : Prop :=
  Always (fun effect earlier => ∀ source request reading,
    effect = .requested source request reading call → ∀ i address e,
      .installed i address e token.serverToClientKey token.clientToServerKey ∉
        earlierRuns earlier) trace

/-- **An accepted token expires at or above the floor**, so it was not installed before the
`Start`. -/
theorem not_installed_before {request : ConnectionRequest} {reading : UInt64}
    (accepted : Accepted config s request reading call) (floor : Floor config s)
    (running : s.running = true)
    (expires : call.additional = connectTokenAdditionalData config.protocolID expire)
    (lifetime : expire.toNat ≤ created.toNat + config.connectTokenLifetime.toNat)
    (later : Always (startsLater config.connectTokenLifetime created expire
      (token.serverToClientKey, token.clientToServerKey)) s.trace) :
    ∀ i address e, .installed i address e token.serverToClientKey token.clientToServerKey ∉
      earlierRuns s.trace := by
  intro i address e member
  obtain ⟨maxClients, key, start, before, isEarlier, isFloor⟩ := floor running
  have isExpire : request.connectTokenExpireTimestamp = expire :=
    uint64Bytes_injective (List.append_cancel_left (accepted.additional.symm.trans expires))
  have above := accepted.afterStart
  rw [isExpire, isFloor, UInt64.le_iff_toNat_le, UInt64.toNat_add] at above
  have atStart := later.of_suffix (earlierRuns_suffix s.trace)
  rw [isEarlier] at member atStart
  have installed : (token.serverToClientKey, token.clientToServerKey) ∈ installations before :=
    List.mem_filterMap.mpr ⟨_, (List.mem_cons.mp member).resolve_left nofun, rfl⟩
  obtain ⟨late, fits⟩ := atStart.1 installed
  rw [Nat.mod_eq_of_lt fits] at above
  rcases late with after | ⟨rfl, short⟩
  · rw [UInt64.lt_iff_toNat_lt] at after
    omega
  · omega

/-- **A token that was installed is not accepted after a restart** that reads a later second than
that of its creation. -/
theorem connect_token_not_readmitted {calls : List Call} (quiet : config.NonReentrant)
    (run : Run env config calls s)
    (expires : call.additional = connectTokenAdditionalData config.protocolID expire)
    (lifetime : expire.toNat ≤ created.toNat + config.connectTokenLifetime.toNat)
    (later : Always (startsLater config.connectTokenLifetime created expire
      (token.serverToClientKey, token.clientToServerKey)) s.trace) :
    NotReadmitted call token s.trace := by
  refine (Run.along (Always (startsLater config.connectTokenLifetime created expire
      (token.serverToClientKey, token.clientToServerKey)))
    (fun s => Floor config s ∧ NotReadmitted call token s.trace) quiet
    (fun _ _ suffix met => met.of_suffix suffix) (fun _ _ _ => ⟨nofun, trivial⟩)
    (fun t t' binding atom met ⟨floor, never⟩ => ⟨floor.atom atom, ?_⟩) run later).2
  have unchanged : ∀ new, t'.trace = new ++ t.trace →
      (∀ source request reading call, .requested source request reading call ∉ new) →
      NotReadmitted call token t'.trace := by
    intro new trace none
    rw [trace]
    exact never.append fun effect member earlier source request reading isRequest =>
      absurd (isRequest ▸ member) (none source request reading call)
  cases atom.tokenStep binding with
  | quiet quiet =>
    obtain ⟨new, trace, noToken⟩ := quiet.trace
    exact unchanged new trace fun source request reading call member =>
      List.any_eq_false.mp noToken _ member rfl
  | openRequest source reading data request call' key window running head reads =>
    refine ⟨fun source' request' reading' isRequest => ?_, nofun, never⟩
    cases isRequest
    have opened : Floor config (t.record (.opened .connectToken call)) :=
      floor.grown [.opened .connectToken call] rfl (by simp [Effect.boundary])
        ⟨rfl, rfl, rfl, rfl, rfl⟩
    exact not_installed_before created expire (accepted_of_reads reads List.mem_cons_self) opened
      running expires lifetime met.2
  | ask | grant | install => exact unchanged [_] rfl (by simp)
  | boundary effect new isBoundary noToken trace entries manager =>
    refine unchanged (effect :: new) trace fun source request reading call member => ?_
    rcases List.mem_cons.mp member with here | isNew
    · rw [← here] at isBoundary
      cases isBoundary
    · exact List.any_eq_false.mp noToken _ isNew rfl

end Token

end Server

/-! ### A restart within one second -/

namespace Sample

/-- The first token, created at second 1000 with the full lifetime of 30 seconds. -/
def shortToken : AeadCall := sealToken first 1030

/-- A client connects with the token at second 1000, the server is restarted at second `second`, and
the client connects again with the same token. -/
def restartAt (second : UInt64) : List Server.Call :=
  [.start 2 challengeKey 1000,
    .processPacket firstAddress (request first 1030) 1000 1000,
    .processPacket firstAddress (response first first 0 1) 1000 1000,
    .stop,
    .start 2 challengeKey second,
    .processPacket firstAddress (request first 1030) second second,
    .processPacket firstAddress (response first first 0 1) second second]

end Sample

namespace Server

/-- A restart one second later: the token is used once. -/
theorem connect_token_not_readmitted_later :
    ∃ calls s, Run samplePlatform Sample.config calls s ∧
      (installations s.trace).count
        (Sample.first.serverToClientKey, Sample.first.clientToServerKey) = 1 ∧
      NotReadmitted Sample.shortToken Sample.first s.trace := by
  have restarts : (execute samplePlatform Sample.config Sample.server
      (Sample.restartAt 1001)).map (fun s : Server => decide (Always (startsLater
        Sample.config.connectTokenLifetime 1000 1030
        (Sample.first.serverToClientKey, Sample.first.clientToServerKey)) s.trace ∧
        (installations s.trace).count
          (Sample.first.serverToClientKey, Sample.first.clientToServerKey) = 1)) = some true := by
    decide +kernel
  obtain ⟨s, done, facts⟩ := Option.map_eq_some_iff.mp restarts
  obtain ⟨later, installed⟩ := of_decide_eq_true facts
  have run := Sample.server_run.execute done
  exact ⟨_, s, run, installed, connect_token_not_readmitted 1000 1030 Sample.config_nonReentrant run
    rfl (by decide +kernel) later⟩

/-- **A token of the full lifetime is installed again** after a restart within the second of its
creation. -/
theorem connect_token_readmitted :
    ∃ calls s, Run samplePlatform Sample.config calls s ∧
      OnlyIssued (· = Sample.shortToken) s.trace ∧ ClockForward s.trace ∧
      (∀ now ∈ clockReadings s.trace, 1000 ≤ now) ∧
      1030 = 1000 + Sample.config.connectTokenLifetime ∧
      (Sample.first.serverToClientKey, Sample.first.clientToServerKey) ∈
        installations (earlierRuns s.trace) ∧
      (Sample.first.serverToClientKey, Sample.first.clientToServerKey) ∈
        installations (thisRun s.trace) := by
  have restarts : (execute samplePlatform Sample.config Sample.server
      (Sample.restartAt 1000)).map (fun s : Server => decide (
        OnlyIssued (· = Sample.shortToken) s.trace ∧ ClockForward s.trace ∧
        (∀ now ∈ clockReadings s.trace, 1000 ≤ now) ∧
        1030 = 1000 + Sample.config.connectTokenLifetime ∧
        (Sample.first.serverToClientKey, Sample.first.clientToServerKey) ∈
          installations (earlierRuns s.trace) ∧
        (Sample.first.serverToClientKey, Sample.first.clientToServerKey) ∈
          installations (thisRun s.trace))) = some true := by
    decide +kernel
  obtain ⟨s, done, facts⟩ := Option.map_eq_some_iff.mp restarts
  exact ⟨_, s, Sample.server_run.execute done, of_decide_eq_true facts⟩

end Server

end Netcode
