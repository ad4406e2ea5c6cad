/-
**The lifetime of a token bounds the connection process.**

`Update` ends the connection process once `expireTimestamp - createTimestamp` seconds have passed
since `connectStartTime`. As long as the client stays with the first server of its list, that is the
time of `Connect`: an `Update` after the token's lifetime leaves it neither sending requests nor
responses (`token_expiry_ends_connecting`).

`connectToNextServer` also goes through `resetBeforeNextConnect`, which sets `connectStartTime`: with
each further server the process gets the whole lifetime anew (`expiry_restarts_at_next_server`).
-/

import Netcode.Client.Steps
import Netcode.Model.Sample

namespace Netcode.Client

open Relation (ReflTransGen)

variable {env : Platform} {connects : Bool} {config : ClientConfig} {c c' first last : Client}

/-- The states after a `Connect` that led to `first`, up to the next `Connect`. -/
inductive Since (env : Platform) (config : ClientConfig) (first : Client) : Client → Prop
  | connected : Since env config first first
  | step {c c' : Client} (since : Since env config first c) (call : Call)
      (other : call.connects = false) (done : step env config c call = some c') :
      Since env config first c'

/-- The client is between `Connect` and being connected. -/
def Connecting (c : Client) : Prop :=
  c.state = .sendingConnectionRequest ∨ c.state = .sendingConnectionResponse

theorem Connecting.active (connecting : c.Connecting) : c.Active := by
  rcases connecting with state | state
  · exact active_of_state _ state (by decide)
  · exact active_of_state _ state (by decide)

/-- A client in loopback mode is connected. -/
def LoopbackConnected (c : Client) : Prop := c.loopback = true → c.state = .connected

theorem Connecting.network (connecting : c.Connecting) (held : c.LoopbackConnected) :
    c.loopback = false := by
  by_contra loopback
  have connected := held (by simpa using loopback)
  rcases connecting with state | state
  · rw [state] at connected
    cases connected
  · rw [state] at connected
    cases connected

theorem Micro.loopbackConnected (micro : Micro env connects c c') (held : c.LoopbackConnected) :
    c'.LoopbackConnected := by
  cases micro with
  | challenge source challengeTokenSequence challengeTokenData sequence call state =>
    intro loopback
    rw [show c.loopback = false from Connecting.network (.inl state) held] at loopback
    cases loopback
  | begin data token serverAddress allowed idle =>
    intro loopback
    exact absurd (active_of_state _ (held loopback) (by decide)) idle
  | reject data token allowed idle =>
    intro loopback
    exact absurd (active_of_state _ (held loopback) (by decide)) idle
  | nextServer serverAddress active network =>
    intro loopback
    rw [show c.loopback = true from loopback] at network
    cases network
  | reset =>
    intro loopback
    cases loopback
  | establish | connectLoopback => exact fun _ => rfl
  | _ => exact held

theorem Run.loopbackConnected (quiet : config.NonReentrant) {calls : List Call}
    (run : Run env config calls c) : c.LoopbackConnected :=
  Run.along (fun _ => True) LoopbackConnected quiet (fun _ _ _ met => met)
    (fun _ loopback => by cases loopback)
    (fun _ _ _ micro _ held => micro.loopbackConnected held) run trivial

/-! ### The first server -/

/-- **As long as it connects to the first server, the client works on the one token, from the one start
time**; and if the token lists no other server, it never turns to one. -/
structure AtFirst (token : ConnectToken) (start : ℚ) (c : Client) : Prop where
  connecting : c.Connecting → c.serverAddressIndex = 0 →
    c.connectToken = token ∧ c.connectStartTime = start
  alone : token.numServerAddresses ≤ 1 →
    c.connectToken.numServerAddresses ≤ 1 ∧ c.serverAddressIndex = 0

/-- Any step but those of `Connect` keeps that. -/
theorem AtFirst.micro {token : ConnectToken} {start : ℚ} (atFirst : AtFirst token start c)
    (micro : Micro env false c c') : AtFirst token start c' := by
  cases micro with
  | begin data token serverAddress allowed => cases allowed
  | reject data token allowed => cases allowed
  | nextServer serverAddress active network more =>
    refine ⟨fun _ first => absurd first (Nat.succ_ne_zero _), fun few => ?_⟩
    obtain ⟨single, first⟩ := atFirst.alone few
    omega
  | reset destination idle =>
    exact ⟨fun connecting => absurd connecting.active (not_lt.mpr idle),
      fun _ => ⟨show (0 : Int) ≤ 1 by decide, rfl⟩⟩
  | challenge source challengeTokenSequence challengeTokenData sequence call state =>
    exact ⟨fun _ => atFirst.connecting (.inl state), atFirst.alone⟩
  | establish | connectLoopback =>
    refine ⟨fun connecting => ?_, atFirst.alone⟩
    rcases connecting with state | state
    · cases state
    · cases state
  | _ => exact ⟨atFirst.connecting, atFirst.alone⟩

theorem AtFirst.steps {token : ConnectToken} {start : ℚ} (atFirst : AtFirst token start c)
    (chain : ReflTransGen (Micro env false) c c') : AtFirst token start c' := by
  induction chain with
  | refl => exact atFirst
  | tail _ last ih => exact ih.micro last

theorem sendDisconnects_time (env : Platform) (count : List Nat) : ∀ c : Client,
    (count.foldl (fun c _ => sendPacketToServerInternal env c .connectionDisconnect) c).time =
      c.time := by
  induction count with
  | nil => exact fun _ => rfl
  | cons _ rest ih => exact fun c => ih _

theorem disconnectInternal_time (quiet : config.NonReentrant) {destination : ClientState}
    {sends : Bool} (done : disconnectInternal env config c destination sends = some c') :
    c'.time = c.time := by
  have reset : ∀ d : Client, (afterReset env d destination).time = d.time := fun _ => rfl
  unfold disconnectInternal at done
  split_ifs at done
  · cases done
    rfl
  · rw [resetConnectionData_eq quiet] at done
    rw [← Option.some_inj.mp done, reset, sendDisconnects_time]
  · rw [resetConnectionData_eq quiet] at done
    rw [← Option.some_inj.mp done, reset]

/-- **What `Connect` leaves** when it accepts a token: the time it was called, and the first server. -/
theorem connect_start (quiet : config.NonReentrant) {data : Bytes}
    (done : connect env config c data = some first)
    (accepted : first.state = .sendingConnectionRequest) :
    first.connectStartTime = c.time ∧ first.serverAddressIndex = 0 := by
  unfold connect disconnect at done
  obtain ⟨left, leaves, done⟩ := Option.bind_eq_some_iff.mp done
  obtain ⟨⟨token, good⟩, reads, done⟩ := Option.bind_eq_some_iff.mp done
  dsimp only at done
  split_ifs at done
  · rw [setState_eq quiet] at done
    cases done
    cases accepted
  · obtain ⟨serverAddress, -, done⟩ := Option.bind_eq_some_iff.mp done
    rw [setState_eq quiet] at done
    cases done
    exact ⟨disconnectInternal_time quiet leaves, rfl⟩

/-- **The end of the connection process**: what `Update` checks at the end of a token's lifetime. -/
theorem checkTimeouts_expired (quiet : config.NonReentrant) {token : ConnectToken} {start : ℚ}
    (settled : c.Settled) (network : c.loopback = false) (atFirst : AtFirst token start c)
    (late : ((token.expireTimestamp - token.createTimestamp).toNat : ℚ) ≤ c.time - start)
    (done : checkTimeouts env config c = some c') (connecting : c'.Connecting) :
    0 < c'.serverAddressIndex := by
  by_cases before : c.Connecting ∧ c.serverAddressIndex = 0
  · obtain ⟨isToken, isStart⟩ := atFirst.connecting before.1 before.2
    unfold checkTimeouts at done
    rw [if_pos] at done
    · exact absurd connecting.active (disconnectInternal_idle quiet (by decide) done)
    · refine ⟨before.1.active, ?_, ?_⟩
      · rcases before.1 with state | state
        · rw [state]; decide
        · rw [state]; decide
      · rw [isToken, isStart]
        exact env.float64_mono late
  · cases checkTimeouts_checked quiet settled network done with
    | waits => exact Nat.pos_of_ne_zero fun first => before ⟨connecting, first⟩
    | next => exact Nat.succ_pos _
    | ends destination idle => exact absurd connecting.active (not_lt.mpr idle)

theorem sendPackets_time (env : Platform) (c : Client) : (sendPackets env c).time = c.time := by
  unfold sendPackets
  split_ifs
  · rfl
  · cases c.state <;> rfl

/-- An `Update` after the token's lifetime. -/
theorem update_expired (quiet : config.NonReentrant) {token : ConnectToken} {start time : ℚ}
    {batch : List Datagram} (settled : c.Settled) (held : c.LoopbackConnected)
    (atFirst : AtFirst token start c)
    (late : ((token.expireTimestamp - token.createTimestamp).toNat : ℚ) ≤ time - start)
    (done : update env config c time batch = some c') (connecting : c'.Connecting) :
    0 < c'.serverAddressIndex := by
  unfold update at done
  dsimp only at done
  split_ifs at done with loopback
  · cases done
    rw [show c.loopback = false from connecting.network held] at loopback
    cases loopback
  · obtain ⟨middle, receives, checks⟩ := Option.bind_eq_some_iff.mp done
    obtain ⟨chain, same, isTime⟩ := receivePackets_chain quiet receives
    have network : middle.loopback = false := same.trans (by simpa using loopback)
    have whole : ReflTransGen (Micro env false) { c with time := time } (sendPackets env middle) :=
      chain.trans (sendPackets_chain env network)
    have ticked : AtFirst token start { c with time := time } := ⟨atFirst.connecting, atFirst.alone⟩
    have settledT : Settled { c with time := time } := ⟨settled.state, settled.active⟩
    refine checkTimeouts_expired quiet (settled_of_chain settledT whole)
      ((sendPackets_loopback env middle).trans network) (ticked.steps whole) ?_ checks connecting
    rw [sendPackets_time, isTime]
    exact late

/-- **What holds after a `Connect` holds until the next one**, if every other step keeps it. -/
theorem Since.keeps (inv : Client → Prop) (quiet : config.NonReentrant)
    (micro : ∀ c c', c.LoopbackConnected → inv c → Micro env false c c' → inv c')
    (since : Since env config first last) (settled : first.Settled) (held : first.LoopbackConnected)
    (start : inv first) : last.Settled ∧ last.LoopbackConnected ∧ inv last := by
  induction since with
  | connected => exact ⟨settled, held, start⟩
  | step _ call other done ih =>
    obtain ⟨settled, holds⟩ := ih
    have chain := step_chain quiet settled done
    refine ⟨settled_of_chain settled chain, ?_⟩
    rw [other] at chain
    exact Trace.chain_keeps (fun c => c.LoopbackConnected ∧ inv c) (fun c c' holds step =>
      ⟨step.loopbackConnected holds.1, micro c c' holds.1 holds.2 step⟩) holds chain

/-- **The lifetime of a token bounds the connection process to its first server.** An `Update` that is
the lifetime of the token or more after `Connect` ends the process, whatever came in between, if the
client has not turned to another server, and so in any case if its token lists only one. -/
theorem token_expiry_ends_connecting (quiet : config.NonReentrant) {calls : List Call} {data : Bytes}
    {time : ℚ} {batch : List Datagram} (run : Run env config calls c)
    (done : connect env config c data = some first)
    (accepted : first.state = .sendingConnectionRequest) (since : Since env config first last)
    (late : ((first.connectToken.expireTimestamp - first.connectToken.createTimestamp).toNat : ℚ) ≤
      time - c.time)
    (updated : update env config last time batch = some c')
    (stayed : c'.serverAddressIndex = 0 ∨ first.connectToken.numServerAddresses = 1) :
    c'.state ≠ .sendingConnectionRequest ∧ c'.state ≠ .sendingConnectionResponse := by
  have runFirst : Run env config (.connect data :: calls) first := .step run (.connect data) done
  obtain ⟨start, index⟩ := connect_start quiet done accepted
  have always : ∀ {last}, Since env config first last → last.Settled ∧ last.LoopbackConnected ∧
      AtFirst first.connectToken c.time last :=
    fun since => since.keeps _ quiet (fun _ _ _ atFirst micro => atFirst.micro micro)
      (runFirst.settled quiet) (runFirst.loopbackConnected quiet)
      ⟨fun _ _ => ⟨rfl, start⟩, fun few => ⟨few, index⟩⟩
  obtain ⟨settled, held, atFirst⟩ := always since
  have still : c'.serverAddressIndex = 0 := by
    rcases stayed with zero | single
    · exact zero
    · exact ((always (.step since (.update time batch) rfl updated)).2.2.alone single.le).2
  have ended : ¬ c'.Connecting := fun connecting =>
    absurd (update_expired quiet settled held atFirst late updated connecting) (by omega)
  exact ⟨fun state => ended (.inl state), fun state => ended (.inr state)⟩

/-- A client connects to one server that does not answer: with a lifetime of ten seconds the process
is over when ten seconds have passed. -/
theorem token_expiry_ends_connecting_unanswered :
    ∃ first last : Client, connect samplePlatform Sample.clientConfig (new 0)
        (Sample.connectTokenData Sample.first 1010 [Sample.serverAddress]) = some first ∧
      first.state = .sendingConnectionRequest ∧
      update samplePlatform Sample.clientConfig first 10 [] = some last ∧
      last.state ≠ .sendingConnectionRequest ∧ last.state ≠ .sendingConnectionResponse := by
  have runs : ((connect samplePlatform Sample.clientConfig (new 0)
      (Sample.connectTokenData Sample.first 1010 [Sample.serverAddress])).map fun first =>
        (first.state, first.connectToken.numServerAddresses,
          (first.connectToken.expireTimestamp - first.connectToken.createTimestamp).toNat,
          (update samplePlatform Sample.clientConfig first 10 []).isSome)) =
      some (.sendingConnectionRequest, 1, 10, true) := by
    decide +kernel
  obtain ⟨first, done, facts⟩ := Option.map_eq_some_iff.mp runs
  simp only [Prod.mk.injEq] at facts
  obtain ⟨accepted, oneServer, lifetime, returns⟩ := facts
  obtain ⟨last, updated⟩ := Option.isSome_iff_exists.mp returns
  refine ⟨first, last, done, accepted, updated, ?_⟩
  refine token_expiry_ends_connecting Sample.clientConfig_nonReentrant (.new 0) done accepted
    .connected ?_ updated (.inr oneServer)
  rw [lifetime]
  norm_num [new]

/-! ### A further server -/

/-- **With each further server the lifetime starts anew.** A token of ten seconds lists two servers,
and a server is given five seconds. Neither answers. After six seconds the client turns to the second
server; ten seconds after `Connect` it still sends requests, and it was never connected. -/
theorem expiry_restarts_at_next_server :
    ∃ first moved late : Client, connect samplePlatform Sample.clientConfig (new 0)
        (Sample.connectTokenData { Sample.first with timeoutSeconds := 5 } 1010
          [Sample.serverAddress, Sample.secondAddress]) = some first ∧
      first.state = .sendingConnectionRequest ∧
      update samplePlatform Sample.clientConfig first 6 [] = some moved ∧
      update samplePlatform Sample.clientConfig moved 10 [] = some late ∧
      ((first.connectToken.expireTimestamp - first.connectToken.createTimestamp).toNat : ℚ) ≤ 10 - 0 ∧
      .state .connected ∉ late.trace ∧ late.state = .sendingConnectionRequest := by
  have runs : ((connect samplePlatform Sample.clientConfig (new 0)
      (Sample.connectTokenData { Sample.first with timeoutSeconds := 5 } 1010
        [Sample.serverAddress, Sample.secondAddress])).map fun first =>
        (first.state,
          (first.connectToken.expireTimestamp - first.connectToken.createTimestamp).toNat,
          (update samplePlatform Sample.clientConfig first 6 []).map fun moved =>
            (update samplePlatform Sample.clientConfig moved 10 []).map fun late =>
              (decide (.state .connected ∉ late.trace), late.state))) =
      some (.sendingConnectionRequest, 10,
        some (some (true, .sendingConnectionRequest))) := by
    decide +kernel
  obtain ⟨first, done, facts⟩ := Option.map_eq_some_iff.mp runs
  simp only [Prod.mk.injEq] at facts
  obtain ⟨accepted, lifetime, facts⟩ := facts
  obtain ⟨moved, moves, facts⟩ := Option.map_eq_some_iff.mp facts
  obtain ⟨late, ends, facts⟩ := Option.map_eq_some_iff.mp facts
  simp only [Prod.mk.injEq, decide_eq_true_eq] at facts
  refine ⟨first, moved, late, done, accepted, moves, ends, ?_, facts⟩
  rw [lifetime]
  norm_num

end Netcode.Client
