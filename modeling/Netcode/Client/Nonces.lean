/-
**A client seals each packet of a token under its own sequence number.**

The client numbers its packets from zero, requests included, and the count goes on when it turns to
the next server of its token. It starts anew with `resetConnectionData`, and the key is then gone: a
key meets a second count only if `Connect` takes up a token with that key again.

* `client_nonces_unique` — **no key and sequence number is used twice**, if `Connect` is not given a
  token under whose key packets were sealed before;
* `sequence_reused_by_reconnect` — without that, the disconnect packets of the first attempt and the
  response of the second share a key and a number.
-/

import Netcode.Client.Expiry

namespace Netcode

open Trace

/-! ### What was sealed -/

namespace Client

/-- The keys and sequence numbers the client sealed with. -/
def seals (trace : List ClientEffect) : List (Key × UInt64) :=
  trace.filterMap fun
    | .sealed _ sequence call => some (call.key, sequence)
    | _ => none

/-- How many packets the client sent, requests included. -/
def sendCount (trace : List ClientEffect) : Nat :=
  trace.countP fun
    | .sent _ _ => true
    | _ => false

/-- The token `Connect` takes up. -/
def takesUp : ClientEffect → Option ConnectToken
  | .connecting token => some token
  | _ => none

/-- **`Connect` is not given a token under whose key the client has sealed a packet.** -/
def UnusedTokens (trace : List ClientEffect) : Prop :=
  Always (fun effect earlier => ∀ token ∈ takesUp effect,
    ∀ used ∈ seals earlier, used.1 ≠ token.clientToServerKey) trace

instance (trace : List ClientEffect) : Decidable (UnusedTokens trace) :=
  inferInstanceAs (Decidable (Always _ trace))

/-- The client talks to a server. -/
def Sending (c : Client) : Prop := c.Active ∧ c.loopback = false

/-- Effects that neither send nor take up a token. -/
def unsent : ClientEffect → Bool
  | .connecting _ | .sealed _ _ _ | .submitted _ _ => false
  | _ => true

/-- **What one step can do to the sending side**: nothing but that the client stops sending, send a
packet under the next number, or take up a token. -/
inductive SendStep (env : Platform) (c : Client) : Client → Prop
  | quiet {c' : Client} (new : List ClientEffect) (trace : c'.trace = new ++ c.trace)
      (none : new.all unsent = true)
      (counter : c'.loopback = false →
        c'.sequence = 0 ∨ c'.sequence = c.sequence ∧ c.loopback = false)
      (sending : c'.Sending →
        c.Sending ∧ c'.sequence = c.sequence ∧ c'.writePacketKey = c.writePacketKey) :
      SendStep env c c'
  | send (p : Packet) (note : List ClientEffect) (sending : c.Sending) (kind : c.Sends p note) :
      SendStep env c (sendPacketToServerInternal env { c with trace := note ++ c.trace } p)
  | begin {c' : Client} (token : ConnectToken)
      (trace : c'.trace = .state .sendingConnectionRequest :: .connecting token :: c.trace)
      (network : c.loopback = false) (sequence : c'.sequence = c.sequence)
      (writeKey : c'.writePacketKey = token.clientToServerKey) : SendStep env c c'

/-- **The counter is ahead of what was sealed under the key.** -/
structure Nonces (c : Client) : Prop where
  counted : c.loopback = false → c.sequence.toNat ≤ sendCount c.trace
  below : c.Sending → ∀ used ∈ seals c.trace, used.1 = c.writePacketKey →
    used.2.toNat < c.sequence.toNat
  unique : (seals c.trace).Nodup

variable {env : Platform} {connects : Bool} {config : ClientConfig} {c c' : Client}

theorem Micro.sendStep (micro : Micro env connects c c') (held : c.LoopbackConnected) :
    SendStep env c c' := by
  cases micro with
  | tick | giveUp | hear | clear =>
    exact .quiet [] rfl rfl (fun network => .inr ⟨rfl, network⟩) fun sends => ⟨sends, rfl, rfl⟩
  | openPacket source data currentTimestamp outcome call hasKeys reads isOpened =>
    exact .quiet [.opened source call] (applyReading_trace isOpened) rfl
      (fun network => .inr ⟨rfl, network⟩) fun sends => ⟨sends, rfl, rfl⟩
  | push source payload sequence | pushLoopback payload sequence =>
    exact .quiet _ (pushPayload_trace c payload sequence) (by split_ifs <;> rfl)
      (fun network => .inr ⟨rfl, network⟩) fun sends => ⟨sends, rfl, rfl⟩
  | deliver =>
    exact .quiet _ (receivePacket_trace c) (by split <;> rfl)
      (fun network => .inr ⟨rfl, network⟩) fun sends => ⟨sends, rfl, rfl⟩
  | challenge source challengeTokenSequence challengeTokenData sequence call state
  | establish source clientIndex maxClients sequence call state =>
    exact .quiet [_] rfl rfl (fun network => .inr ⟨rfl, network⟩)
      fun sends => ⟨⟨active_of_state _ state (by decide), sends.2⟩, rfl, rfl⟩
  | send p note active network kind => exact .send p note ⟨active, network⟩ kind
  | begin data token serverAddress allowed idle =>
    refine .begin token rfl ?_ rfl rfl
    by_contra loopback
    exact idle (active_of_state _ (held (by simpa using loopback)) (by decide))
  | reject data token allowed idle =>
    exact .quiet [_] rfl rfl (fun network => .inr ⟨rfl, network⟩) fun sends => absurd sends.1
      (not_lt.mpr (show ClientState.invalidConnectToken.code ≤ 0 by decide))
  | nextServer serverAddress active network =>
    exact .quiet [_] rfl rfl (fun network => .inr ⟨rfl, network⟩)
      fun sends => ⟨⟨active, network⟩, rfl, rfl⟩
  | reset destination idle =>
    exact .quiet [_] rfl rfl (fun _ => .inl rfl) fun sends => absurd sends.1 (not_lt.mpr idle)
  | connectLoopback clientIndex maxClients =>
    exact .quiet [] rfl rfl (fun network => by cases network) fun sends => by cases sends.2
  | sendLoopback payload loopback =>
    have loops : ∀ {value}, c.loopback = value → value = true := fun same => same.symm.trans loopback
    exact .quiet [_] rfl rfl (fun network => by cases loops network)
      fun sends => by cases loops sends.2

/-- What is read off effects that send is not changed by quiet ones. -/
theorem filterMap_unsent {β : Type} {f : ClientEffect → Option β} {new : List ClientEffect}
    (all : new.all unsent = true) (quiet : ∀ effect, unsent effect = true → f effect = none)
    (trace : List ClientEffect) : (new ++ trace).filterMap f = trace.filterMap f := by
  have nothing : new.filterMap f = [] := List.filterMap_eq_nil_iff.mpr fun effect member =>
    quiet effect (List.all_eq_true.mp all effect member)
  rw [List.filterMap_append, nothing, List.nil_append]

/-- Quiet effects seal nothing. -/
theorem seals_unsent {new : List ClientEffect} (none : new.all unsent = true)
    (trace : List ClientEffect) : seals (new ++ trace) = seals trace := by
  refine filterMap_unsent none (fun effect quiet => ?_) trace
  cases effect with
  | sealed => cases quiet
  | _ => rfl

theorem sendCount_grown (new trace : List ClientEffect) :
    sendCount trace ≤ sendCount (new ++ trace) := by
  rw [sendCount, sendCount, List.countP_append]
  exact Nat.le_add_left _ _

/-- **A packet is sent**: it takes the next number. -/
theorem Nonces.send (inv : Nonces c) (p : Packet) (sending : c.Sending)
    (few : sendCount (sendPacketToServerInternal env c p).trace < 2 ^ 64) :
    Nonces (sendPacketToServerInternal env c p) := by
  have count : sendCount (sendPacketToServerInternal env c p).trace = sendCount c.trace + 1 := by
    cases p <;> simp [sendPacketToServerInternal, sealing, sendCount]
  have counted := inv.counted sending.2
  have next : (sendPacketToServerInternal env c p).sequence.toNat = c.sequence.toNat + 1 :=
    toNat_succ (by omega)
  refine ⟨fun _ => by omega, fun _ used member isKey => ?_, ?_⟩
  · rw [next]
    cases p with
    | connectionRequest => exact (inv.below sending used member isKey).trans (Nat.lt_succ_self _)
    | _ =>
      rcases List.mem_cons.mp member with rfl | before
      · exact Nat.lt_succ_self _
      · exact (inv.below sending used before isKey).trans (Nat.lt_succ_self _)
  · cases p with
    | connectionRequest => exact inv.unique
    | _ =>
      exact List.nodup_cons.mpr
        ⟨fun before => absurd (inv.below sending _ before rfl) (lt_irrefl _), inv.unique⟩

theorem Nonces.step (inv : Nonces c) (step : SendStep env c c') (unused : UnusedTokens c'.trace)
    (few : sendCount c'.trace < 2 ^ 64) : Nonces c' := by
  cases step with
  | quiet new trace none counter sending =>
    have same : seals c'.trace = seals c.trace := by rw [trace, seals_unsent none]
    refine ⟨fun network => ?_, fun sends used member isKey => ?_, same ▸ inv.unique⟩
    · rcases counter network with zero | ⟨sameSequence, before⟩
      · rw [zero]
        exact Nat.zero_le _
      · rw [sameSequence, trace]
        exact (inv.counted before).trans (sendCount_grown new c.trace)
    · rw [same] at member
      obtain ⟨before, sameSequence, sameKey⟩ := sending sends
      rw [sameSequence]
      exact inv.below before used member (isKey.trans sameKey)
  | send p note sending kind =>
    have noted : Nonces { c with trace := note ++ c.trace } := by
      have same : seals (note ++ c.trace) = seals c.trace := by cases kind <;> rfl
      refine ⟨fun network => (inv.counted network).trans (sendCount_grown note c.trace),
        fun sends used member => ?_, same ▸ inv.unique⟩
      exact inv.below sends used (same ▸ member)
    exact noted.send p sending few
  | begin token trace network sequence writeKey =>
    rw [trace] at unused
    have same : seals c'.trace = seals c.trace := by rw [trace]; rfl
    refine ⟨fun _ => ?_, fun _ used member isKey => ?_, same ▸ inv.unique⟩
    · rw [sequence, trace]
      exact inv.counted network
    · rw [same] at member
      exact absurd (isKey.trans writeKey) (unused.2.1 token rfl used member)

theorem Nonces.new (time : ℚ) : Nonces (new time) where
  counted := fun _ => Nat.zero_le _
  below := fun _ _ member => by cases member
  unique := List.nodup_nil

theorem Run.nonces {calls : List Call} (quiet : config.NonReentrant) (run : Run env config calls c)
    (unused : UnusedTokens c.trace) (few : sendCount c.trace < 2 ^ 64) : Nonces c :=
  (Run.along (fun trace => UnusedTokens trace ∧ sendCount trace < 2 ^ 64)
    (fun c => c.LoopbackConnected ∧ Nonces c) quiet
    (fun _ _ suffix met => ⟨met.1.of_suffix suffix, (suffix.sublist.countP_le).trans_lt met.2⟩)
    (fun time => ⟨fun loopback => (by cases loopback), .new time⟩)
    (fun _ _ _ micro met held => ⟨micro.loopbackConnected held.1,
      held.2.step (micro.sendStep held.1) met.1 met.2⟩) run ⟨unused, few⟩).2

/-- **The client never seals twice with one key and sequence number**, over any calls and whatever
arrives, as long as it does not come back to a token under whose key it has sealed packets. -/
theorem client_nonces_unique {calls : List Call} (quiet : config.NonReentrant)
    (run : Run env config calls c) (unused : UnusedTokens c.trace)
    (few : sendCount c.trace < 2 ^ 64) : (seals c.trace).Nodup :=
  (run.nonces quiet unused few).unique

end Client

/-! ### Coming back to a token -/

namespace Sample

/-- What a client with the first token is given. -/
def firstToken : Bytes := connectTokenData first 1040 [serverAddress]

/-- The server's first challenge token for it. -/
def firstChallenge : FixedBytes challengeTokenBytes :=
  .copyFrom challengeTokenBytes (encryptChallengeToken samplePlatform
    (ChallengeToken.write ⟨first.clientID, first.userData⟩) 0 challengeKey).ciphertext

/-- The challenge as it arrives from the server. -/
def challenge : Client.Datagram :=
  ⟨serverAddress, writePacket samplePlatform (.connectionChallenge 0 firstChallenge)
    globalSequenceStart first.serverToClientKey protocolID, 1001⟩

/-- Connect, answer the challenge, disconnect; then connect with another token and disconnect. -/
def twoTokens : List Client.Call :=
  [.connect firstToken, .update 1 [],
    .update 2 [challenge], .disconnect,
    .connect (connectTokenData second 1040 [serverAddress]), .disconnect]

/-- Connect and disconnect; then connect with the same token and answer the challenge. -/
def reconnect : List Client.Call :=
  [.connect firstToken, .disconnect, .connect firstToken, .update 1 [],
    .update 2 [challenge]]

end Sample

namespace Client

/-- Two tokens, one after the other. -/
theorem client_nonces_unique_two_tokens :
    ∃ c calls, Run samplePlatform Sample.clientConfig calls c ∧ (seals c.trace).length = 21 ∧
      (seals c.trace).Nodup := by
  have runs : (execute samplePlatform Sample.clientConfig (new 0) Sample.twoTokens).map
      (fun c => decide (UnusedTokens c.trace ∧ sendCount c.trace < 2 ^ 64 ∧
        (seals c.trace).length = 21)) = some true := by
    decide +kernel
  obtain ⟨c, done, facts⟩ := Option.map_eq_some_iff.mp runs
  obtain ⟨unused, few, count⟩ := of_decide_eq_true facts
  have run := Run.execute (.new 0) done
  exact ⟨c, _, run, count, client_nonces_unique Sample.clientConfig_nonReentrant run unused few⟩

/-- **A client that comes back to its token reuses its sequence numbers.** The first attempt is given
up, which seals ten disconnect packets, from number zero on. The second one starts at zero again: its
request takes that number, and its response is sealed under the next. -/
theorem sequence_reused_by_reconnect :
    ∃ c calls, Run samplePlatform Sample.clientConfig calls c ∧ sendCount c.trace < 2 ^ 64 ∧
      ((c.trace.filterMap takesUp).map ConnectToken.clientToServerKey) =
        [Sample.first.clientToServerKey, Sample.first.clientToServerKey] ∧
      .sealed .connectionDisconnect 1 (sealPacket samplePlatform .connectionDisconnect 1
        Sample.first.clientToServerKey Sample.protocolID) ∈ c.trace ∧
      .sealed (.connectionResponse 0 Sample.firstChallenge) 1 (sealPacket samplePlatform
        (.connectionResponse 0 Sample.firstChallenge) 1 Sample.first.clientToServerKey
        Sample.protocolID) ∈ c.trace := by
  have runs : (execute samplePlatform Sample.clientConfig (new 0) Sample.reconnect).map
      (fun c => decide (sendCount c.trace < 2 ^ 64 ∧
        ((c.trace.filterMap takesUp).map ConnectToken.clientToServerKey) =
          [Sample.first.clientToServerKey, Sample.first.clientToServerKey] ∧
        .sealed .connectionDisconnect 1 (sealPacket samplePlatform .connectionDisconnect 1
          Sample.first.clientToServerKey Sample.protocolID) ∈ c.trace ∧
        .sealed (.connectionResponse 0 Sample.firstChallenge) 1 (sealPacket samplePlatform
          (.connectionResponse 0 Sample.firstChallenge) 1 Sample.first.clientToServerKey
          Sample.protocolID) ∈ c.trace)) = some true := by
    decide +kernel
  obtain ⟨c, done, facts⟩ := Option.map_eq_some_iff.mp runs
  exact ⟨c, _, Run.execute (.new 0) done, of_decide_eq_true facts⟩

end Client

end Netcode
