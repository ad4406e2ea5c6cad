/-
**What the client sends to the server.**

`SendPacket` takes the next sequence number of the client, and in its one connection the client does
not come back to a number: the number tells its payloads apart.

* `sends` — the payloads given to `SendPacket`, with their numbers;
* `Run.outgoing` — **their numbers are different** if the client connects once and sends fewer than
  `2 ^ 64` packets.
-/

import Netcode.Client.Connection

namespace Netcode.Client

variable {env : Platform} {connects : Bool} {config : ClientConfig} {c c' : Client}
  {token : ConnectToken}

/-- The payloads given to `SendPacket`, newest first. -/
def sends (trace : List ClientEffect) : List (Bytes × UInt64) :=
  trace.filterMap fun
    | .submitted payload n => some (payload, n)
    | _ => none

/-- **The payloads have different numbers**, all behind the counter. -/
structure Outgoing (c : Client) : Prop where
  counted : c.loopback = false → c.sequence.toNat ≤ sendCount c.trace
  idle : connections c.trace = [] → sends c.trace = []
  bounded : ∀ entry ∈ sends c.trace, entry.2.toNat < sendCount c.trace
  below : c.Sending → ∀ entry ∈ sends c.trace, entry.2.toNat < c.sequence.toNat
  once : ((sends c.trace).map Prod.snd).Nodup

/-- Nothing was sent yet. -/
theorem Outgoing.of_none (counted : c.loopback = false → c.sequence.toNat ≤ sendCount c.trace)
    (none : sends c.trace = []) : Outgoing c where
  counted := counted
  idle := fun _ => none
  bounded := fun entry member => by rw [none] at member; cases member
  below := fun _ entry member => by rw [none] at member; cases member
  once := by rw [none]; exact List.nodup_nil

/-- Quiet effects submit nothing. -/
theorem sends_unsent {new : List ClientEffect} (none : new.all unsent = true)
    (trace : List ClientEffect) : sends (new ++ trace) = sends trace := by
  refine filterMap_unsent none (fun effect quiet => ?_) trace
  cases effect with
  | submitted => cases quiet
  | _ => rfl

/-- Quiet effects take up no token. -/
theorem connections_unsent {new : List ClientEffect} (none : new.all unsent = true)
    (trace : List ClientEffect) : connections (new ++ trace) = connections trace := by
  refine filterMap_unsent none (fun effect quiet => ?_) trace
  cases effect with
  | connecting => cases quiet
  | _ => rfl

/-- **A packet is sent** under the next number. -/
theorem Outgoing.send (inv : Outgoing c) (first : FirstConnection env token c) {p : Packet}
    {note : List ClientEffect} (sending : c.Sending) (kind : c.Sends p note)
    (few : sendCount (sendPacketToServerInternal env { c with trace := note ++ c.trace } p).trace <
      2 ^ 64) :
    Outgoing (sendPacketToServerInternal env { c with trace := note ++ c.trace } p) := by
  have count : sendCount (sendPacketToServerInternal env { c with trace := note ++ c.trace } p).trace =
      sendCount c.trace + 1 := by
    cases kind <;> simp [sendPacketToServerInternal, sealing, sendCount, requestPacket]
  have counted := inv.counted sending.2
  have next : (sendPacketToServerInternal env { c with trace := note ++ c.trace } p).sequence.toNat =
      c.sequence.toNat + 1 := by
    have room : c.sequence.toNat + 1 < 2 ^ 64 := by omega
    exact toNat_succ room
  have sameTokens : connections
      (sendPacketToServerInternal env { c with trace := note ++ c.trace } p).trace =
        connections c.trace := by
    cases kind <;> rfl
  have isSends : sends (sendPacketToServerInternal env { c with trace := note ++ c.trace } p).trace =
      sends note ++ sends c.trace := by
    cases kind <;> rfl
  have fresh : ∀ entry ∈ sends note, entry.2 = c.sequence := by
    cases kind <;> simp [sends]
  refine ⟨fun _ => by omega, fun none => ?_, fun entry member => ?_, fun _ entry member => ?_, ?_⟩
  · exact absurd sending (first.idle (sameTokens ▸ none)).1
  · rw [count]
    rw [isSends] at member
    rcases List.mem_append.mp member with new | old
    · rw [fresh entry new]
      exact Nat.lt_succ_of_le counted
    · exact (inv.bounded entry old).trans (Nat.lt_succ_self _)
  · rw [next]
    rw [isSends] at member
    rcases List.mem_append.mp member with new | old
    · rw [fresh entry new]
      exact Nat.lt_succ_self _
    · exact (inv.below sending entry old).trans (Nat.lt_succ_self _)
  · rw [isSends]
    cases kind with
    | payload payload =>
      refine List.nodup_cons.mpr ⟨fun member => ?_, inv.once⟩
      obtain ⟨entry, before, same⟩ := List.mem_map.mp member
      have less := inv.below sending entry before
      rw [same] at less
      exact lt_irrefl _ less
    | _ => exact inv.once

theorem Outgoing.step (inv : Outgoing c) (first : FirstConnection env token c)
    (step : SendStep env c c') (once : ConnectsOnce token c'.trace)
    (few : sendCount c'.trace < 2 ^ 64) : Outgoing c' := by
  cases step with
  | quiet new trace none counter sending =>
    have same : sends c'.trace = sends c.trace := by rw [trace, sends_unsent none]
    have sameTokens : connections c'.trace = connections c.trace := by
      rw [trace, connections_unsent none]
    have grown : sendCount c.trace ≤ sendCount c'.trace := by
      rw [trace]
      exact sendCount_grown new c.trace
    refine ⟨fun network => ?_, fun none => ?_, fun entry member => ?_, fun sends' entry member => ?_,
      same ▸ inv.once⟩
    · rcases counter network with zero | ⟨sameSequence, before⟩
      · rw [zero]
        exact Nat.zero_le _
      · rw [sameSequence]
        exact (inv.counted before).trans grown
    · rw [same]
      exact inv.idle (sameTokens ▸ none)
    · rw [same] at member
      exact (inv.bounded entry member).trans_le grown
    · obtain ⟨before, sameSequence, -⟩ := sending sends'
      rw [same] at member
      rw [sameSequence]
      exact inv.below before entry member
  | send p note sending kind => exact inv.send first sending kind few
  | begin token' trace network sequence writeKey =>
    rw [trace] at once
    obtain ⟨-, none⟩ := ConnectsOnce.first (once.of_suffix (List.suffix_cons _ _))
    refine .of_none (fun _ => ?_) ?_
    · rw [sequence, trace]
      exact inv.counted network
    · rw [trace]
      exact inv.idle none

/-- **The payloads the client sends have different numbers.** -/
theorem Run.outgoing {calls : List Call} (quiet : config.NonReentrant)
    (single : token.numServerAddresses = 1) (run : Run env config calls c)
    (once : ConnectsOnce token c.trace) (few : sendCount c.trace < 2 ^ 64) : Outgoing c :=
  (Run.along (fun trace => ConnectsOnce token trace ∧ sendCount trace < 2 ^ 64)
    (fun c => c.LoopbackConnected ∧ FirstConnection env token c ∧ Outgoing c) quiet
    (fun _ _ suffix met => ⟨met.1.of_suffix suffix, (suffix.sublist.countP_le).trans_lt met.2⟩)
    (fun time => ⟨fun loopback => (by cases loopback), .new env token time,
      .of_none (fun _ => Nat.zero_le _) rfl⟩)
    (fun _ _ _ micro met held => ⟨micro.loopbackConnected held.1,
      held.2.1.micro held.1 single micro met.1,
      held.2.2.step held.2.1 (micro.sendStep held.1) met.1 met.2⟩)
    run ⟨once, few⟩).2.2

end Netcode.Client
