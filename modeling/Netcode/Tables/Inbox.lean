/-
**The inbox of a receiver.**

Server and client receive payloads in the same way: the replay window lets the packet through, the
payload goes to the end of the queue, and the application takes it from the front. An `Inbox` ties
window and queue to the payloads that were accepted and returned since the session began, both
newest first.

* `Inbox.opened`, `Inbox.push`, `Inbox.pop` — the three steps keep it so;
* `Inbox.inOrder` — **what was returned are the payloads accepted first**, in the order in which they
  were accepted;
* `ReadsAs.received` — a payload that `readPacket` returns was not accepted before.
-/

import Netcode.Codec.Packets
import Netcode.Tables.Queue
import Netcode.Tables.Window

namespace Netcode

/-- What `pop` takes from a queue. -/
def popped (queue : PacketQueue) : List (Bytes × UInt64) :=
  match queue.pop.2.1 with
  | some payload => [(payload, queue.pop.2.2)]
  | none => []

/-- **What window and queue know of the session**: every accepted payload was returned or waits, and
its number does not pass the window again. -/
structure Inbox (window : ReplayProtection) (queue : PacketQueue)
    (accepted returned : List (Bytes × UInt64)) : Prop where
  ok : queue.Ok
  conserved : accepted.map inCell = queue.contents.reverse ++ returned.map inCell
  received : ∀ entry ∈ accepted, entry.2 ≠ noSequence → window.alreadyReceived entry.2 = true
  once : ∀ n, n ≠ noSequence → (accepted.map Prod.snd).count n ≤ 1

/-- The number was recorded after all accepted payloads. -/
def JustReceived (window : ReplayProtection) (accepted : List (Bytes × UInt64)) (n : UInt64) : Prop :=
  n ≠ noSequence → window.alreadyReceived n = true ∧ n ∉ accepted.map Prod.snd

section Inbox

variable {window : ReplayProtection} {queue : PacketQueue} {accepted returned : List (Bytes × UInt64)}
  {n : UInt64}

theorem Inbox.start (ok : queue.Ok) (empty : queue.contents = []) : Inbox window queue [] [] where
  ok := ok
  conserved := by rw [empty]; rfl
  received := fun _ member => by cases member
  once := fun _ _ => Nat.zero_le _

/-- **A packet was opened**: its number is recorded. -/
theorem Inbox.opened (inbox : Inbox window queue accepted returned)
    (fresh : window.alreadyReceived n = false) :
    Inbox (window.advanceSequence n) queue accepted returned ∧
      JustReceived (window.advanceSequence n) accepted n := by
  refine ⟨⟨inbox.ok, inbox.conserved, fun entry member below => ?_, inbox.once⟩, fun below => ⟨?_, ?_⟩⟩
  · exact ReplayProtection.alreadyReceived_kept (inbox.received entry member below) below fresh
  · exact ReplayProtection.alreadyReceived_advance_self window below
  · intro member
    obtain ⟨entry, isAccepted, rfl⟩ := List.mem_map.mp member
    rw [inbox.received entry isAccepted below] at fresh
    cases fresh

/-- **Its payload is queued**, unless the queue is full. -/
theorem Inbox.push (inbox : Inbox window queue accepted returned) (just : JustReceived window accepted n)
    (payload : Bytes) :
    Inbox window (queue.push payload n).1
      ((if (queue.push payload n).2 then [(payload, n)] else []) ++ accepted) returned := by
  have contents := queue.contents_push inbox.ok payload n
  have ok := PacketQueue.ok_push inbox.ok payload n
  generalize queue.push payload n = pushed at contents ok ⊢
  obtain ⟨queue', isPushed⟩ := pushed
  cases isPushed with
  | false =>
    simp only [Bool.false_eq_true, if_false, List.append_nil] at contents
    refine ⟨ok, ?_, inbox.received, inbox.once⟩
    rw [contents]
    exact inbox.conserved
  | true =>
    refine ⟨ok, ?_, fun entry member below => ?_, fun m below => ?_⟩
    · rw [contents]
      simpa [inCell] using inbox.conserved
    · rcases List.mem_cons.mp member with rfl | before
      · exact (just below).1
      · exact inbox.received entry before below
    · show ((n :: accepted.map Prod.snd).count m) ≤ 1
      by_cases same : n = m
      · subst same
        rw [List.count_cons_self, List.count_eq_zero.mpr (just below).2]
      · rw [List.count_cons_of_ne same]
        exact inbox.once m below

/-- **The application takes the oldest payload.** -/
theorem Inbox.pop (inbox : Inbox window queue accepted returned) :
    Inbox window queue.pop.1 accepted (popped queue ++ returned) := by
  have ok := PacketQueue.ok_pop inbox.ok
  rcases queue.contents_pop inbox.ok with ⟨-, none⟩ | contents
  · rw [popped, none]
    exact inbox
  · have held := inbox.ok.held (queue.pop.2.1, queue.pop.2.2) (contents ▸ List.mem_cons_self)
    obtain ⟨payload, isPayload⟩ := Option.ne_none_iff_exists'.mp held
    dsimp only at isPayload
    refine ⟨ok, ?_, inbox.received, inbox.once⟩
    rw [inbox.conserved, contents, popped, isPayload]
    simp [inCell]

/-- **Payloads are returned in the order in which they were accepted.** -/
theorem Inbox.inOrder (inbox : Inbox window queue accepted returned) : returned <:+ accepted := by
  obtain ⟨waiting, rest, rfl, -, isRest⟩ := List.map_eq_append_iff.mp inbox.conserved
  rw [List.map_injective_iff.mpr inCell_injective isRest]
  exact List.suffix_append _ _

/-- **What `readPacket` does to the inbox**: the payload it returns was not accepted before. -/
theorem ReadsAs.received {env : Platform}
    {protocolID currentTimestamp minConnectTokenExpireTimestamp : UInt64}
    {allowedPackets : PacketType → Bool} {buffer : Bytes} {readPacketKey privateKey : Option Key}
    {outcome : ReadOutcome} {call : AeadCall}
    (reads : ReadsAs env protocolID currentTimestamp minConnectTokenExpireTimestamp allowedPackets
      buffer readPacketKey privateKey (some window) outcome)
    (isOpened : outcome.opened = some call)
    (notRequest : ∀ request, outcome.packet ≠ some (.connectionRequest request))
    (inbox : Inbox window queue accepted returned) :
    ∃ window', outcome.replayProtection = some window' ∧ Inbox window' queue accepted returned ∧
      ∀ payload n, Decodes protocolID call (.connectionPayload payload) n →
        JustReceived window' accepted n := by
  cases reads with
  | ignored => cases isOpened
  | request key request => exact absurd rfl (notRequest request)
  | encrypted key prefixByte type sequenceData sequence call' packet isKey bytes notRequest isType
      allowed sequenceLength sequenceRange isSequence notReplayed opens decodes =>
    cases isOpened
    dsimp only [advanceReplay]
    split_ifs with isProtected
    · obtain ⟨kept, just⟩ := inbox.opened (notReplayed isProtected window rfl)
      refine ⟨_, rfl, kept, fun payload n reading => ?_⟩
      obtain ⟨-, isNonce, -⟩ := decryptAEAD_eq_some opens
      rw [packetNonce_injective (reading.nonce.symm.trans isNonce)]
      exact just
    · -- a payload packet is one of those the window protects
      refine ⟨window, rfl, inbox, fun payload n reading => absurd ?_ isProtected⟩
      obtain ⟨-, -, isAdditional, -⟩ := decryptAEAD_eq_some opens
      obtain ⟨prefixByte', type', additional, isType', isPayload⟩ := reading.fields
      rw [← (packetAdditionalData_injective (isAdditional.symm.trans additional)).2, isType] at isType'
      cases isType'
      rw [← decodePacket_type isPayload]
      rfl

end Inbox

end Netcode
