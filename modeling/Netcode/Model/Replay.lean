/-
**Replay protection and the packet queue.**

`replay.go`: the window of the last 256 sequence numbers, each remembered at its number modulo 256,
with `0xFFFFFFFFFFFFFFFF` for "nothing yet". A received number below the sentinel stays received
whatever is received after it (`alreadyReceived_advance`), and is received once it is recorded
(`alreadyReceived_advance_self`).

`queue.go`: the ring of 256 payloads waiting for the application. Its contents are a list
(`PacketQueue.contents`) that `push` appends to and `pop` takes the head of.
-/

import Netcode.Model.Basic
import Netcode.Lib.Ring

namespace Netcode

/-! ### Replay protection -/

/-- The mark of a cell that has received nothing. -/
def noSequence : UInt64 := 0xFFFFFFFFFFFFFFFF

structure ReplayProtection where
  mostRecentSequence : UInt64
  receivedPacket : Nat → UInt64

namespace ReplayProtection

def reset : ReplayProtection := ⟨0, fun _ => noSequence⟩

/-- The cell of a sequence number. -/
def index (sequence : UInt64) : Nat := sequence.toNat % replayProtectionBufferSize

def alreadyReceived (r : ReplayProtection) (sequence : UInt64) : Bool :=
  if 256 ≤ r.mostRecentSequence ∧ sequence ≤ r.mostRecentSequence - 256 then true
  else if r.receivedPacket (index sequence) = noSequence then false
  else decide (sequence ≤ r.receivedPacket (index sequence))

def advanceSequence (r : ReplayProtection) (sequence : UInt64) : ReplayProtection :=
  { mostRecentSequence := if sequence > r.mostRecentSequence then sequence else r.mostRecentSequence
    receivedPacket := Function.update r.receivedPacket (index sequence) sequence }

/-- `alreadyReceived` in natural numbers. -/
theorem alreadyReceived_iff (r : ReplayProtection) (sequence : UInt64) :
    r.alreadyReceived sequence = true ↔
      256 + sequence.toNat ≤ r.mostRecentSequence.toNat ∨
        r.receivedPacket (index sequence) ≠ noSequence ∧
          sequence.toNat ≤ (r.receivedPacket (index sequence)).toNat := by
  have far : (256 ≤ r.mostRecentSequence ∧ sequence ≤ r.mostRecentSequence - 256) ↔
      256 + sequence.toNat ≤ r.mostRecentSequence.toNat := by
    constructor
    · rintro ⟨large, below⟩
      rw [UInt64.le_iff_toNat_le, UInt64.toNat_sub_of_le _ _ large] at below
      rw [UInt64.le_iff_toNat_le] at large
      change 256 ≤ _ at large
      change _ ≤ _ - 256 at below
      omega
    · intro above
      have large : (256 : UInt64) ≤ r.mostRecentSequence := by
        rw [UInt64.le_iff_toNat_le]
        change 256 ≤ _
        omega
      refine ⟨large, ?_⟩
      rw [UInt64.le_iff_toNat_le, UInt64.toNat_sub_of_le _ _ large]
      change _ ≤ _ - 256
      omega
  unfold alreadyReceived
  split_ifs with old fresh
  · simp [far.mp old]
  · simp [mt far.mpr old, fresh]
  · simp [mt far.mpr old, fresh, UInt64.le_iff_toNat_le]

/-- A recorded number below the sentinel is received. -/
theorem alreadyReceived_advance_self (r : ReplayProtection) {sequence : UInt64}
    (below : sequence ≠ noSequence) :
    (r.advanceSequence sequence).alreadyReceived sequence = true := by
  rw [alreadyReceived_iff]
  right
  simp [advanceSequence, below]

/-- **Receiving more never forgets**: a received number stays received when another one that was
not yet received is recorded. -/
theorem alreadyReceived_advance (r : ReplayProtection) {sequence other : UInt64}
    (received : r.alreadyReceived sequence = true) (fresh : r.alreadyReceived other = false)
    (below : other ≠ noSequence) :
    (r.advanceSequence other).alreadyReceived sequence = true := by
  have notOther : ¬ r.alreadyReceived other = true := by simp [fresh]
  rw [alreadyReceived_iff] at received notOther ⊢
  push Not at notOther
  rcases received with far | ⟨recorded, within⟩
  · left
    have grows : r.mostRecentSequence.toNat ≤ (r.advanceSequence other).mostRecentSequence.toNat := by
      simp only [advanceSequence]
      split_ifs with newer
      · exact Nat.le_of_lt (UInt64.lt_iff_toNat_lt.mp newer)
      · exact Nat.le_refl _
    omega
  · right
    by_cases same : index sequence = index other
    · -- the cell is overwritten, but by a larger number: a smaller one would have been received
      have larger := notOther.2 (same ▸ recorded)
      rw [← same] at larger
      simp only [advanceSequence, same, Function.update_self]
      exact ⟨below, by omega⟩
    · simp only [advanceSequence, Function.update_of_ne same]
      exact ⟨recorded, within⟩

end ReplayProtection

/-! ### The packet queue -/

/-- A fixed size ring of received payloads, each with the sequence number it arrived under. A cell
without a payload is Go's `nil` pointer. -/
structure PacketQueue where
  numPackets : Nat
  startIndex : Nat
  packets : Nat → Option Bytes
  sequences : Nat → UInt64

namespace PacketQueue

/-- The zero value, which is also what `clear` leaves. -/
def clear : PacketQueue := ⟨0, 0, fun _ => none, fun _ => 0⟩

/-- `push`; a full queue drops the packet and returns `false`. -/
def push (q : PacketQueue) (packet : Bytes) (sequence : UInt64) : PacketQueue × Bool :=
  if q.numPackets = packetQueueSize then (q, false)
  else
    let index := (q.startIndex + q.numPackets) % packetQueueSize
    ({ q with
        packets := Function.update q.packets index (some packet)
        sequences := Function.update q.sequences index sequence
        numPackets := q.numPackets + 1 }, true)

def pop (q : PacketQueue) : PacketQueue × Option Bytes × UInt64 :=
  if q.numPackets = 0 then (q, none, 0)
  else
    ({ q with
        packets := Function.update q.packets q.startIndex none
        startIndex := (q.startIndex + 1) % packetQueueSize
        numPackets := q.numPackets - 1 }, q.packets q.startIndex, q.sequences q.startIndex)

/-- The waiting payloads, oldest first. -/
def contents (q : PacketQueue) : List (Option Bytes × UInt64) :=
  Ring.window packetQueueSize q.startIndex q.numPackets fun cell => (q.packets cell, q.sequences cell)

/-- The ring's indices are in range and every waiting cell holds a payload. -/
structure Ok (q : PacketQueue) : Prop where
  count : q.numPackets ≤ packetQueueSize
  start : q.startIndex < packetQueueSize
  held : ∀ entry ∈ q.contents, entry.1 ≠ none

@[simp] theorem contents_clear : clear.contents = [] := rfl

theorem ok_clear : clear.Ok := ⟨Nat.zero_le _, by decide, by simp⟩

/-- **`push` appends** unless the queue is full. -/
theorem contents_push (q : PacketQueue) (ok : q.Ok) (packet : Bytes) (sequence : UInt64) :
    (q.push packet sequence).1.contents =
      q.contents ++ (if (q.push packet sequence).2 then [(some packet, sequence)] else []) := by
  unfold push
  split_ifs with full accepted accepted
  · cases accepted
  · simp
  · have room : q.numPackets < packetQueueSize := lt_of_le_of_ne ok.count full
    have pairs : (fun cell => (Function.update q.packets
          ((q.startIndex + q.numPackets) % packetQueueSize) (some packet) cell,
        Function.update q.sequences
          ((q.startIndex + q.numPackets) % packetQueueSize) sequence cell))
        = Function.update (fun cell => (q.packets cell, q.sequences cell))
          ((q.startIndex + q.numPackets) % packetQueueSize) (some packet, sequence) := by
      funext cell
      by_cases here : cell = (q.startIndex + q.numPackets) % packetQueueSize
      · subst here
        simp
      · simp [Function.update_of_ne here]
    show Ring.window packetQueueSize q.startIndex (q.numPackets + 1) _ = _
    rw [pairs]
    exact Ring.window_push room _ _
  · exact absurd rfl accepted

theorem ok_push {q : PacketQueue} (ok : q.Ok) (packet : Bytes) (sequence : UInt64) :
    (q.push packet sequence).1.Ok := by
  refine ⟨?_, ?_, ?_⟩
  · unfold push
    split_ifs with full
    · exact ok.count
    · exact Nat.lt_of_le_of_ne ok.count full
  · unfold push
    split_ifs
    · exact ok.start
    · exact ok.start
  · intro entry member
    rw [contents_push q ok] at member
    rcases List.mem_append.mp member with old | new
    · exact ok.held entry old
    · split_ifs at new
      · rw [List.mem_singleton.mp new]
        exact Option.some_ne_none _
      · cases new

/-- **`pop` takes the head**, and leaves the rest. -/
theorem contents_pop (q : PacketQueue) (ok : q.Ok) :
    q.contents = [] ∧ q.pop = (q, none, 0) ∨
      q.contents = (q.pop.2.1, q.pop.2.2) :: q.pop.1.contents := by
  unfold pop
  split_ifs with isEmpty
  · left
    refine ⟨?_, rfl⟩
    unfold contents
    rw [isEmpty, Ring.window_zero]
  · right
    obtain ⟨count, hCount⟩ := Nat.exists_eq_succ_of_ne_zero isEmpty
    have turn : count < packetQueueSize := by
      have := ok.count
      omega
    unfold contents
    simp only [hCount, Nat.succ_eq_add_one, Nat.add_sub_cancel]
    rw [Ring.window_pop, Nat.mod_eq_of_lt ok.start]
    congr 1
    -- the emptied cell lies before the rest of the window
    refine (Ring.window_congr fun offset less => ?_).symm
    have apart : ((q.startIndex + 1) % packetQueueSize + offset) % packetQueueSize ≠ q.startIndex := by
      have := Ring.offset_ne q.startIndex (Nat.succ_pos offset)
        (show offset + 1 < packetQueueSize by omega)
      rw [Nat.add_zero, Nat.mod_eq_of_lt ok.start] at this
      rw [Nat.mod_add_mod, Nat.add_assoc, Nat.add_comm 1 offset]
      exact this.symm
    rw [Function.update_of_ne apart]

theorem ok_pop {q : PacketQueue} (ok : q.Ok) : q.pop.1.Ok := by
  have held : ∀ entry ∈ q.pop.1.contents, entry.1 ≠ none := by
    intro entry member
    rcases contents_pop q ok with ⟨_, same⟩ | rest
    · rw [same] at member
      exact ok.held entry member
    · exact ok.held entry (rest ▸ List.mem_cons_of_mem _ member)
  refine ⟨?_, ?_, held⟩
  · unfold pop
    split_ifs
    · exact ok.count
    · exact (Nat.sub_le _ _).trans ok.count
  · unfold pop
    split_ifs
    · exact ok.start
    · exact Nat.mod_lt _ (by decide)

end PacketQueue

end Netcode
