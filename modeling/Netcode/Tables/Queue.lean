/-
**The packet queue as a bounded FIFO.**

What `queue.go` is for: a list of at most `packetQueueSize` payloads, each with its sequence number,
that `push` appends to while there is room and `pop` takes the oldest entry of. `Represents` relates
the ring to that list: the window of the ring lists it, and the cells outside the window hold no
packet.

* `queueStep_represents` — every operation keeps the relation and returns what the list returns;
* `packetQueue_refines_fifo` — **any sequence of operations on a fresh queue returns what the bounded
  FIFO returns.**
-/

import Netcode.Lib.Refinement
import Netcode.Model.Replay

namespace Netcode

/-- A payload and the sequence number it arrived under, as they stand in the queue. -/
def inCell (entry : Bytes × UInt64) : Option Bytes × UInt64 := (some entry.1, entry.2)

theorem inCell_injective : Function.Injective inCell := by
  rintro ⟨payload, n⟩ ⟨payload', n'⟩ same
  cases same
  rfl

/-! ### The operations -/

inductive QueueOp where
  | push (packet : Bytes) (sequence : UInt64)
  | pop
  | clear

/-- What an operation returns; `pop` returns Go's `nil` and a zero from an empty queue. -/
inductive QueueResult where
  | pushed (accepted : Bool)
  | popped (packet : Option Bytes) (sequence : UInt64)
  | cleared
  deriving DecidableEq

/-- The operations of `packetQueue`. -/
def queueStep (q : PacketQueue) : QueueOp → PacketQueue × QueueResult
  | .push packet sequence =>
    ((q.push packet sequence).1, .pushed (q.push packet sequence).2)
  | .pop => (q.pop.1, .popped q.pop.2.1 q.pop.2.2)
  | .clear => (.clear, .cleared)

/-- **The bounded FIFO**, oldest entry first. -/
def fifoStep (entries : List (Bytes × UInt64)) : QueueOp → List (Bytes × UInt64) × QueueResult
  | .push packet sequence =>
    if entries.length < packetQueueSize then (entries ++ [(packet, sequence)], .pushed true)
    else (entries, .pushed false)
  | .pop =>
    match entries with
    | [] => ([], .popped none 0)
    | (packet, sequence) :: rest => (rest, .popped (some packet) sequence)
  | .clear => ([], .cleared)

/-! ### The ring represents the list -/

/-- The cell lies in the live window of the ring. -/
def PacketQueue.InWindow (q : PacketQueue) (cell : Nat) : Prop :=
  ∃ offset < q.numPackets, (q.startIndex + offset) % packetQueueSize = cell

structure PacketQueue.Represents (q : PacketQueue) (entries : List (Bytes × UInt64)) : Prop where
  ok : q.Ok
  contents : q.contents = entries.map inCell
  outside : ∀ cell, q.packets cell ≠ none → q.InWindow cell

namespace PacketQueue

variable {q : PacketQueue} {entries : List (Bytes × UInt64)}

theorem Represents.numPackets (rep : q.Represents entries) : q.numPackets = entries.length := by
  have lengths := congrArg List.length rep.contents
  rwa [PacketQueue.contents, Ring.window_length, List.length_map] at lengths

theorem represents_clear : clear.Represents [] where
  ok := ok_clear
  contents := rfl
  outside := fun _ stored => absurd rfl stored

/-- `push` says whether there was room. -/
theorem push_accepted (ok : q.Ok) (packet : Bytes) (sequence : UInt64) :
    (q.push packet sequence).2 = decide (q.numPackets < packetQueueSize) := by
  have count := ok.count
  unfold push
  split_ifs with full
  · simp [full]
  · simp only [Bool.true_eq, decide_eq_true_eq]
    omega

theorem push_outside (outside : ∀ cell, q.packets cell ≠ none → q.InWindow cell) (packet : Bytes)
    (sequence : UInt64) {cell : Nat} (stored : (q.push packet sequence).1.packets cell ≠ none) :
    (q.push packet sequence).1.InWindow cell := by
  unfold push at stored ⊢
  split_ifs at stored ⊢ with full
  · exact outside cell stored
  · by_cases here : cell = (q.startIndex + q.numPackets) % packetQueueSize
    · exact ⟨q.numPackets, Nat.lt_succ_self _, here.symm⟩
    · dsimp only at stored
      rw [Function.update_of_ne here] at stored
      obtain ⟨offset, small, isCell⟩ := outside cell stored
      exact ⟨offset, Nat.lt_succ_of_lt small, isCell⟩

/-- `pop` empties the cell it moves past. -/
theorem pop_outside (ok : q.Ok) (outside : ∀ cell, q.packets cell ≠ none → q.InWindow cell)
    {cell : Nat} (stored : q.pop.1.packets cell ≠ none) : q.pop.1.InWindow cell := by
  unfold pop at stored ⊢
  split_ifs at stored ⊢ with isEmpty
  · exact outside cell stored
  · dsimp only at stored
    by_cases here : cell = q.startIndex
    · rw [here, Function.update_self] at stored
      exact absurd rfl stored
    · rw [Function.update_of_ne here] at stored
      obtain ⟨offset, small, isCell⟩ := outside cell stored
      -- the first cell of the window is the one that was emptied
      cases offset with
      | zero =>
        rw [Nat.add_zero, Nat.mod_eq_of_lt ok.start] at isCell
        exact absurd isCell.symm here
      | succ offset =>
        refine ⟨offset, ?_, ?_⟩
        · show offset < q.numPackets - 1
          omega
        · show ((q.startIndex + 1) % packetQueueSize + offset) % packetQueueSize = cell
          rw [Nat.mod_add_mod, ← isCell]
          congr 1
          omega

theorem Represents.push (rep : q.Represents entries) (packet : Bytes) (sequence : UInt64) :
    (queueStep q (.push packet sequence)).2 = (fifoStep entries (.push packet sequence)).2 ∧
      (queueStep q (.push packet sequence)).1.Represents
        (fifoStep entries (.push packet sequence)).1 := by
  have accepted := push_accepted rep.ok packet sequence
  have contents := contents_push q rep.ok packet sequence
  have ok := ok_push rep.ok packet sequence
  rw [rep.numPackets] at accepted
  simp only [queueStep, fifoStep]
  by_cases room : entries.length < packetQueueSize
  · rw [decide_eq_true room] at accepted
    rw [accepted, if_pos rfl, rep.contents] at contents
    rw [if_pos room]
    refine ⟨congrArg _ accepted, ok, ?_, fun _ => push_outside rep.outside packet sequence⟩
    rw [contents, List.map_append]
    rfl
  · rw [decide_eq_false room] at accepted
    rw [accepted, if_neg Bool.false_ne_true, List.append_nil, rep.contents] at contents
    rw [if_neg room]
    exact ⟨congrArg _ accepted, ok, contents, fun _ => push_outside rep.outside packet sequence⟩

theorem Represents.pop (rep : q.Represents entries) :
    (queueStep q .pop).2 = (fifoStep entries .pop).2 ∧
      (queueStep q .pop).1.Represents (fifoStep entries .pop).1 := by
  have outside : ∀ cell, q.pop.1.packets cell ≠ none → q.pop.1.InWindow cell :=
    fun _ stored => pop_outside rep.ok rep.outside stored
  have contents := rep.contents
  cases entries with
  | nil =>
    rcases contents_pop q rep.ok with ⟨-, nothing⟩ | taken
    · rw [queueStep, nothing]
      exact ⟨rfl, rep⟩
    · rw [taken] at contents
      cases contents
  | cons entry rest =>
    rcases contents_pop q rep.ok with ⟨isEmpty, -⟩ | taken
    · rw [isEmpty] at contents
      cases contents
    · rw [taken, List.map_cons, List.cons.injEq] at contents
      obtain ⟨first, others⟩ := contents
      have isPacket : q.pop.2.1 = some entry.1 := congrArg Prod.fst first
      have isSequence : q.pop.2.2 = entry.2 := congrArg Prod.snd first
      refine ⟨?_, ok_pop rep.ok, others, outside⟩
      show QueueResult.popped q.pop.2.1 q.pop.2.2 = .popped (some entry.1) entry.2
      rw [isPacket, isSequence]

/-- **Every operation on the ring is the operation on the list.** -/
theorem queueStep_represents : Refinement.Step Represents queueStep fifoStep := by
  intro q entries op rep
  cases op with
  | push packet sequence => exact rep.push packet sequence
  | pop => exact rep.pop
  | clear => exact ⟨rfl, represents_clear⟩

end PacketQueue

/-- **The packet queue refines a bounded FIFO.** Any sequence of operations on the zero value returns
what a list of capacity 256 returns; the count is the length of the list, the start index is in
range, and every packet in the ring lies in the live window, which lists the list. -/
theorem packetQueue_refines_fifo (ops : List QueueOp) :
    (Refinement.run queueStep .clear ops).2 = (Refinement.run fifoStep [] ops).2 ∧
      (Refinement.run queueStep .clear ops).1.numPackets =
        (Refinement.run fifoStep [] ops).1.length ∧
      (Refinement.run queueStep .clear ops).1.startIndex < packetQueueSize ∧
      (Refinement.run queueStep .clear ops).1.contents =
        (Refinement.run fifoStep [] ops).1.map inCell ∧
      ∀ cell, (Refinement.run queueStep .clear ops).1.packets cell ≠ none →
        (Refinement.run queueStep .clear ops).1.InWindow cell := by
  obtain ⟨results, rep⟩ :=
    PacketQueue.queueStep_represents.run_eq ops _ _ PacketQueue.represents_clear
  exact ⟨results, rep.numPackets, rep.ok.start, rep.contents, rep.outside⟩

end Netcode
