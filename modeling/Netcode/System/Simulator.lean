/-
**The network simulator with zero settings.**

A run of the simulator is traffic, sends and receives in any order, with an `Update` between one
stretch of it and the next. Without latency, jitter, loss and duplicates every packet sent in a
stretch is due at the `Update` that ends it, and leaves the ring with it. `InFlight` is what holds
within a stretch: the packets sent in it stand in the ring one behind the other, and in the other
cells there is only what was there when the run began.

* `InFlight.update`, `InFlight.exchanges` — what an `Update` and a stretch of traffic do;
* `zero_settings_perfect` — **the packets sent in a stretch are received in the next one, each once,
  by its destination**, if no draw of the generator is zero. `zero_draw_loses` is the loss of a packet
  at a draw of zero.
-/

import Netcode.Lib.Refinement
import Netcode.Lib.Ring
import Netcode.Model.Simulator
import Netcode.Model.Sample
import Mathlib.Tactic.Positivity

namespace Netcode

/-! ### Traffic -/

/-- A packet on its way. -/
structure SimulatedPacket where
  source : Address
  destination : Address
  data : Bytes
  deriving DecidableEq

def SimulatorPacketEntry.packet (entry : SimulatorPacketEntry) : Option SimulatedPacket :=
  entry.packetData.map fun data => ⟨entry.source, entry.destination, data⟩

/-- An entry `Update` moves. -/
def SimulatorPacketEntry.due (time : ℚ) (entry : SimulatorPacketEntry) : Bool :=
  entry.packetData ≠ none && entry.deliveryTime ≤ time

namespace NetworkSimulator

/-- The packets that stand in some entries. -/
def live (entries : List SimulatorPacketEntry) : List SimulatedPacket :=
  entries.filterMap SimulatorPacketEntry.packet

/-- What `ReceivePackets(receiver, ...)` returned. -/
structure Received where
  receiver : Address
  source : Address
  data : Bytes
  deriving DecidableEq

inductive Traffic where
  | send (source destination : Address) (packetData : Bytes)
  | receive (receiver : Address) (maxPackets : Int)

/-- An `Update`, and the traffic behind it. -/
structure Round where
  time : ℚ
  traffic : List Traffic

def Traffic.sent : Traffic → Option SimulatedPacket
  | .send source destination packetData =>
    (copied packetData).map fun data => ⟨source, destination, data⟩
  | .receive _ _ => none

def Traffic.isSend : Traffic → Bool
  | .send _ _ _ => true
  | .receive _ _ => false

/-- The packets sent; an empty one is no packet. -/
def sentIn (traffic : List Traffic) : List SimulatedPacket := traffic.filterMap Traffic.sent

def numSends (traffic : List Traffic) : Nat := traffic.countP Traffic.isSend

/-- The sends of a whole run. -/
def totalSends (rounds : List Round) : Nat := (rounds.map fun round => numSends round.traffic).sum

/-- The packets for an address, as `ReceivePackets` returns them. -/
def addressedTo (address : Address) (packets : List SimulatedPacket) : List (Bytes × Address) :=
  (packets.filter (·.destination.Equal address)).map fun packet => (packet.data, packet.source)

def receivedBy (address : Address) (received : List Received) : List (Bytes × Address) :=
  (received.filter (·.receiver.Equal address)).map fun packet => (packet.data, packet.source)

/-- All packets that have not been moved. -/
def inFlight (sim : NetworkSimulator) : List SimulatedPacket :=
  live ((List.range simulatorNumPacketEntries).map sim.packetEntries)

/-- How many packets become due at an `Update`. -/
def numDue (sim : NetworkSimulator) (time : ℚ) : Nat :=
  ((List.range simulatorNumPacketEntries).map sim.packetEntries).countP (·.due time)

/-- **Nobody would receive anything more.** -/
def Drained (sim : NetworkSimulator) : Prop :=
  ∀ receiver, (sim.receivePackets receiver (-1)).2 = []

structure ZeroSettings (sim : NetworkSimulator) : Prop where
  latency : sim.latencyMilliseconds = 0
  jitter : sim.jitterMilliseconds = 0
  loss : sim.packetLossPercent = 0
  duplicate : sim.duplicatePacketPercent = 0

/-- **None of the next draws is zero.** -/
def DrawsNonzero : (draws : Nat) → (rngState : UInt64) → Prop
  | 0, _ => True
  | draws + 1, rngState => drawOf (xorshift rngState) ≠ 0 ∧ DrawsNonzero draws (xorshift rngState)

instance decidableDrawsNonzero : (draws : Nat) → (rngState : UInt64) →
    Decidable (DrawsNonzero draws rngState)
  | 0, _ => .isTrue trivial
  | draws + 1, rngState =>
    have := decidableDrawsNonzero draws (xorshift rngState)
    inferInstanceAs (Decidable (drawOf (xorshift rngState) ≠ 0 ∧
      DrawsNonzero draws (xorshift rngState)))

section Runs

variable (rounding : Rounding)

def exchange (sim : NetworkSimulator) : Traffic → NetworkSimulator × List Received
  | .send source destination packetData =>
    (sim.sendPacket rounding source destination packetData, [])
  | .receive receiver maxPackets =>
    ((sim.receivePackets receiver maxPackets).1,
      (sim.receivePackets receiver maxPackets).2.map fun packet => ⟨receiver, packet.2, packet.1⟩)

/-- A stretch of traffic, and what was received in it. -/
def exchanges (sim : NetworkSimulator) (traffic : List Traffic) :
    NetworkSimulator × List Received :=
  let after := Refinement.run (exchange rounding) sim traffic
  (after.1, after.2.flatten)

def playRound (sim : NetworkSimulator) (round : Round) : NetworkSimulator × List Received :=
  exchanges rounding (sim.update round.time) round.traffic

/-- **The rounds keep to what the simulator can hold**: times do not decrease, no more packets become
due than the pending buffer takes, fewer packets are queued than the ring has entries, and all
packets are picked up. -/
def Suited (sim : NetworkSimulator) : List Round → Prop
  | [] => True
  | round :: rounds =>
    sim.time ≤ round.time ∧ rounding.float64 round.time = round.time ∧
      sim.numDue round.time ≤ simulatorNumPendingReceivePackets ∧
      numSends round.traffic < simulatorNumPacketEntries ∧
      (playRound rounding sim round).1.Drained ∧ Suited (playRound rounding sim round).1 rounds

/-- **Each round receives what was sent before its `Update`**, every packet once and by its
destination only, together with packets that are `older` than the run, each at most once. -/
def Delivers (sim : NetworkSimulator) (older sent : List SimulatedPacket) : List Round → Prop
  | [] => True
  | round :: rounds => ∃ due rest, (due ++ rest).Subperm older ∧
    (∀ address, (receivedBy address (playRound rounding sim round).2).Perm
      (addressedTo address (sent ++ due))) ∧
    Delivers (playRound rounding sim round).1 rest (sentIn round.traffic) rounds

end Runs

/-! ### Lists of entries -/

theorem live_append (first second : List SimulatorPacketEntry) :
    live (first ++ second) = live first ++ live second := List.filterMap_append

theorem addressedTo_append (address : Address) (first second : List SimulatedPacket) :
    addressedTo address (first ++ second) =
      addressedTo address first ++ addressedTo address second := by
  unfold addressedTo
  rw [List.filter_append, List.map_append]

theorem receivedBy_append (address : Address) (first second : List Received) :
    receivedBy address (first ++ second) = receivedBy address first ++ receivedBy address second := by
  unfold receivedBy
  rw [List.filter_append, List.map_append]

theorem addressedTo_perm (address : Address) {first second : List SimulatedPacket}
    (same : first.Perm second) : (addressedTo address first).Perm (addressedTo address second) :=
  (same.filter _).map _

theorem live_perm {first second : List SimulatorPacketEntry} (same : first.Perm second) :
    (live first).Perm (live second) := same.filterMap _

theorem live_cons_none {entry : SimulatorPacketEntry} (isNil : entry.packetData = none)
    (rest : List SimulatorPacketEntry) : live (entry :: rest) = live rest :=
  List.filterMap_cons_none (by rw [SimulatorPacketEntry.packet, isNil]; rfl)

theorem live_cons_some {entry : SimulatorPacketEntry} {data : Bytes}
    (isData : entry.packetData = some data) (rest : List SimulatorPacketEntry) :
    live (entry :: rest) = ⟨entry.source, entry.destination, data⟩ :: live rest :=
  List.filterMap_cons_some (by rw [SimulatorPacketEntry.packet, isData]; rfl)

/-- Entries that are cleared where a condition holds keep the packets of the others. -/
theorem live_map_cleared (cleared : SimulatorPacketEntry → Bool)
    (entries : List SimulatorPacketEntry) :
    live (entries.map fun entry => if cleared entry then entry.cleared else entry) =
      live (entries.filter fun entry => !cleared entry) := by
  induction entries with
  | nil => rfl
  | cons entry rest ih =>
    rw [List.map_cons, List.filter_cons]
    by_cases goes : cleared entry = true
    · rw [if_pos goes, goes, if_neg (by decide), live_cons_none rfl, ih]
    · rw [if_neg goes, if_pos (by simpa using goes)]
      cases isData : entry.packetData with
      | none => rw [live_cons_none isData, live_cons_none isData, ih]
      | some data => rw [live_cons_some isData, live_cons_some isData, ih]

/-- Where all packets are due, nothing is lost by looking at the due ones only. -/
theorem live_filter_due {time : ℚ} {entries : List SimulatorPacketEntry}
    (all : ∀ entry ∈ entries, entry.deliveryTime ≤ time) :
    live (entries.filter (·.due time)) = live entries ∧
      live (entries.filter fun entry => !entry.due time) = [] := by
  induction entries with
  | nil => exact ⟨rfl, rfl⟩
  | cons entry rest ih =>
    obtain ⟨same, nothing⟩ := ih fun other member => all other (List.mem_cons_of_mem _ member)
    have inTime := all entry List.mem_cons_self
    rw [List.filter_cons, List.filter_cons]
    cases isData : entry.packetData with
    | none =>
      have notDue : entry.due time = false := by simp [SimulatorPacketEntry.due, isData]
      rw [notDue, if_neg (by decide), if_pos (by decide), live_cons_none isData,
        live_cons_none isData]
      exact ⟨same, nothing⟩
    | some data =>
      have isDue : entry.due time = true := by simp [SimulatorPacketEntry.due, isData, inTime]
      rw [isDue, if_pos rfl, if_neg (by decide), live_cons_some isData, live_cons_some isData, same]
      exact ⟨rfl, nothing⟩

/-! ### Receiving -/

section Collect

variable {receiver : Address} {maxPackets : Int} {entry : SimulatorPacketEntry}
  {rest : List SimulatorPacketEntry} {found : Nat}

theorem collect_full (full : (found : Int) = maxPackets) :
    collect receiver maxPackets found (entry :: rest) = (entry :: rest, []) := by
  rw [collect, if_pos full]

/-- An entry without a packet, or with one for somebody else. -/
theorem collect_skip (room : (found : Int) ≠ maxPackets)
    (other : entry.packetData = none ∨ entry.destination.Equal receiver = false) :
    collect receiver maxPackets found (entry :: rest) =
      (entry :: (collect receiver maxPackets found rest).1,
        (collect receiver maxPackets found rest).2) := by
  rw [collect, if_neg room]
  cases isData : entry.packetData with
  | none => rfl
  | some data =>
    have notEqual := other.resolve_left (by rw [isData]; exact Option.some_ne_none _)
    dsimp only
    rw [notEqual, if_pos (by decide)]

theorem collect_take (room : (found : Int) ≠ maxPackets) {data : Bytes}
    (isData : entry.packetData = some data) (equal : entry.destination.Equal receiver = true) :
    collect receiver maxPackets found (entry :: rest) =
      (entry.cleared :: (collect receiver maxPackets (found + 1) rest).1,
        (data, entry.source) :: (collect receiver maxPackets (found + 1) rest).2) := by
  rw [collect, if_neg room, isData]
  dsimp only
  rw [equal, if_neg (by decide)]

/-- The packet an entry has for an address. -/
theorem addressedTo_cons (address : Address) (entry : SimulatorPacketEntry)
    (rest : List SimulatorPacketEntry) :
    addressedTo address (live (entry :: rest)) =
      addressedTo address (live [entry]) ++ addressedTo address (live rest) := by
  rw [← addressedTo_append, ← live_append]
  rfl

theorem addressedTo_single {address : Address} {data : Bytes}
    (isData : entry.packetData = some data) :
    addressedTo address (live [entry]) =
      if entry.destination.Equal address then [(data, entry.source)] else [] := by
  rw [live_cons_some isData, addressedTo, List.filter_cons]
  split_ifs <;> rfl

/-- **What is handed out is taken out**, and goes to the receiver only. -/
theorem collect_perm (address : Address) (entries : List SimulatorPacketEntry) : ∀ found,
    (addressedTo address (live entries)).Perm
      ((if receiver.Equal address then (collect receiver maxPackets found entries).2 else []) ++
        addressedTo address (live (collect receiver maxPackets found entries).1)) := by
  induction entries with
  | nil =>
    intro found
    rw [collect, ite_self]
    exact .refl _
  | cons entry rest ih =>
    intro found
    by_cases full : (found : Int) = maxPackets
    · rw [collect_full full, ite_self]
      exact .refl _
    by_cases other : entry.packetData = none ∨ entry.destination.Equal receiver = false
    · rw [collect_skip full other, addressedTo_cons address entry rest]
      dsimp only
      rw [addressedTo_cons address entry (collect receiver maxPackets found rest).1]
      exact ((ih found).append_left _).trans (List.perm_append_comm_assoc _ _ _)
    · rw [not_or, Bool.not_eq_false] at other
      obtain ⟨data, isData⟩ := Option.ne_none_iff_exists'.mp other.1
      rw [collect_take full isData other.2, addressedTo_cons, addressedTo_single isData,
        live_cons_none rfl, Address.equal_congr other.2 address]
      have rest' := ih (found + 1)
      split_ifs at rest' ⊢ with here
      · exact rest'.cons _
      · exact rest'

/-- Without a limit all packets for the receiver are handed out. -/
theorem collect_all (entries : List SimulatorPacketEntry) : ∀ found,
    (collect receiver (-1) found entries).2 = addressedTo receiver (live entries) := by
  induction entries with
  | nil => exact fun _ => rfl
  | cons entry rest ih =>
    intro found
    have room : (found : Int) ≠ -1 := by omega
    rw [addressedTo_cons]
    by_cases other : entry.packetData = none ∨ entry.destination.Equal receiver = false
    · rw [collect_skip room other, ih]
      cases isData : entry.packetData with
      | none =>
        rw [live_cons_none isData]
        rfl
      | some data =>
        have notEqual := other.resolve_left (by rw [isData]; exact Option.some_ne_none _)
        rw [addressedTo_single isData, if_neg (by rw [notEqual]; decide), List.nil_append]
    · rw [not_or, Bool.not_eq_false] at other
      obtain ⟨data, isData⟩ := Option.ne_none_iff_exists'.mp other.1
      rw [collect_take room isData other.2, addressedTo_single isData, if_pos other.2, ih]
      rfl

/-- What one call returns is received by its receiver only. -/
theorem receivedBy_handed (address : Address) (packets : List (Bytes × Address)) :
    receivedBy address (packets.map fun packet => ⟨receiver, packet.2, packet.1⟩) =
      if receiver.Equal address then packets else [] := by
  unfold receivedBy
  rw [List.filter_map, List.map_map]
  split_ifs with here
  · have all := List.filter_eq_self.mpr fun packet (_ : packet ∈ packets) => here
    exact (congrArg _ all).trans (List.map_id _)
  · have nothing := List.filter_eq_nil_iff.mpr fun packet (_ : packet ∈ packets) => here
    exact congrArg _ nothing

theorem Drained.addressedTo {sim : NetworkSimulator} (drained : sim.Drained) (address : Address) :
    addressedTo address (live sim.pendingReceivePackets) = [] :=
  (collect_all _ 0).symm.trans (drained address)

end Collect

/-! ### Updating -/

section Update

variable {sim : NetworkSimulator} {time : ℚ}

/-- The simulator after the first `n` turns of the walk, if the buffer never fills up. -/
def walked (sim : NetworkSimulator) (time : ℚ) (n : Nat) : NetworkSimulator :=
  { sim with
    time := time
    packetEntries := fun i => if i < n ∧ (sim.packetEntries i).due time = true then
      (sim.packetEntries i).cleared else sim.packetEntries i
    pendingReceivePackets := ((List.range n).map sim.packetEntries).filter (·.due time) }

theorem walked_pending (n : Nat) : (sim.walked time n).pendingReceivePackets =
    ((List.range n).map sim.packetEntries).filter (·.due time) := rfl

theorem walked_entry {n i : Nat} (inside : i < n) : (sim.walked time n).packetEntries i =
    if (sim.packetEntries i).due time then (sim.packetEntries i).cleared else sim.packetEntries i :=
  if_congr (and_iff_right inside) rfl rfl

theorem walked_zero : sim.walked time 0 = { sim with time := time, pendingReceivePackets := [] } := by
  unfold walked
  congr 1

theorem walked_here (n : Nat) : (sim.walked time n).packetEntries n = sim.packetEntries n :=
  if_neg fun inside => Nat.lt_irrefl n inside.1

theorem walked_due {n : Nat} (due : (sim.packetEntries n).due time = true) :
    sim.walked time (n + 1) = { sim.walked time n with
      pendingReceivePackets := (sim.walked time n).pendingReceivePackets ++ [sim.packetEntries n]
      packetEntries := Function.update (sim.walked time n).packetEntries n
        (sim.packetEntries n).cleared } := by
  unfold walked
  congr 1
  · funext i
    by_cases here : i = n
    · rw [here, Function.update_self, if_pos ⟨Nat.lt_succ_self n, due⟩]
    · rw [Function.update_of_ne here]
      exact if_congr (and_congr_left fun _ => by omega) rfl rfl
  · rw [List.range_succ, List.map_append, List.filter_append, List.map_singleton,
      List.filter_singleton, due]
    rfl

theorem walked_not_due {n : Nat} (notDue : (sim.packetEntries n).due time = false) :
    sim.walked time (n + 1) = sim.walked time n := by
  unfold walked
  congr 1
  · funext i
    refine if_congr ⟨fun inside => ⟨?_, inside.2⟩, fun inside => ⟨by omega, inside.2⟩⟩ rfl rfl
    rcases Nat.lt_succ_iff_lt_or_eq.mp inside.1 with less | rfl
    · exact less
    · rw [notDue] at inside
      cases inside.2
  · rw [List.range_succ, List.map_append, List.filter_append, List.map_singleton,
      List.filter_singleton, notDue]
    exact List.append_nil _

/-- **One turn of the walk.** -/
theorem moveDue_walked {n : Nat}
    (few : ((List.range (n + 1)).map sim.packetEntries).countP (·.due time) ≤
      simulatorNumPendingReceivePackets) :
    moveDue time (sim.walked time n) n = sim.walked time (n + 1) := by
  unfold moveDue
  rw [walked_here]
  cases due : (sim.packetEntries n).due time with
  | true =>
    have room : (sim.walked time n).pendingReceivePackets.length <
        simulatorNumPendingReceivePackets := by
      rw [List.range_succ, List.map_append, List.countP_append, List.map_singleton,
        List.countP_singleton, due, if_pos rfl, List.countP_eq_length_filter] at few
      exact few
    obtain ⟨isData, inTime⟩ : (sim.packetEntries n).packetData ≠ none ∧
        (sim.packetEntries n).deliveryTime ≤ time := by
      simpa [SimulatorPacketEntry.due] using due
    rw [if_neg isData, if_neg room.ne, if_pos inTime, walked_due due]
  | false =>
    rw [walked_not_due due]
    split_ifs with isNil full inTime
    · rfl
    · rfl
    · simp [SimulatorPacketEntry.due, isNil, inTime] at due
    · rfl

/-- **`Update` moves what is due**, and nothing else. -/
theorem update_eq (few : sim.numDue time ≤ simulatorNumPendingReceivePackets) :
    sim.update time = sim.walked time simulatorNumPacketEntries := by
  have walk : ∀ n ≤ simulatorNumPacketEntries, (List.range n).foldl (moveDue time)
      { sim with time := time, pendingReceivePackets := [] } = sim.walked time n := by
    intro n
    induction n with
    | zero => exact fun _ => walked_zero.symm
    | succ n ih =>
      intro within
      rw [List.range_succ, List.foldl_append, ih (Nat.le_of_succ_le within)]
      refine moveDue_walked (Nat.le_trans (List.Sublist.countP_le ?_) few)
      exact (List.range_sublist.mpr within).map _
  exact walk _ (Nat.le_refl _)

end Update

/-! ### Sending -/

/-- A draw is zero only if its bits are. -/
theorem randomFloat_pos {sim : NetworkSimulator} (nonzero : drawOf (xorshift sim.rngState) ≠ 0) :
    0 < (sim.randomFloat 0 100).1 := by
  have positive : 0 < (drawOf (xorshift sim.rngState)).toNat := by
    refine Nat.pos_of_ne_zero fun zero => nonzero ?_
    exact UInt64.toNat_inj.mp zero
  show (0 : ℚ) < 0 + _ / 2 ^ 24 * (100 - 0)
  have cast : (0 : ℚ) < (drawOf (xorshift sim.rngState)).toNat := by exact_mod_cast positive
  positivity

/-- **With zero settings a packet is queued once**, without delay, unless a draw is zero. -/
theorem sendPacket_eq (rounding : Rounding) {sim : NetworkSimulator} (zero : sim.ZeroSettings)
    (kept : drawOf (xorshift sim.rngState) ≠ 0)
    (once : drawOf (xorshift (xorshift sim.rngState)) ≠ 0) (source destination : Address)
    (packetData : Bytes) :
    sim.sendPacket rounding source destination packetData =
      { sim.queuePacket rounding source destination packetData 0 with
        rngState := xorshift (xorshift sim.rngState) } := by
  have lost : ¬ (sim.randomFloat 0 100).1 ≤ (sim.randomFloat 0 100).2.packetLossPercent := by
    show ¬ _ ≤ sim.packetLossPercent
    rw [zero.loss]
    exact not_le.mpr (randomFloat_pos kept)
  have delay : packetDelay rounding (sim.randomFloat 0 100).2 = (0, (sim.randomFloat 0 100).2) := by
    have jitter : (sim.randomFloat 0 100).2.jitterMilliseconds = 0 := zero.jitter
    have latency : (sim.randomFloat 0 100).2.latencyMilliseconds = 0 := zero.latency
    unfold packetDelay
    rw [jitter, if_neg (lt_irrefl _), latency, zero_div, rounding.float32_zero]
  generalize isQueued : queuePacket rounding (sim.randomFloat 0 100).2 source destination
    packetData 0 = queued
  have twice :
      ¬ (queued.randomFloat 0 100).1 ≤ (queued.randomFloat 0 100).2.duplicatePacketPercent := by
    rw [← isQueued]
    show ¬ _ ≤ sim.duplicatePacketPercent
    rw [zero.duplicate]
    exact not_le.mpr (randomFloat_pos once)
  unfold sendPacket
  dsimp only
  rw [if_neg lost, delay]
  dsimp only
  rw [isQueued, if_neg twice, ← isQueued]
  rfl

/-- **A draw of zero loses the packet.** -/
theorem sendPacket_lost (rounding : Rounding) {sim : NetworkSimulator}
    (draw : drawOf (xorshift sim.rngState) = 0) (zero : sim.ZeroSettings)
    (source destination : Address) (packetData : Bytes) :
    sim.sendPacket rounding source destination packetData =
      { sim with rngState := xorshift sim.rngState } := by
  have lost : (sim.randomFloat 0 100).1 ≤ (sim.randomFloat 0 100).2.packetLossPercent := by
    show 0 + ((drawOf (xorshift sim.rngState)).toNat : ℚ) / 2 ^ 24 * (100 - 0) ≤
      sim.packetLossPercent
    rw [draw, zero.loss]
    norm_num
  unfold sendPacket
  dsimp only
  rw [if_pos lost]
  rfl

/-! ### A stretch of traffic -/

/-- **Within a stretch**: the packets sent in it stand in the ring one behind the other from `start`
on, all due at its end; the packets in the other cells are among the older ones. -/
structure InFlight (rounding : Rounding) (older : List SimulatedPacket)
    (queued : List SimulatorPacketEntry) (start : Nat) (sim : NetworkSimulator) : Prop where
  few : queued.length < simulatorNumPacketEntries
  index : sim.currentIndex = (start + queued.length) % simulatorNumPacketEntries
  window : Ring.window simulatorNumPacketEntries start queued.length sim.packetEntries = queued
  now : ∀ entry ∈ queued, entry.deliveryTime = rounding.float64 sim.time
  rest : (live (Ring.window simulatorNumPacketEntries sim.currentIndex
    (simulatorNumPacketEntries - queued.length) sim.packetEntries)).Subperm older

section Stretch

variable {rounding : Rounding} {older : List SimulatedPacket} {queued : List SimulatorPacketEntry}
  {start : Nat} {sim : NetworkSimulator}

/-- The entry a send writes. -/
def newEntry (rounding : Rounding) (sim : NetworkSimulator) (source destination : Address)
    (packetData : Bytes) : SimulatorPacketEntry :=
  ⟨source, destination, rounding.float64 (sim.time + 0), copied packetData⟩

theorem InFlight.queue (flight : InFlight rounding older queued start sim)
    (room : queued.length + 1 < simulatorNumPacketEntries) (source destination : Address)
    (packetData : Bytes) :
    InFlight rounding older (queued ++ [newEntry rounding sim source destination packetData]) start
      (sim.queuePacket rounding source destination packetData 0) := by
  have length : (queued ++ [newEntry rounding sim source destination packetData]).length =
      queued.length + 1 := List.length_append
  have entries : (sim.queuePacket rounding source destination packetData 0).packetEntries =
      Function.update sim.packetEntries ((start + queued.length) % simulatorNumPacketEntries)
        (newEntry rounding sim source destination packetData) := by
    rw [← flight.index]
    rfl
  have index : (sim.queuePacket rounding source destination packetData 0).currentIndex =
      (start + (queued.length + 1)) % simulatorNumPacketEntries := by
    show (sim.currentIndex + 1) % _ = _
    rw [flight.index, Nat.mod_add_mod, Nat.add_assoc]
  refine ⟨by rw [length]; exact room, by rw [length, index], ?_, ?_, ?_⟩
  · rw [length, entries, Ring.window_push flight.few, flight.window]
  · intro entry member
    rcases List.mem_append.mp member with before | new
    · exact flight.now entry before
    · rw [List.mem_singleton.mp new]
      exact congrArg rounding.float64 (add_zero sim.time)
  · -- the cell that is written was the first of the others
    obtain ⟨others, isOthers⟩ : ∃ others, simulatorNumPacketEntries = queued.length + 1 + others :=
      Nat.exists_eq_add_of_le room.le
    have before : simulatorNumPacketEntries - queued.length = others + 1 := by omega
    have behind : simulatorNumPacketEntries - (queued.length + 1) = others := by omega
    have rest := flight.rest
    rw [before, flight.index, Ring.window_pop] at rest
    rw [length, behind, entries, index, ← Nat.add_assoc, Ring.window_behind _ (by omega)]
    rw [Nat.mod_mod, Nat.mod_add_mod] at rest
    refine List.Subperm.trans (List.Sublist.subperm ?_) rest
    exact (List.sublist_cons_self _ _).filterMap _

/-- **What traffic leaves**: what was sent stands behind what was queued before, what was received was
taken out of the pending buffer, and `more` draws are still known not to be zero. -/
structure Exchanged (rounding : Rounding) (older : List SimulatedPacket)
    (queued : List SimulatorPacketEntry) (start more : Nat) (sim : NetworkSimulator)
    (traffic : List Traffic) (after : NetworkSimulator × List Received) : Prop where
  flight : ∃ new, live new = sentIn traffic ∧ new.length = numSends traffic ∧
    InFlight rounding older (queued ++ new) start after.1
  zero : after.1.ZeroSettings
  draws : DrawsNonzero more after.1.rngState
  taken : ∀ address, (addressedTo address (live sim.pendingReceivePackets)).Perm
    (receivedBy address after.2 ++ addressedTo address (live after.1.pendingReceivePackets))

theorem InFlight.send {more : Nat} (flight : InFlight rounding older queued start sim)
    (zero : sim.ZeroSettings) (room : queued.length + 1 < simulatorNumPacketEntries)
    (draws : DrawsNonzero (2 + more) sim.rngState) (source destination : Address)
    (packetData : Bytes) :
    Exchanged rounding older queued start more sim [.send source destination packetData]
      (exchange rounding sim (.send source destination packetData)) := by
  rw [Nat.add_comm] at draws
  obtain ⟨kept, once, draws⟩ := draws
  have sends := sendPacket_eq rounding zero kept once source destination packetData
  have queue := flight.queue room source destination packetData
  show Exchanged _ _ _ _ _ _ _ (sim.sendPacket rounding source destination packetData, [])
  rw [sends]
  refine ⟨⟨[newEntry rounding sim source destination packetData], rfl, rfl, ?_⟩, ?_, draws, ?_⟩
  · exact ⟨queue.few, queue.index, queue.window, queue.now, queue.rest⟩
  · exact ⟨zero.latency, zero.jitter, zero.loss, zero.duplicate⟩
  · exact fun address => .refl _

theorem InFlight.receive {more : Nat} (flight : InFlight rounding older queued start sim)
    (zero : sim.ZeroSettings) (draws : DrawsNonzero more sim.rngState) (receiver : Address)
    (maxPackets : Int) :
    Exchanged rounding older queued start more sim [.receive receiver maxPackets]
      (exchange rounding sim (.receive receiver maxPackets)) := by
  refine ⟨⟨[], rfl, rfl, ?_⟩, ?_, draws, ?_⟩
  · rw [List.append_nil]
    exact ⟨flight.few, flight.index, flight.window, flight.now, flight.rest⟩
  · exact ⟨zero.latency, zero.jitter, zero.loss, zero.duplicate⟩
  · intro address
    show (addressedTo address _).Perm (receivedBy address (List.map _ _) ++ _)
    rw [receivedBy_handed]
    exact collect_perm address sim.pendingReceivePackets 0

theorem InFlight.exchange {more : Nat} (flight : InFlight rounding older queued start sim)
    (zero : sim.ZeroSettings) (op : Traffic)
    (room : queued.length + numSends [op] < simulatorNumPacketEntries)
    (draws : DrawsNonzero (2 * numSends [op] + more) sim.rngState) :
    Exchanged rounding older queued start more sim [op] (exchange rounding sim op) := by
  cases op with
  | send source destination packetData => exact flight.send zero room draws _ _ _
  | receive receiver maxPackets =>
    have draws' : DrawsNonzero (0 + more) sim.rngState := draws
    rw [Nat.zero_add] at draws'
    exact flight.receive zero draws' _ _

/-- **A stretch of traffic.** -/
theorem InFlight.exchanges {more : Nat} (traffic : List Traffic) :
    ∀ {queued : List SimulatorPacketEntry} {sim : NetworkSimulator},
      InFlight rounding older queued start sim → sim.ZeroSettings →
      queued.length + numSends traffic < simulatorNumPacketEntries →
      DrawsNonzero (2 * numSends traffic + more) sim.rngState →
      Exchanged rounding older queued start more sim traffic (exchanges rounding sim traffic) := by
  induction traffic with
  | nil =>
    intro queued sim flight zero room draws
    have draws' : DrawsNonzero (0 + more) sim.rngState := draws
    rw [Nat.zero_add] at draws'
    refine ⟨⟨[], rfl, rfl, ?_⟩, zero, draws', fun address => .refl _⟩
    rw [List.append_nil]
    exact flight
  | cons op ops ih =>
    intro queued sim flight zero room draws
    have sends : numSends ([op] ++ ops) = numSends [op] + numSends ops := List.countP_append
    have sent : sentIn ([op] ++ ops) = sentIn [op] ++ sentIn ops := List.filterMap_append
    rw [List.singleton_append] at sends sent
    rw [sends] at room draws
    rw [Nat.mul_add, Nat.add_assoc] at draws
    have first := flight.exchange zero op (by omega) draws
    obtain ⟨new, isSent, length, flight'⟩ := first.flight
    have rest := ih flight' first.zero (by rw [List.length_append]; omega) first.draws
    obtain ⟨more, isMore, length', last⟩ := rest.flight
    refine ⟨⟨new ++ more, ?_, ?_, ?_⟩, rest.zero, rest.draws, ?_⟩
    · rw [live_append, isSent, isMore, sent]
    · rw [List.length_append, length, length', sends]
    · rw [← List.append_assoc]
      exact last
    · intro address
      show (addressedTo address _).Perm (receivedBy address
        ((NetworkSimulator.exchange rounding sim op).2 ++
          (NetworkSimulator.exchanges rounding (NetworkSimulator.exchange rounding sim op).1 ops).2)
        ++ _)
      rw [receivedBy_append, List.append_assoc]
      exact (first.taken address).trans ((rest.taken address).append_left _)

/-- **An `Update`**: what was queued is pending, with some of the older packets. -/
theorem InFlight.update (flight : InFlight rounding older queued start sim) {time : ℚ}
    (later : sim.time ≤ time) (isFloat : rounding.float64 time = time)
    (few : sim.numDue time ≤ simulatorNumPendingReceivePackets) :
    ∃ due rest, (due ++ rest).Subperm older ∧
      (live (sim.update time).pendingReceivePackets).Perm (live queued ++ due) ∧
      InFlight rounding rest [] sim.currentIndex (sim.update time) := by
  have now : ∀ entry ∈ queued, entry.deliveryTime ≤ time := by
    intro entry member
    rw [flight.now entry member, ← isFloat]
    exact rounding.float64_mono later
  obtain ⟨moved, nothing⟩ := live_filter_due now
  generalize isOthers : Ring.window simulatorNumPacketEntries sim.currentIndex
    (simulatorNumPacketEntries - queued.length) sim.packetEntries = others
  have rest := flight.rest
  rw [isOthers] at rest
  -- all cells are the queued ones and the others
  have cells : ((List.range simulatorNumPacketEntries).map sim.packetEntries).Perm
      (queued ++ others) := by
    have full : (Ring.window simulatorNumPacketEntries start simulatorNumPacketEntries
        sim.packetEntries).Perm _ := Ring.window_full start sim.packetEntries
    refine full.symm.trans ?_
    have split := Ring.window_append simulatorNumPacketEntries start queued.length
      (simulatorNumPacketEntries - queued.length) sim.packetEntries
    rw [Nat.add_sub_cancel' flight.few.le, flight.window, ← flight.index, isOthers] at split
    rw [split]
  rw [update_eq few]
  refine ⟨live (others.filter (·.due time)), live (others.filter fun entry => !entry.due time),
    ?_, ?_, ?_, ?_, ?_, ?_, ?_⟩
  · rw [← live_append]
    exact (live_perm (List.filter_append_perm _ others)).subperm.trans rest
  · have pending := live_perm (cells.filter (·.due time))
    rw [List.filter_append, live_append, moved] at pending
    rw [walked_pending]
    exact pending
  · show 0 < simulatorNumPacketEntries
    decide
  · show sim.currentIndex = (sim.currentIndex + 0) % simulatorNumPacketEntries
    rw [Nat.add_zero, flight.index, Nat.mod_mod]
  · rfl
  · intro entry member
    cases member
  · have cleared : Ring.window simulatorNumPacketEntries sim.currentIndex simulatorNumPacketEntries
        (sim.walked time simulatorNumPacketEntries).packetEntries =
        (Ring.window simulatorNumPacketEntries sim.currentIndex simulatorNumPacketEntries
          sim.packetEntries).map fun entry => if entry.due time then entry.cleared else entry := by
      unfold Ring.window
      rw [List.map_map]
      refine List.map_congr_left fun offset _ => ?_
      exact walked_entry (Nat.mod_lt _ (by decide))
    have left := live_perm (((Ring.window_full sim.currentIndex sim.packetEntries).trans cells).filter
      fun entry => !entry.due time)
    rw [List.filter_append, live_append, nothing, List.nil_append] at left
    show (live (Ring.window simulatorNumPacketEntries sim.currentIndex
      simulatorNumPacketEntries _)).Subperm _
    rw [cleared, live_map_cleared]
    exact left.subperm

/-- **Rounds, from within a stretch on.** -/
theorem InFlight.delivers (rounds : List Round) :
    ∀ {older : List SimulatedPacket} {queued : List SimulatorPacketEntry} {start : Nat}
      {sim : NetworkSimulator}, InFlight rounding older queued start sim → sim.ZeroSettings →
      DrawsNonzero (2 * totalSends rounds) sim.rngState → Suited rounding sim rounds →
      Delivers rounding sim older (live queued) rounds := by
  induction rounds with
  | nil =>
    intro older queued start sim flight zero draws suited
    exact trivial
  | cons round rounds ih =>
    intro older queued start sim flight zero draws suited
    obtain ⟨later, isFloat, few, room, drained, suited⟩ := suited
    obtain ⟨due, rest, among, pending, updated⟩ := flight.update later isFloat few
    have same := update_eq few
    have zero' : (sim.update round.time).ZeroSettings := by
      rw [same]
      exact ⟨zero.latency, zero.jitter, zero.loss, zero.duplicate⟩
    have draws' : DrawsNonzero (2 * numSends round.traffic + 2 * totalSends rounds)
        (sim.update round.time).rngState := by
      rw [same, ← Nat.mul_add]
      exact draws
    have stretch := updated.exchanges round.traffic zero' (by rw [List.length_nil]; omega) draws'
    obtain ⟨new, isSent, length, flight'⟩ := stretch.flight
    refine ⟨due, rest, among, ?_, ?_⟩
    · intro address
      have taken := stretch.taken address
      have nothing := Drained.addressedTo drained address
      unfold playRound at nothing
      rw [nothing, List.append_nil] at taken
      exact taken.symm.trans (addressedTo_perm address pending)
    · rw [← isSent]
      exact ih flight' stretch.zero stretch.draws suited

/-- A stretch begins with nothing queued. -/
theorem inFlight_nil (inRange : sim.currentIndex < simulatorNumPacketEntries) :
    InFlight rounding sim.inFlight [] sim.currentIndex sim := by
  refine ⟨by decide, (Nat.mod_eq_of_lt inRange).symm, rfl, ?_, ?_⟩
  · intro entry member
    cases member
  · exact (live_perm (Ring.window_full sim.currentIndex sim.packetEntries)).subperm

end Stretch

/-- **With zero settings the simulator is a perfect network**, as long as the generator does not draw a
zero: in every run what is sent before an `Update` is received after it, every packet once, by its
destination only and as it was sent. Before the first `Update` only packets are received that were
pending when the run began. -/
theorem zero_settings_perfect (rounding : Rounding) (sim : NetworkSimulator)
    (inRange : sim.currentIndex < simulatorNumPacketEntries) (zero : sim.ZeroSettings)
    (first : List Traffic) (rounds : List Round) (few : numSends first < simulatorNumPacketEntries)
    (draws : DrawsNonzero (2 * (numSends first + totalSends rounds)) sim.rngState)
    (suited : Suited rounding (exchanges rounding sim first).1 rounds) :
    (∀ address, (receivedBy address (exchanges rounding sim first).2).Subperm
      (addressedTo address (live sim.pendingReceivePackets))) ∧
    Delivers rounding (exchanges rounding sim first).1 sim.inFlight (sentIn first) rounds := by
  rw [Nat.mul_add] at draws
  have start : InFlight rounding sim.inFlight [] sim.currentIndex sim := inFlight_nil inRange
  have stretch := start.exchanges first zero (by rw [List.length_nil]; omega) draws
  obtain ⟨new, isSent, length, flight⟩ := stretch.flight
  constructor
  · intro address
    exact (List.sublist_append_left _ _).subperm.trans (stretch.taken address).symm.subperm
  · rw [← isSent]
    exact flight.delivers rounds stretch.zero stretch.draws suited

/-! ### One packet -/

/-- Arithmetic without rounding. -/
def exactRounding : Rounding :=
  ⟨fun exact => exact, fun exact => exact, rfl, fun _ _ small => small⟩

/-- One packet from the first to the second address. -/
def oneSend : List Traffic := [.send Sample.firstAddress Sample.secondAddress [7]]

/-- An `Update`, and the second address picks up its packets. -/
def oneRound : List Round := [⟨0, [.receive Sample.secondAddress (-1)]⟩]

theorem filter_due_blank (time : ℚ) (cells : List Nat) :
    (cells.map fun _ => SimulatorPacketEntry.blank).filter (·.due time) = [] := by
  refine List.filter_eq_nil_iff.mpr fun entry member => ?_
  obtain ⟨_, _, rfl⟩ := List.mem_map.mp member
  exact Bool.false_ne_true

/-- A simulator with one packet in its first cell and nothing in the others. -/
theorem filter_due_single {time : ℚ} {entry : SimulatorPacketEntry} (due : entry.due time = true)
    (n : Nat) :
    ((List.range (n + 1)).map (Function.update (fun _ => .blank) 0 entry)).filter (·.due time) =
      [entry] := by
  have others : ((List.range n).map Nat.succ).map (Function.update (fun _ => .blank) 0 entry) =
      (List.range n).map fun _ => SimulatorPacketEntry.blank := by
    rw [List.map_map]
    exact List.map_congr_left fun i _ => Function.update_of_ne (Nat.succ_ne_zero i) _ _
  rw [List.range_succ_eq_map, List.map_cons, others, Function.update_self, List.filter_cons,
    if_pos due, filter_due_blank]

/-- Receiving alone looks at the pending packets only. -/
theorem drained_receive {rounding : Rounding} {sim : NetworkSimulator} {address : Address} :
    (exchanges rounding sim [.receive address (-1)]).1.Drained ↔ ∀ receiver, (collect receiver (-1) 0
      (collect address (-1) 0 sim.pendingReceivePackets).1).2 = [] := Iff.rfl

theorem receivedBy_receive (rounding : Rounding) (sim : NetworkSimulator)
    {receiver address : Address} (here : receiver.Equal address = true) :
    receivedBy address (exchanges rounding sim [.receive receiver (-1)]).2 =
      (collect receiver (-1) 0 sim.pendingReceivePackets).2 := by
  show receivedBy address (List.map _ _ ++ []) = _
  rw [List.append_nil, receivedBy_handed, if_pos here]
  rfl

section Known

variable {sim : NetworkSimulator} {pending : List SimulatorPacketEntry}

theorem numDue_le {time : ℚ}
    (due : ((List.range simulatorNumPacketEntries).map sim.packetEntries).filter (·.due time) = pending)
    (few : pending.length ≤ simulatorNumPendingReceivePackets) :
    sim.numDue time ≤ simulatorNumPendingReceivePackets := by
  unfold numDue
  rw [List.countP_eq_length_filter, due]
  exact few

theorem update_pending {time : ℚ}
    (due : ((List.range simulatorNumPacketEntries).map sim.packetEntries).filter (·.due time) = pending)
    (few : pending.length ≤ simulatorNumPendingReceivePackets) :
    (sim.update time).pendingReceivePackets = pending := by
  rw [update_eq (numDue_le due few), walked_pending, due]

/-- A round of a simulator of which it is known what becomes due. -/
theorem suited_oneRound (start : sim.time = 0)
    (due : ((List.range simulatorNumPacketEntries).map sim.packetEntries).filter (·.due 0) = pending)
    (few : pending.length ≤ simulatorNumPendingReceivePackets)
    (drained : ∀ receiver, (collect receiver (-1) 0
      (collect Sample.secondAddress (-1) 0 pending).1).2 = []) :
    Suited exactRounding sim oneRound := by
  refine ⟨start.le, rfl, numDue_le due few, by decide, drained_receive.mpr ?_, trivial⟩
  rw [update_pending due few]
  exact drained

end Known

theorem zero_settings_perfect_new :
    new.ZeroSettings ∧ DrawsNonzero 2 new.rngState ∧
      Suited exactRounding (exchanges exactRounding new oneSend).1 oneRound ∧
      Delivers exactRounding (exchanges exactRounding new oneSend).1 new.inFlight
        [⟨Sample.firstAddress, Sample.secondAddress, [7]⟩] oneRound := by
  have zero : new.ZeroSettings := ⟨rfl, rfl, rfl, rfl⟩
  have draws : DrawsNonzero 2 new.rngState := by decide
  have suited : Suited exactRounding (exchanges exactRounding new oneSend).1 oneRound := by
    have sent : (exchanges exactRounding new oneSend).1 = _ :=
      sendPacket_eq exactRounding zero draws.1 draws.2.1 _ _ _
    rw [sent]
    refine suited_oneRound rfl (filter_due_single ?_ 65535) (by decide) ?_
    · simp [SimulatorPacketEntry.due, exactRounding, new, copied]
    · exact fun receiver => rfl
  exact ⟨zero, draws, suited,
    (zero_settings_perfect exactRounding new (by decide) zero oneSend oneRound (by decide) draws
      suited).2⟩

/-- A generator state whose next draw is zero. -/
def unlucky : NetworkSimulator := { new with rngState := 0x98d76a164d99a710 }

/-- **A draw of zero loses a packet**, though no loss is asked for. -/
theorem zero_draw_loses :
    unlucky.rngState ≠ 0 ∧ unlucky.ZeroSettings ∧
      Suited exactRounding (exchanges exactRounding unlucky oneSend).1 oneRound ∧
      ¬ Delivers exactRounding (exchanges exactRounding unlucky oneSend).1 unlucky.inFlight
        (sentIn oneSend) oneRound := by
  have lost : (exchanges exactRounding unlucky oneSend).1 =
      { unlucky with rngState := xorshift unlucky.rngState } :=
    sendPacket_lost exactRounding (by decide) ⟨rfl, rfl, rfl, rfl⟩ _ _ _
  have nothing : ((List.range simulatorNumPacketEntries).map
      { unlucky with rngState := xorshift unlucky.rngState }.packetEntries).filter (·.due 0) = [] :=
    filter_due_blank 0 _
  rw [lost]
  refine ⟨by decide, ⟨rfl, rfl, rfl, rfl⟩, ?_, ?_⟩
  · exact suited_oneRound rfl nothing (by decide) fun receiver => rfl
  · rintro ⟨due, rest, among, received, _⟩
    -- nothing is received where the packet is expected
    have equal : Sample.secondAddress.Equal Sample.secondAddress = true := by decide
    have here := received Sample.secondAddress
    unfold playRound at here
    rw [receivedBy_receive _ _ equal, update_pending nothing (by decide), addressedTo_append] at here
    exact List.cons_ne_nil _ _ (here.symm.eq_nil)

end NetworkSimulator

end Netcode
