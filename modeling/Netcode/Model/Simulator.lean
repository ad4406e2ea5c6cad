/-
**The network simulator.**

`simulator.go`: packets wait in a ring of 65536 entries until the time they are due, `Update` moves
those into the pending receive buffer, and `ReceivePackets` hands them out to their destination. Loss,
jitter and duplication are drawn from a generator of its own.

An entry without data is Go's `nil` slice: an empty packet makes one. Of the pending receive buffer
only the first `numPendingReceivePackets` entries are ever looked at; the list here has just them. A
random draw is the exact fraction `k / 2^24` of its interval; other `float32` and `float64` results are
rounded.
-/

import Netcode.Model.Basic
import Mathlib.Algebra.Order.Ring.Unbundled.Rat
import Mathlib.Order.Monotone.Defs
import Mathlib.Logic.Function.Basic

namespace Netcode

def simulatorNumPacketEntries : Nat := MaxClients * 256
def simulatorNumPendingReceivePackets : Nat := MaxClients * 64
def simulatorRNGSeed : UInt64 := 0x9E3779B97F4A7C15

/-- The rounding of floating point results, of which only what IEEE 754 promises is known. -/
structure Rounding where
  float32 : ℚ → ℚ
  float64 : ℚ → ℚ
  float32_zero : float32 0 = 0
  float64_mono : Monotone float64

structure SimulatorPacketEntry where
  source : Address
  destination : Address
  deliveryTime : ℚ
  packetData : Option Bytes

/-- Go's `simulatorPacketEntry{}`. -/
def SimulatorPacketEntry.blank : SimulatorPacketEntry := ⟨Address.none, Address.none, 0, none⟩

/-- `entry.packetData = nil`. -/
def SimulatorPacketEntry.cleared (entry : SimulatorPacketEntry) : SimulatorPacketEntry :=
  { entry with packetData := none }

structure NetworkSimulator where
  latencyMilliseconds : ℚ
  jitterMilliseconds : ℚ
  packetLossPercent : ℚ
  duplicatePacketPercent : ℚ
  rngState : UInt64
  time : ℚ
  currentIndex : Nat
  packetEntries : Nat → SimulatorPacketEntry
  pendingReceivePackets : List SimulatorPacketEntry

/-- The next state of the generator. -/
def xorshift (x : UInt64) : UInt64 :=
  let x := x ^^^ (x >>> 12)
  let x := x ^^^ (x <<< 25)
  x ^^^ (x >>> 27)

/-- The 24 bits of a generator state that a draw uses. -/
def drawOf (x : UInt64) : UInt64 := (x * 0x2545F4914F6CDD1D) >>> 40

namespace NetworkSimulator

/-- `NewNetworkSimulator`. -/
def new : NetworkSimulator :=
  { latencyMilliseconds := 0
    jitterMilliseconds := 0
    packetLossPercent := 0
    duplicatePacketPercent := 0
    rngState := simulatorRNGSeed
    time := 0
    currentIndex := 0
    packetEntries := fun _ => .blank
    pendingReceivePackets := [] }

/-- `randomFloat(a, b)`: the draw and the simulator after it. -/
def randomFloat (sim : NetworkSimulator) (a b : ℚ) : ℚ × NetworkSimulator :=
  (a + (drawOf (xorshift sim.rngState)).toNat / 2 ^ 24 * (b - a),
    { sim with rngState := xorshift sim.rngState })

section Operations

variable (rounding : Rounding)

/-- The slot `append([]byte(nil), packetData...)` makes: `nil` for an empty packet. -/
def copied (packetData : Bytes) : Option Bytes :=
  if packetData = [] then none else some packetData

def queuePacket (sim : NetworkSimulator) (source destination : Address) (packetData : Bytes)
    (delay : ℚ) : NetworkSimulator :=
  { sim with
    packetEntries := Function.update sim.packetEntries sim.currentIndex
      ⟨source, destination, rounding.float64 (sim.time + delay), copied packetData⟩
    currentIndex := (sim.currentIndex + 1) % simulatorNumPacketEntries }

/-- The delay of a packet, with a draw for the jitter if there is any. -/
def packetDelay (sim : NetworkSimulator) : ℚ × NetworkSimulator :=
  let delay := rounding.float32 (sim.latencyMilliseconds / 1000)
  if 0 < sim.jitterMilliseconds then
    let (jitter, sim) := sim.randomFloat (-sim.jitterMilliseconds) sim.jitterMilliseconds
    (rounding.float32 (delay + rounding.float32 (jitter / 1000)), sim)
  else (delay, sim)

def sendPacket (sim : NetworkSimulator) (source destination : Address) (packetData : Bytes) :
    NetworkSimulator :=
  let (loss, sim) := sim.randomFloat 0 100
  if loss ≤ sim.packetLossPercent then sim
  else
    let (delay, sim) := sim.packetDelay rounding
    let sim := sim.queuePacket rounding source destination packetData delay
    let (duplicate, sim) := sim.randomFloat 0 100
    if duplicate ≤ sim.duplicatePacketPercent then
      let (later, sim) := sim.randomFloat 0 1
      sim.queuePacket rounding source destination packetData (rounding.float32 (delay + later))
    else sim

end Operations

/-- The loop of `ReceivePackets`, once it has `found` packets: the entries as it leaves them, and
the packets with the addresses they came from. -/
def collect (destination : Address) (maxPackets : Int) :
    (found : Nat) → List SimulatorPacketEntry → List SimulatorPacketEntry × List (Bytes × Address)
  | _, [] => ([], [])
  | found, entry :: rest =>
    if (found : Int) = maxPackets then (entry :: rest, [])
    else
      match entry.packetData with
      | none =>
        let (rest, packets) := collect destination maxPackets found rest
        (entry :: rest, packets)
      | some data =>
        if !entry.destination.Equal destination then
          let (rest, packets) := collect destination maxPackets found rest
          (entry :: rest, packets)
        else
          let (rest, packets) := collect destination maxPackets (found + 1) rest
          (entry.cleared :: rest, (data, entry.source) :: packets)

def receivePackets (sim : NetworkSimulator) (destination : Address) (maxPackets : Int) :
    NetworkSimulator × List (Bytes × Address) :=
  let (pending, packets) := collect destination maxPackets 0 sim.pendingReceivePackets
  ({ sim with pendingReceivePackets := pending }, packets)

/-- One turn of `Update`'s walk across the entries. A full buffer ends the walk: it stays full, so
that no later turn does anything. -/
def moveDue (time : ℚ) (sim : NetworkSimulator) (i : Nat) : NetworkSimulator :=
  if (sim.packetEntries i).packetData = none then sim
  else if sim.pendingReceivePackets.length = simulatorNumPendingReceivePackets then sim
  else if (sim.packetEntries i).deliveryTime ≤ time then
    { sim with
      pendingReceivePackets := sim.pendingReceivePackets ++ [sim.packetEntries i]
      packetEntries := Function.update sim.packetEntries i (sim.packetEntries i).cleared }
  else sim

/-- `Update`; what was not picked up since the last one is discarded. -/
def update (sim : NetworkSimulator) (time : ℚ) : NetworkSimulator :=
  (List.range simulatorNumPacketEntries).foldl (moveDue time)
    { sim with time := time, pendingReceivePackets := [] }

end NetworkSimulator

end Netcode
