/-
**Hostile input stays in bounds.**

The slots are in order and the mapping table is tidy after any calls, at whatever times. That puts every
state a server reaches in range, so that a datagram never leads outside an array.

* `Reached.inRange` — **every state a server reaches is in range**;
* `hostile_input_in_range` — the readers return on every input, and `ProcessPacket` on every datagram.
-/

import Netcode.Codec.Tokens
import Netcode.Server.InRange
import Netcode.Server.Reached

namespace Netcode

namespace Server

variable {env : Platform} {config : ServerConfig} {s : Server} {calls : List Call}

/-- **Every state a server reaches is in range**: a client's mapping is one of those in use. -/
theorem Reached.inRange (quiet : config.NonReentrant) (reached : Reached env config calls s) :
    Checked.InRange s := by
  obtain ⟨ok, tables⟩ := reached.ok quiet
  refine ⟨ok.size, tables.tidy.fit, fun i connected valid e isMapping => ?_⟩
  have network : (s.clients i).loopback = false := by
    by_contra loopback
    have nowhere : (s.clients i).address = Address.none :=
      (ok.loopback i (show (s.clients i).loopback = true by simpa using loopback)).1
    rw [nowhere] at valid
    exact valid rfl
  obtain ⟨e', mapped, equal⟩ := mapped_address ok connected network
  cases isMapping.symm.trans mapped
  exact lt_of_lt_of_le (tables.tidy.used (Address.Equal.type_ne_none equal)) tables.tidy.fit

/-- **Hostile input stays in bounds.** `readPacket` in place reads only within its buffer and its
tables, for every byte string, keys, table of allowed packets and replay window, and returns what
`readPacket` does. So do the readers of tokens, on buffers of any length. In every state a server
reaches, `ProcessPacket` handles every datagram with all its accesses to slots, mappings and history
entries in range. -/
theorem hostile_input_in_range (env : Platform) :
    (∀ protocolID currentTimestamp minConnectTokenExpireTimestamp allowedPackets buffer readPacketKey
        privateKey replayProtection,
      ∃ outcome, Checked.readPacket env protocolID currentTimestamp minConnectTokenExpireTimestamp
          allowedPackets buffer readPacketKey privateKey replayProtection = some outcome ∧
        readPacket env protocolID currentTimestamp minConnectTokenExpireTimestamp
          (fun type => allowedPackets type.code.toNat) buffer readPacketKey privateKey
          replayProtection = some outcome) ∧
    (∀ buffer, ∃ token?, ConnectTokenPrivate.read buffer = some token? ∧
      (token?.isSome = true → connectTokenPrivateBytes ≤ buffer.length)) ∧
    (∀ old buffer, old.serverAddresses.length = MaxServersPerConnect →
      ∃ result, ConnectToken.read old buffer = some result) ∧
    (∀ buffer, ∃ token?, ChallengeToken.read buffer = some token?) ∧
    ∀ config calls s, config.NonReentrant → Reached env config calls s →
      ∀ source packetData currentTimestamp reading,
        ∃ s', Checked.processPacket env config s source packetData currentTimestamp reading = some s' ∧
          processPacket env config s source packetData currentTimestamp reading = some s' := by
  refine ⟨fun protocolID currentTimestamp minimum allowedPackets buffer readPacketKey privateKey
      replayProtection => ?_, fun buffer => ?_, fun old buffer array => ConnectToken.read_isSome array
      buffer, ChallengeToken.read_returns, fun config calls s quiet reached source packetData
      currentTimestamp reading => ?_⟩
  · obtain ⟨outcome, returns, -⟩ := readPacket_spec env protocolID currentTimestamp minimum
      (fun type => allowedPackets type.code.toNat) buffer readPacketKey privateKey replayProtection
    refine ⟨outcome, ?_, returns⟩
    rw [Checked.readPacket_eq, returns]
  · obtain ⟨token?, returns⟩ := ConnectTokenPrivate.read_returns buffer
    refine ⟨token?, returns, fun accepted => ?_⟩
    by_contra short
    rw [ConnectTokenPrivate.read, if_pos (Nat.not_le.mp short)] at returns
    cases returns
    cases accepted
  · have ticked : (s.record (.clock currentTimestamp)).slotTable.Ok := (reached.ok quiet).1
    obtain ⟨s', returns, -⟩ := readAndProcessPacket_slots env quiet ticked source packetData
      currentTimestamp reading
    refine ⟨s', ?_, returns⟩
    rw [Checked.processPacket_eq env quiet (reached.inRange quiet)]
    exact returns

/-- A connected client, and a datagram from its address. -/
theorem hostile_input_in_range_connected :
    (∃ result, ConnectToken.read .empty [0, 1, 2] = some result) ∧
    ∃ calls s, Reached samplePlatform Sample.config calls s ∧ (s.clients 0).connected = true ∧
      (s.clients 0).address = Sample.firstAddress ∧
      ∃ s', Checked.processPacket samplePlatform Sample.config s Sample.firstAddress [0x14, 0, 0] 0 0 =
        some s' := by
  obtain ⟨-, -, tokens, -, datagrams⟩ := hostile_input_in_range samplePlatform
  obtain ⟨calls, s, reached, connected, address, -⟩ := connectFirst_reached
  obtain ⟨s', returns, -⟩ := datagrams Sample.config calls s Sample.config_nonReentrant reached
    Sample.firstAddress [0x14, 0, 0] 0 0
  exact ⟨tokens .empty [0, 1, 2] rfl, calls, s, reached, connected, address, s', returns⟩

end Server

end Netcode
