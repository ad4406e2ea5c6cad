/-
**The connect token codecs.**

What `write` puts before the padding (`fields`) is read back, and what `read` accepts is written again
byte for byte. The position of everything after the address list depends on the mix of 7 and 19 byte
addresses, so what a buffer holds (`consumed`) is found by walking over their type bytes.

* `ConnectTokenPrivate.read_eq_some` — **a buffer is accepted as a well formed token precisely if it
  starts with the token's fields**; `ConnectToken.read_accepted` and `ConnectToken.read_fields` are
  the two directions for the public token, which is read over an old one;
* `connect_token_codecs_exact` — both round trips and the exact rejections, for both formats.
-/

import Netcode.Codec.Fields
import Netcode.Model.Sample

namespace Netcode

open LittleEndian Codec

/-! ### Data in a cleared buffer -/

/-- A buffer that data was written to, the rest of it cleared. -/
theorem FixedBytes.copyFrom_short {size : Nat} {data : Bytes} (short : data.length ≤ size) :
    (FixedBytes.copyFrom size data).bytes = data ++ List.replicate (size - data.length) 0 := by
  simp only [FixedBytes.copyFrom, List.take_of_length_le short]

/-- Data that a buffer starts with, written into a cleared buffer of the same size. -/
theorem FixedBytes.copyFrom_front {size : Nat} {buffer : FixedBytes size} {data rest : Bytes}
    (isBuffer : buffer.bytes = data ++ rest) :
    data.length ≤ size ∧ (FixedBytes.copyFrom size data).bytes =
      buffer.bytes.take data.length ++ List.replicate (size - data.length) 0 := by
  have short : data.length ≤ size := by
    rw [← buffer.length_eq, isBuffer, List.length_append]
    omega
  rw [FixedBytes.copyFrom_short short, isBuffer, List.take_left]
  exact ⟨short, rfl⟩

/-! ### Address lists over empty arrays -/

/-- Reading over an empty array: the addresses that were read, with the unused fields zero, and then
the rest of the array. -/
theorem overwrites_none {count size : Nat} {addresses : List Address} :
    Overwrites count (List.replicate size Address.none) addresses ↔
      count ≤ size ∧ (∀ address ∈ addresses.take count, Address.none.Over address) ∧
        addresses.length = size ∧ addresses.drop count = List.replicate (size - count) Address.none := by
  induction count generalizing size addresses with
  | zero =>
    simp only [Overwrites, List.take_zero, List.drop_zero, Nat.sub_zero, Nat.zero_le, true_and]
    constructor
    · rintro rfl
      simp
    · rintro ⟨-, -, rfl⟩
      rfl
  | succ count ih =>
    cases size with
    | zero => simp [Overwrites]
    | succ size =>
      cases addresses with
      | nil => simp [List.replicate_succ, Overwrites]
      | cons address addresses =>
        simp only [List.replicate_succ, Overwrites, ih, List.take_succ_cons, List.mem_cons,
          forall_eq_or_imp, List.length_cons, List.drop_succ_cons, Nat.add_sub_add_right,
          Nat.add_le_add_iff_right, Nat.add_right_cancel_iff]
        tauto

/-- Addresses of known families can be written, 19 bytes each at most. -/
theorem writeAddresses_isSome {addresses : List Address}
    (known : ∀ address ∈ addresses, address.type = AddressIPv4 ∨ address.type = AddressIPv6) :
    ∃ bytes, writeAddresses addresses = some bytes ∧ bytes.length ≤ 19 * addresses.length := by
  induction addresses with
  | nil => exact ⟨[], rfl, Nat.le_refl _⟩
  | cons address addresses ih =>
    obtain ⟨others, writesOthers, few⟩ := ih fun other mem => known other (.tail _ mem)
    have writes : ∃ first, writeAddress address = some first := by
      unfold writeAddress
      rcases known address (.head _) with four | six
      · exact ⟨_, if_pos four⟩
      · rw [if_neg (by rw [six]; decide)]
        exact ⟨_, if_pos six⟩
    obtain ⟨first, writesFirst⟩ := writes
    have size : first.length ≤ 19 := by
      rw [writeAddress_length writesFirst, Address.wireSize]
      split_ifs <;> omega
    refine ⟨first ++ others, by simp [writeAddresses_cons, writesFirst, writesOthers], ?_⟩
    rw [List.length_append, List.length_cons]
    omega

theorem Address.Over.known {old address : Address} (covers : old.Over address) :
    address.type = AddressIPv4 ∨ address.type = AddressIPv6 :=
  covers.imp And.left And.left

/-- The number of addresses of a well formed token, as it is on the wire. -/
theorem toInt_ofNat_small {count : Nat} (few : count ≤ MaxServersPerConnect) :
    (UInt32.ofNat count).toInt32.toInt = count ∧ (UInt32.ofNat count).toNat = count := by
  have small : count ≤ 32 := few
  have nat : (UInt32.ofNat count).toNat = count :=
    UInt32.toNat_ofNat_of_lt (show count < 2 ^ 32 by omega)
  rw [toInt_toInt32, nat]
  exact ⟨Int.bmod_eq_of_le (by omega) (by omega), rfl⟩

/-! ### The private connect token -/

namespace ConnectTokenPrivate

/-- What `connectTokenPrivate.write` writes before it clears the rest of its buffer. -/
def fields (token : ConnectTokenPrivate) : Go Bytes := do
  let addresses ← writeAddresses token.serverAddresses
  return uint64Bytes token.clientID ++ uint32Bytes token.timeoutSeconds.toUInt32 ++
    uint32Bytes (UInt32.ofNat token.serverAddresses.length) ++ addresses ++
    token.clientToServerKey.bytes ++ token.serverToClientKey.bytes ++ token.userData.bytes

theorem write_eq (token : ConnectTokenPrivate) :
    token.write = token.fields.bind fun data =>
      if data.length ≤ connectTokenPrivateBytes then
        some (.copyFrom connectTokenPrivateBytes data) else none := by
  unfold write fields
  cases writeAddresses token.serverAddresses with
  | none => simp only [Option.bind_eq_bind, Option.bind_none]
  | some addresses => simp only [Option.bind_eq_bind, Option.bind_some, Option.pure_def]

/-- A private token with 1 to 32 addresses of known families, their unused fields zero. -/
structure WellFormed (token : ConnectTokenPrivate) : Prop where
  some_address : 1 ≤ token.serverAddresses.length
  few_addresses : token.serverAddresses.length ≤ MaxServersPerConnect
  addresses : ∀ address ∈ token.serverAddresses, Address.none.Over address

/-- **The data of a well formed token leaves the last 16 bytes of its buffer free.** -/
theorem WellFormed.fields_length {token : ConnectTokenPrivate} (wellFormed : token.WellFormed) :
    ∃ data, token.fields = some data ∧ data.length ≤ connectTokenPrivateBytes - MacBytes := by
  obtain ⟨addresses, writes, size⟩ := writeAddresses_isSome fun address mem =>
    (wellFormed.addresses address mem).known
  refine ⟨_, by rw [fields, writes]; rfl, ?_⟩
  have few : token.serverAddresses.length ≤ 32 := wellFormed.few_addresses
  simp only [List.length_append, uint64Bytes_length, uint32Bytes_length,
    token.clientToServerKey.length_eq, token.serverToClientKey.length_eq, token.userData.length_eq,
    KeyBytes, UserDataBytes, connectTokenPrivateBytes, MacBytes]
  omega

/-- **What `read` can do with a buffer**: after the first three fields it stops at a bad count, or
reads the addresses and stops at a bad type, or reads all the rest. -/
theorem read_cases {buffer : Bytes} (long : connectTokenPrivateBytes ≤ buffer.length)
    {result : Option ConnectTokenPrivate} (reads : read buffer = some result) :
    ∃ clientID timeout count rest,
      buffer = (uint64Bytes clientID ++ uint32Bytes timeout) ++ (uint32Bytes count ++ rest) ∧
      ((count.toInt32.toInt ≤ 0 ∨ (MaxServersPerConnect : Int) < count.toInt32.toInt) ∧
          result = none ∨
        (0 < count.toInt32.toInt ∧ count.toInt32.toInt ≤ MaxServersPerConnect) ∧
          ∃ addresses good final,
            readAddresses count.toNat noAddresses rest = some (addresses, good, final) ∧
            (good = false ∧ result = none ∨
              good = true ∧ ∃ first second userData unread,
                final = first.bytes ++ (second.bytes ++ (userData.bytes ++ unread)) ∧
                result = some ⟨clientID, timeout.toInt32, addresses.take count.toNat, first, second,
                  userData⟩)) := by
  rw [read, if_neg (Nat.not_lt.mpr long)] at reads
  simp only [readUint64_exact.bind_eq_some, readUint32_exact.bind_eq_some] at reads
  obtain ⟨clientID, _, rfl, timeout, _, rfl, count, rest, rfl, reads⟩ := reads
  refine ⟨clientID, timeout, count, rest, (List.append_assoc _ _ _).symm, ?_⟩
  split_ifs at reads with range
  · cases reads
    exact .inl ⟨range, rfl⟩
  obtain ⟨⟨addresses, good, final⟩, readsAddresses, reads⟩ := Option.bind_eq_some_iff.mp reads
  simp only [not_or, not_le, not_lt] at range
  refine .inr ⟨range, addresses, good, final, readsAddresses, ?_⟩
  cases good with
  | false =>
    cases reads
    exact .inl ⟨rfl, rfl⟩
  | true =>
    simp only [Bool.not_true, Bool.false_eq_true, if_false, (readBytes_exact _).bind_eq_some] at reads
    obtain ⟨first, _, rfl, second, _, rfl, userData, unread, rfl, same⟩ := reads
    cases same
    exact .inr ⟨rfl, first, second, userData, unread, rfl, rfl⟩

/-- The bytes that `read` takes off a buffer it accepts: 16 with the count, the addresses, two keys
and the user data. -/
def consumed (buffer : Bytes) : Option Nat :=
  (addressListLength 12 buffer).map (16 + · + KeyBytes + KeyBytes + UserDataBytes)

/-- **An accepted buffer** starts with the fields of a well formed token. -/
theorem read_accepted {buffer : Bytes} (long : connectTokenPrivateBytes ≤ buffer.length)
    {token : ConnectTokenPrivate} (reads : read buffer = some (some token)) :
    token.WellFormed ∧ ∃ data rest, token.fields = some data ∧ buffer = data ++ rest ∧
      consumed buffer = some data.length := by
  obtain ⟨clientID, timeout, count, rest, rfl, ⟨-, impossible⟩ | ⟨range, addresses, good, final,
    readsAddresses, ⟨-, impossible⟩ | ⟨rfl, first, second, userData, unread, rfl, same⟩⟩⟩ :=
    read_cases long reads
  · cases impossible
  · cases impossible
  cases same
  obtain ⟨bytes, writes, rfl, layout⟩ := addressesLength_of_read readsAddresses
  obtain ⟨-, -, -, covers⟩ := readAddresses_eq_some.mp readsAddresses
  obtain ⟨few, known, size, -⟩ := overwrites_none.mp covers
  have number := toInt_of_nonneg range.1.le
  have length : (addresses.take count.toNat).length = count.toNat := by
    rw [List.length_take, size]
    exact Nat.min_eq_left few
  refine ⟨⟨?_, length.trans_le few, known⟩, _, unread, by rw [fields, writes]; rfl, ?_, ?_⟩
  · show 1 ≤ (addresses.take count.toNat).length
    omega
  · simp only [length, UInt32.ofNat_toNat, UInt32.toUInt32_toInt32, List.append_assoc]
  · rw [consumed, addressListLength_append (by simp), if_pos range, layout]
    simp only [Option.map_some, List.length_append, uint64Bytes_length, uint32Bytes_length,
      first.length_eq, second.length_eq, userData.length_eq]

/-- **A rejected buffer** has a bad count or a bad address type. -/
theorem read_rejected {buffer : Bytes} (long : connectTokenPrivateBytes ≤ buffer.length)
    (reads : read buffer = some none) : addressListLength 12 buffer = none := by
  obtain ⟨clientID, timeout, count, rest, rfl, ⟨range, -⟩ | ⟨range, addresses, good, final,
    readsAddresses, ⟨rfl, -⟩ | ⟨-, _, _, _, _, -, impossible⟩⟩⟩ := read_cases long reads
  · rw [addressListLength_append (by simp), if_neg (by omega)]
  · rw [addressListLength_append (by simp), if_pos range, addressesLength_of_rejected readsAddresses]
  · cases impossible

/-- **A buffer is accepted as a token precisely if it starts with the fields of that token.** -/
theorem read_eq_some {buffer : Bytes} (long : connectTokenPrivateBytes ≤ buffer.length)
    {token : ConnectTokenPrivate} :
    read buffer = some (some token) ↔
      token.WellFormed ∧ ∃ data rest, token.fields = some data ∧ buffer = data ++ rest := by
  constructor
  · intro reads
    obtain ⟨wellFormed, data, rest, isData, isBuffer, -⟩ := read_accepted long reads
    exact ⟨wellFormed, data, rest, isData, isBuffer⟩
  · rintro ⟨wellFormed, data, rest, isData, rfl⟩
    rw [read, if_neg (Nat.not_lt.mpr long)]
    obtain ⟨addresses, writes, same⟩ := Option.bind_eq_some_iff.mp isData
    cases same
    obtain ⟨number, nat⟩ := toInt_ofNat_small wellFormed.few_addresses
    have some_address := wellFormed.some_address
    have few_addresses := wellFormed.few_addresses
    have take : (token.serverAddresses ++ List.replicate (MaxServersPerConnect -
        token.serverAddresses.length) Address.none).take token.serverAddresses.length =
          token.serverAddresses := List.take_left
    have reads : ∀ rest, readAddresses token.serverAddresses.length noAddresses (addresses ++ rest) =
        some (token.serverAddresses ++ List.replicate (MaxServersPerConnect -
          token.serverAddresses.length) Address.none, true, rest) := by
      intro rest
      refine readAddresses_eq_some.mpr ⟨addresses, by rw [take]; exact writes, rfl, ?_⟩
      refine overwrites_none.mpr ⟨few_addresses, ?_, ?_, List.drop_left⟩
      · rw [take]
        exact wellFormed.addresses
      · rw [List.length_append, List.length_replicate]
        omega
    simp only [List.append_assoc, readUint64_exact.read_append, readUint32_exact.read_append,
      Option.bind_eq_bind, Option.bind_some, number, nat]
    rw [if_neg (by omega)]
    simp only [reads, Option.bind_some, Bool.not_true, Bool.false_eq_true, if_false,
      (readBytes_exact _).read_append, take, Int32.toInt32_toUInt32]
    rfl

/-- **A well formed token is written and read back.** -/
theorem WellFormed.read_write {token : ConnectTokenPrivate} (wellFormed : token.WellFormed) :
    ∃ data, token.fields = some data ∧ data.length ≤ connectTokenPrivateBytes - MacBytes ∧
      token.write = some (.copyFrom connectTokenPrivateBytes data) ∧
      read (FixedBytes.copyFrom connectTokenPrivateBytes data).bytes = some (some token) := by
  obtain ⟨data, isData, free⟩ := wellFormed.fields_length
  have short : data.length ≤ connectTokenPrivateBytes := free.trans (Nat.sub_le _ _)
  refine ⟨data, isData, free, by rw [write_eq, isData, Option.bind_some, if_pos short], ?_⟩
  rw [read_eq_some (FixedBytes.length_eq _).ge]
  exact ⟨wellFormed, data, _, isData, FixedBytes.copyFrom_short short⟩

/-- **A MAC in the last 16 bytes does not disturb the token.** -/
theorem WellFormed.read_with_mac {token : ConnectTokenPrivate} (wellFormed : token.WellFormed)
    {written : FixedBytes connectTokenPrivateBytes} (writes : token.write = some written)
    {mac : Bytes} (size : mac.length = MacBytes) :
    read (written.bytes.take (connectTokenPrivateBytes - MacBytes) ++ mac) = some (some token) := by
  obtain ⟨data, isData, free⟩ := wellFormed.fields_length
  have short : data.length ≤ connectTokenPrivateBytes := free.trans (Nat.sub_le _ _)
  rw [write_eq, isData, Option.bind_some, if_pos short] at writes
  cases writes
  have long : connectTokenPrivateBytes ≤ ((FixedBytes.copyFrom connectTokenPrivateBytes
      data).bytes.take (connectTokenPrivateBytes - MacBytes) ++ mac).length := by
    rw [List.length_append, List.length_take, FixedBytes.length_eq, size]
    decide
  rw [read_eq_some long, FixedBytes.copyFrom_short short, List.take_append,
    List.take_of_length_le free]
  exact ⟨wellFormed, data, _, isData, List.append_assoc _ _ _⟩

/-- **What was read is written again.** -/
theorem write_read {buffer : FixedBytes connectTokenPrivateBytes} {token : ConnectTokenPrivate}
    (reads : read buffer.bytes = some (some token)) :
    ∃ size written, consumed buffer.bytes = some size ∧ token.write = some written ∧
      written.bytes =
        buffer.bytes.take size ++ List.replicate (connectTokenPrivateBytes - size) 0 := by
  obtain ⟨-, data, rest, isData, isBuffer, size⟩ := read_accepted buffer.length_eq.ge reads
  obtain ⟨short, written⟩ := FixedBytes.copyFrom_front isBuffer
  exact ⟨_, _, size, by rw [write_eq, isData, Option.bind_some, if_pos short], written⟩

/-- **The rejected buffers** are those with a bad count or a bad address type. -/
theorem read_eq_none_iff (buffer : FixedBytes connectTokenPrivateBytes) :
    read buffer.bytes = some none ↔ addressListLength 12 buffer.bytes = none := by
  refine ⟨read_rejected buffer.length_eq.ge, fun bad => ?_⟩
  obtain ⟨result, reads⟩ := read_isSome buffer
  cases result with
  | none => exact reads
  | some token =>
    obtain ⟨-, data, rest, -, -, size⟩ := read_accepted buffer.length_eq.ge reads
    rw [consumed, bad] at size
    cases size

end ConnectTokenPrivate

/-! ### The public connect token -/

namespace ConnectToken

/-- What `connectToken.write` writes before it clears the rest of its buffer. -/
def fields (token : ConnectToken) : Go Bytes :=
  if token.serverAddresses.length < token.numServerAddresses.toNat then none
  else do
    let addresses ← writeAddresses (token.serverAddresses.take token.numServerAddresses.toNat)
    return versionInfo.bytes ++ uint64Bytes token.protocolID ++
      uint64Bytes token.createTimestamp ++ uint64Bytes token.expireTimestamp ++
      token.nonce.bytes ++ token.privateData.bytes ++ uint32Bytes token.timeoutSeconds.toUInt32 ++
      uint32Bytes (Int32.ofInt token.numServerAddresses).toUInt32 ++ addresses ++
      token.clientToServerKey.bytes ++ token.serverToClientKey.bytes

theorem write_eq (token : ConnectToken) :
    token.write = token.fields.bind fun data =>
      if data.length ≤ ConnectTokenBytes then some (.copyFrom ConnectTokenBytes data) else none := by
  unfold write fields
  split_ifs with beyond
  · rfl
  · cases writeAddresses (token.serverAddresses.take token.numServerAddresses.toNat) with
    | none => simp only [Option.bind_eq_bind, Option.bind_none]
    | some addresses => simp only [Option.bind_eq_bind, Option.bind_some, Option.pure_def]

/-- A public token with 1 to 32 addresses of known families and no other unused data, that does not
expire before it was created. -/
structure WellFormed (token : ConnectToken) : Prop where
  some_address : 0 < token.numServerAddresses
  few_addresses : token.numServerAddresses ≤ MaxServersPerConnect
  array : token.serverAddresses.length = MaxServersPerConnect
  addresses : ∀ address ∈ token.serverAddresses.take token.numServerAddresses.toNat,
    Address.none.Over address
  unused : ∀ address ∈ token.serverAddresses.drop token.numServerAddresses.toNat,
    address = Address.none
  timestamps : token.createTimestamp ≤ token.expireTimestamp

/-- **What `read` can do with a buffer of the right length**: it stops at bad version info, at bad
timestamps, at a bad count or at a bad address type, or reads everything. -/
theorem read_cases {old token : ConnectToken} {buffer : Bytes} {accepted : Bool}
    (size : buffer.length = ConnectTokenBytes)
    (reads : read old buffer = some (token, accepted)) :
    ∃ version rest, buffer = FixedBytes.bytes version ++ rest ∧
      (version ≠ versionInfo ∧ accepted = false ∧ token.serverAddresses = old.serverAddresses ∨
        version = versionInfo ∧ ∃ protocolID created expires rest',
          rest = uint64Bytes protocolID ++ (uint64Bytes created ++ (uint64Bytes expires ++ rest')) ∧
          (expires < created ∧ accepted = false ∧
              token.serverAddresses = old.serverAddresses ∨
            created ≤ expires ∧ ∃ nonce privateData timeout count list,
              rest' = FixedBytes.bytes nonce ++ (FixedBytes.bytes privateData ++
                (uint32Bytes timeout ++ (uint32Bytes count ++ list))) ∧
              (¬ (0 < count.toInt32.toInt ∧ count.toInt32.toInt ≤ MaxServersPerConnect) ∧
                  accepted = false ∧ token.serverAddresses = old.serverAddresses ∨
                (0 < count.toInt32.toInt ∧ count.toInt32.toInt ≤ MaxServersPerConnect) ∧
                  ∃ addresses good final,
                    readAddresses count.toNat old.serverAddresses list =
                      some (addresses, good, final) ∧
                    (good = false ∧ accepted = false ∧ token.serverAddresses = addresses ∨
                      good = true ∧ accepted = true ∧ ∃ first second unread,
                        final = FixedBytes.bytes first ++ (FixedBytes.bytes second ++ unread) ∧
                        token = ⟨protocolID, created, expires, nonce, privateData, timeout.toInt32,
                          count.toInt32.toInt, addresses, first, second⟩)))) := by
  rw [read, if_neg (not_not.mpr size), (readBytes_exact _).bind_eq_some] at reads
  obtain ⟨version, rest, rfl, reads⟩ := reads
  refine ⟨version, rest, rfl, ?_⟩
  dsimp only at reads
  split_ifs at reads with isVersion
  · cases reads
    exact .inl ⟨isVersion, rfl, rfl⟩
  simp only [readUint64_exact.bind_eq_some] at reads
  obtain ⟨protocolID, _, rfl, created, _, rfl, expires, rest', rfl, reads⟩ := reads
  refine .inr ⟨not_not.mp isVersion, protocolID, created, expires, rest', rfl, ?_⟩
  split_ifs at reads with timestamps
  · cases reads
    exact .inl ⟨timestamps, rfl, rfl⟩
  simp only [(readBytes_exact _).bind_eq_some, readUint32_exact.bind_eq_some] at reads
  obtain ⟨nonce, _, rfl, privateData, _, rfl, timeout, _, rfl, count, list, rfl, reads⟩ := reads
  refine .inr ⟨UInt64.not_lt.mp timestamps, nonce, privateData, timeout, count, list, rfl, ?_⟩
  split_ifs at reads with range
  · cases reads
    exact .inl ⟨by omega, rfl, rfl⟩
  obtain ⟨⟨addresses, good, final⟩, readsAddresses, reads⟩ := Option.bind_eq_some_iff.mp reads
  refine .inr ⟨by omega, addresses, good, final, readsAddresses, ?_⟩
  cases good with
  | false =>
    cases reads
    exact .inl ⟨rfl, rfl, rfl⟩
  | true =>
    simp only [Bool.not_true, Bool.false_eq_true, if_false, (readBytes_exact _).bind_eq_some] at reads
    obtain ⟨first, _, rfl, second, unread, rfl, same⟩ := reads
    cases same
    exact .inr ⟨rfl, rfl, first, second, unread, rfl, rfl⟩

/-- The bytes that `read` takes off a buffer it accepts: 1093 with the count, the addresses and two
keys. -/
def consumed (buffer : Bytes) : Option Nat :=
  (addressListLength 1089 buffer).map (1093 + · + KeyBytes + KeyBytes)

/-- The header of a buffer that was read up to its address list. -/
theorem layout_of_header {buffer list : Bytes} {version : FixedBytes versionInfoBytes}
    {protocolID created expires : UInt64} {nonce : FixedBytes connectTokenNonceBytes}
    {privateData : FixedBytes connectTokenPrivateBytes} {timeout count : UInt32}
    (isBuffer : buffer = version.bytes ++ (uint64Bytes protocolID ++ (uint64Bytes created ++
      (uint64Bytes expires ++ (nonce.bytes ++ (privateData.bytes ++ (uint32Bytes timeout ++
        (uint32Bytes count ++ list)))))))) :
    addressListLength 1089 buffer =
      if 0 < count.toInt32.toInt ∧ count.toInt32.toInt ≤ MaxServersPerConnect then
        addressesLength count.toNat list
      else none := by
  have regrouped : buffer = (version.bytes ++ uint64Bytes protocolID ++ uint64Bytes created ++
      uint64Bytes expires ++ nonce.bytes ++ privateData.bytes ++ uint32Bytes timeout) ++
        (uint32Bytes count ++ list) := by
    rw [isBuffer]
    simp only [List.append_assoc]
  rw [regrouped]
  refine addressListLength_append ?_ count list
  simp only [List.length_append, version.length_eq, uint64Bytes_length, nonce.length_eq,
    privateData.length_eq, uint32Bytes_length, versionInfoBytes, connectTokenNonceBytes,
    connectTokenPrivateBytes]

/-- The timestamps of a buffer that was read up to them. -/
theorem timestamps_of_header {buffer rest : Bytes} {version : FixedBytes versionInfoBytes}
    {protocolID created expires : UInt64}
    (isBuffer : buffer = version.bytes ++ (uint64Bytes protocolID ++ (uint64Bytes created ++
      (uint64Bytes expires ++ rest)))) :
    uint64At 21 buffer = created ∧ uint64At 29 buffer = expires := by
  constructor
  · rw [isBuffer, ← List.append_assoc]
    refine uint64At_append ?_ created _
    rw [List.length_append, version.length_eq, uint64Bytes_length]
    rfl
  · rw [isBuffer, ← List.append_assoc, ← List.append_assoc]
    refine uint64At_append ?_ expires _
    rw [List.length_append, List.length_append, version.length_eq, uint64Bytes_length,
      uint64Bytes_length]
    rfl

/-- **An accepted buffer** starts with the fields of a token, read over the old array. -/
theorem read_accepted {old token : ConnectToken} {buffer : Bytes}
    (size : buffer.length = ConnectTokenBytes) (reads : read old buffer = some (token, true)) :
    (buffer.take versionInfoBytes = versionInfo.bytes ∧ uint64At 21 buffer ≤ uint64At 29 buffer) ∧
      (0 < token.numServerAddresses ∧ token.numServerAddresses ≤ MaxServersPerConnect) ∧
      ∃ data rest, token.fields = some data ∧ buffer = data ++ rest ∧
        consumed buffer = some data.length := by
  obtain ⟨version, rest, rfl, ⟨-, impossible, -⟩ | ⟨rfl, protocolID, created, expires, rest', rfl,
    ⟨-, impossible, -⟩ | ⟨timestamps, nonce, privateData, timeout, count, list, rfl,
      ⟨-, impossible, -⟩ | ⟨range, addresses, good, final, readsAddresses,
        ⟨-, impossible, -⟩ | ⟨rfl, -, first, second, unread, rfl, rfl⟩⟩⟩⟩⟩ := read_cases size reads
  any_goals cases impossible
  obtain ⟨bytes, writes, rfl, layout⟩ := addressesLength_of_read readsAddresses
  obtain ⟨-, -, -, covers⟩ := readAddresses_eq_some.mp readsAddresses
  have number := toInt_of_nonneg range.1.le
  have enough := covers.length
  refine ⟨⟨List.take_left' versionInfo.length_eq, ?_⟩, range, ?_⟩
  · rw [(timestamps_of_header rfl).1, (timestamps_of_header rfl).2]
    exact timestamps
  have isFields : fields ⟨protocolID, created, expires, nonce, privateData, timeout.toInt32,
      count.toInt32.toInt, addresses, first, second⟩ = some (versionInfo.bytes ++
        uint64Bytes protocolID ++ uint64Bytes created ++ uint64Bytes expires ++ nonce.bytes ++
        privateData.bytes ++ uint32Bytes timeout ++ uint32Bytes count ++ bytes ++ first.bytes ++
        second.bytes) := by
    simp only [fields, number, Int.toNat_natCast]
    rw [if_neg (by omega), writes, ← number, Int32.ofInt_toInt, UInt32.toUInt32_toInt32,
      UInt32.toUInt32_toInt32]
    rfl
  refine ⟨_, unread, isFields, by simp only [List.append_assoc], ?_⟩
  rw [consumed, layout_of_header rfl, if_pos range, layout, Option.map_some, Option.some_inj]
  simp only [List.length_append, versionInfo.length_eq, uint64Bytes_length, nonce.length_eq,
    privateData.length_eq, uint32Bytes_length, first.length_eq, second.length_eq, versionInfoBytes,
    connectTokenNonceBytes, connectTokenPrivateBytes]

/-- **A rejected buffer** has bad version info, bad timestamps, a bad count or a bad address type. -/
theorem read_rejected {old token : ConnectToken} {buffer : Bytes}
    (size : buffer.length = ConnectTokenBytes) (reads : read old buffer = some (token, false)) :
    buffer.take versionInfoBytes ≠ versionInfo.bytes ∨ uint64At 29 buffer < uint64At 21 buffer ∨
      addressListLength 1089 buffer = none := by
  obtain ⟨version, rest, rfl, ⟨wrong, -, -⟩ | ⟨rfl, protocolID, created, expires, rest', rfl,
    ⟨timestamps, -, -⟩ | ⟨-, nonce, privateData, timeout, count, list, rfl,
      ⟨range, -, -⟩ | ⟨range, addresses, good, final, readsAddresses,
        ⟨rfl, -, -⟩ | ⟨-, impossible, -⟩⟩⟩⟩⟩ := read_cases size reads
  · left
    rw [List.take_left' version.length_eq]
    exact fun same => wrong (FixedBytes.ext same)
  · right; left
    rw [(timestamps_of_header rfl).1, (timestamps_of_header rfl).2]
    exact timestamps
  · right; right
    rw [layout_of_header rfl, if_neg range]
  · right; right
    rw [layout_of_header rfl, if_pos range, addressesLength_of_rejected readsAddresses]
  · cases impossible

/-- Reading keeps the size of the address array, whether it accepts the buffer or not. -/
theorem read_array {old token : ConnectToken} {buffer : Bytes} {accepted : Bool}
    (reads : read old buffer = some (token, accepted)) :
    token.serverAddresses.length = old.serverAddresses.length := by
  by_cases size : buffer.length = ConnectTokenBytes
  case neg =>
    rw [read, if_pos size] at reads
    cases reads
    rfl
  obtain ⟨version, rest, -, ⟨-, -, same⟩ | ⟨-, protocolID, created, expires, rest', -,
    ⟨-, -, same⟩ | ⟨-, nonce, privateData, timeout, count, list, -,
      ⟨-, -, same⟩ | ⟨-, addresses, good, final, readsAddresses, stops⟩⟩⟩⟩ := read_cases size reads
  · rw [same]
  · rw [same]
  · rw [same]
  · obtain ⟨-, -, same⟩ | ⟨-, -, first, second, unread, -, rfl⟩ := stops
    · rw [same, readAddresses_length readsAddresses]
    · exact readAddresses_length readsAddresses

/-- A count from 1 to 32 as it is on the wire. -/
theorem count_on_wire {count : Int} (positive : 0 < count) (few : count ≤ MaxServersPerConnect) :
    (Int32.ofInt count).toUInt32.toInt32.toInt = count ∧
      (Int32.ofInt count).toUInt32.toNat = count.toNat := by
  simp only [MaxServersPerConnect] at few
  have number : (Int32.ofInt count).toUInt32.toInt32.toInt = count := by
    rw [Int32.toInt32_toUInt32]
    exact Int32.toInt_ofInt_of_le (by omega) (by omega)
  have nat := toInt_of_nonneg (number ▸ positive.le)
  exact ⟨number, by omega⟩

/-- **The fields of a token are read back**, over any old token whose addresses it overwrites. -/
theorem read_fields {old token : ConnectToken} {data rest : Bytes} (isData : token.fields = some data)
    (full : (data ++ rest).length = ConnectTokenBytes) (positive : 0 < token.numServerAddresses)
    (few : token.numServerAddresses ≤ MaxServersPerConnect)
    (timestamps : token.createTimestamp ≤ token.expireTimestamp)
    (covers : Overwrites token.numServerAddresses.toNat old.serverAddresses token.serverAddresses) :
    read old (data ++ rest) = some (token, true) := by
  unfold fields at isData
  split_ifs at isData with beyond
  obtain ⟨addresses, writes, same⟩ := Option.bind_eq_some_iff.mp isData
  cases same
  obtain ⟨number, nat⟩ := count_on_wire positive few
  have reads : ∀ rest, readAddresses token.numServerAddresses.toNat old.serverAddresses
      (addresses ++ rest) = some (token.serverAddresses, true, rest) :=
    fun rest => readAddresses_eq_some.mpr ⟨addresses, writes, rfl, covers⟩
  simp only [List.append_assoc] at full ⊢
  rw [read, if_neg (not_not.mpr full), (readBytes_exact _).read_append, Option.bind_eq_bind,
    Option.bind_some]
  dsimp only
  rw [if_neg (not_not.mpr rfl)]
  simp only [readUint64_exact.read_append, Option.bind_eq_bind, Option.bind_some]
  rw [if_neg (UInt64.not_lt.mpr timestamps)]
  simp only [(readBytes_exact _).read_append, readUint32_exact.read_append, Option.bind_some, number,
    nat]
  rw [if_neg (by omega)]
  simp only [reads, Option.bind_some, Bool.not_true, Bool.false_eq_true, if_false,
    (readBytes_exact _).read_append, Int32.toInt32_toUInt32]
  rfl

/-- **The data of a well formed token fits its buffer.** -/
theorem WellFormed.fields_length {token : ConnectToken} (wellFormed : token.WellFormed) :
    ∃ data, token.fields = some data ∧ data.length ≤ ConnectTokenBytes := by
  obtain ⟨addresses, writes, size⟩ := writeAddresses_isSome fun address mem =>
    (wellFormed.addresses address mem).known
  have few : token.numServerAddresses ≤ 32 := wellFormed.few_addresses
  have array : token.serverAddresses.length = 32 := wellFormed.array
  have enough : ¬ token.serverAddresses.length < token.numServerAddresses.toNat := by omega
  refine ⟨_, by rw [fields, if_neg enough, writes]; rfl, ?_⟩
  rw [List.length_take, array] at size
  simp only [List.length_append, versionInfo.length_eq, uint64Bytes_length, uint32Bytes_length,
    token.nonce.length_eq, token.privateData.length_eq, token.clientToServerKey.length_eq,
    token.serverToClientKey.length_eq, versionInfoBytes, connectTokenNonceBytes,
    connectTokenPrivateBytes, KeyBytes, ConnectTokenBytes]
  omega

/-- A well formed token over an empty array. -/
theorem WellFormed.overwrites {token : ConnectToken} (wellFormed : token.WellFormed) :
    Overwrites token.numServerAddresses.toNat noAddresses token.serverAddresses := by
  have few := wellFormed.few_addresses
  refine overwrites_none.mpr ⟨by omega, wellFormed.addresses, wellFormed.array, ?_⟩
  rw [List.eq_replicate_iff, List.length_drop, wellFormed.array]
  exact ⟨rfl, wellFormed.unused⟩

/-- **Reading a token never runs past its 2048 bytes.** -/
theorem read_isSome {old : ConnectToken} (array : old.serverAddresses.length = MaxServersPerConnect)
    (buffer : Bytes) : ∃ result, read old buffer = some result := by
  unfold read
  split_ifs with wrong
  · exact ⟨_, rfl⟩
  have size : buffer.length = 2048 := not_not.mp wrong
  refine (readBytes_sized versionInfoBytes).bind (by rw [size]; decide) fun version rest left => ?_
  rw [size, versionInfoBytes] at left
  dsimp only
  by_cases isVersion : version ≠ versionInfo
  · exact ⟨_, if_pos isVersion⟩
  rw [if_neg isVersion]
  refine readUint64_sized.bind (by omega) fun protocolID rest₁ left₁ => ?_
  dsimp only
  refine readUint64_sized.bind (by omega) fun created rest₂ left₂ => ?_
  dsimp only
  refine readUint64_sized.bind (by omega) fun expires rest₃ left₃ => ?_
  dsimp only
  by_cases timestamps : created > expires
  · exact ⟨_, if_pos timestamps⟩
  rw [if_neg timestamps]
  refine (readBytes_sized connectTokenNonceBytes).bind (by simp only [connectTokenNonceBytes]; omega)
    fun nonce rest₄ left₄ => ?_
  dsimp only
  refine (readBytes_sized connectTokenPrivateBytes).bind ?_ fun privateData rest₅ left₅ => ?_
  · simp only [connectTokenNonceBytes, connectTokenPrivateBytes] at left₄ ⊢
    omega
  simp only [connectTokenNonceBytes, connectTokenPrivateBytes] at left₄ left₅
  dsimp only
  refine readUint32_sized.bind (by omega) fun timeout rest₆ left₆ => ?_
  dsimp only
  refine readUint32_sized.bind (by omega) fun count rest₇ left₇ => ?_
  dsimp only
  by_cases range : count.toInt32.toInt ≤ 0 ∨ (MaxServersPerConnect : Int) < count.toInt32.toInt
  · exact ⟨_, if_pos range⟩
  rw [if_neg range]
  have number := toInt_of_nonneg (show 0 ≤ count.toInt32.toInt by omega)
  have few : count.toNat ≤ 32 := by
    simp only [MaxServersPerConnect] at range
    omega
  obtain ⟨addresses, good, final, reads, left₈⟩ := readAddresses_isSome rest₇ count.toNat
    old.serverAddresses (by rw [array]; exact few) (by omega)
  simp only [reads, Option.bind_eq_bind, Option.bind_some]
  cases good with
  | false => exact ⟨_, rfl⟩
  | true =>
    refine (readBytes_sized KeyBytes).bind (by simp only [KeyBytes]; omega) fun first rest₉ left₉ => ?_
    dsimp only
    refine (readBytes_sized KeyBytes).bind ?_ fun second unread left' => ⟨_, rfl⟩
    simp only [KeyBytes] at left₉ ⊢
    omega

/-- **A well formed token is written and read back.** -/
theorem WellFormed.read_write {token : ConnectToken} (wellFormed : token.WellFormed) :
    ∃ written, token.write = some written ∧ read .empty written.bytes = some (token, true) := by
  obtain ⟨data, isData, short⟩ := wellFormed.fields_length
  refine ⟨_, by rw [write_eq, isData, Option.bind_some, if_pos short], ?_⟩
  have written := FixedBytes.copyFrom_short short
  rw [written]
  exact read_fields isData (written ▸ FixedBytes.length_eq _) wellFormed.some_address
    wellFormed.few_addresses wellFormed.timestamps wellFormed.overwrites

/-- **A well formed token is read over any old one.** Its addresses are the same ones; those of an
empty array have no former fields. -/
theorem WellFormed.read_over {token : ConnectToken} (wellFormed : token.WellFormed)
    {written : FixedBytes ConnectTokenBytes} (writes : token.write = some written)
    {old : ConnectToken} (array : old.serverAddresses.length = MaxServersPerConnect) :
    ∃ addresses, read old written.bytes = some ({ token with serverAddresses := addresses }, true) ∧
      List.Forall₂ (fun read address => Address.Equal read address = true)
        (addresses.take token.numServerAddresses.toNat)
        (token.serverAddresses.take token.numServerAddresses.toNat) ∧
      (old.serverAddresses = noAddresses → addresses = token.serverAddresses) := by
  have few : token.numServerAddresses.toNat ≤ MaxServersPerConnect := by
    have bound := wellFormed.few_addresses
    omega
  have number : (token.serverAddresses.take token.numServerAddresses.toNat).length =
      token.numServerAddresses.toNat := by
    rw [List.length_take, wellFormed.array]
    exact Nat.min_eq_left few
  obtain ⟨covers, writesSame, equal⟩ := @overlay_spec old.serverAddresses
    (token.serverAddresses.take token.numServerAddresses.toNat)
    (number.trans_le (few.trans_eq array.symm))
    fun address mem => (wellFormed.addresses address mem).known
  generalize overlay old.serverAddresses _ = addresses at covers writesSame equal
  rw [number] at covers writesSame equal
  obtain ⟨data, isData, short⟩ := wellFormed.fields_length
  have isData' : fields { token with serverAddresses := addresses } = some data := by
    have size : addresses.length = token.serverAddresses.length :=
      covers.length.1.trans (array.trans wellFormed.array.symm)
    simp only [fields] at isData ⊢
    rw [size, writesSame]
    exact isData
  rw [write_eq, isData, Option.bind_some, if_pos short, Option.some_inj] at writes
  have isWritten : written.bytes = data ++ List.replicate (ConnectTokenBytes - data.length) 0 := by
    rw [← writes, FixedBytes.copyFrom_short short]
  refine ⟨addresses, ?_, equal, fun empty => ?_⟩
  · rw [isWritten]
    exact read_fields isData' (isWritten ▸ written.length_eq) wellFormed.some_address
      wellFormed.few_addresses wellFormed.timestamps covers
  · -- both lists are read off the same bytes over the same array
    obtain ⟨bytes, writesBytes, -⟩ := writeAddresses_isSome fun address mem =>
      (wellFormed.addresses address mem).known
    have first : readAddresses token.numServerAddresses.toNat noAddresses (bytes ++ []) =
        some (addresses, true, []) :=
      readAddresses_eq_some.mpr ⟨bytes, writesSame.trans writesBytes, rfl, empty ▸ covers⟩
    have second : readAddresses token.numServerAddresses.toNat noAddresses (bytes ++ []) =
        some (token.serverAddresses, true, []) :=
      readAddresses_eq_some.mpr ⟨bytes, writesBytes, rfl, wellFormed.overwrites⟩
    exact congrArg Prod.fst (Option.some_inj.mp (first.symm.trans second))

/-- **What was read is written again.** -/
theorem write_read {old token : ConnectToken} {buffer : FixedBytes ConnectTokenBytes}
    (reads : read old buffer.bytes = some (token, true)) :
    ∃ size written, consumed buffer.bytes = some size ∧ token.write = some written ∧
      written.bytes = buffer.bytes.take size ++ List.replicate (ConnectTokenBytes - size) 0 := by
  obtain ⟨-, -, data, rest, isData, isBuffer, size⟩ := read_accepted buffer.length_eq reads
  obtain ⟨short, written⟩ := FixedBytes.copyFrom_front isBuffer
  exact ⟨_, _, size, by rw [write_eq, isData, Option.bind_some, if_pos short], written⟩

/-- **The rejected buffers** are those with a bad length, bad version info, bad timestamps, a bad
count or a bad address type. -/
theorem read_eq_false_iff {old : ConnectToken}
    (array : old.serverAddresses.length = MaxServersPerConnect) (buffer : Bytes) :
    (∃ token, read old buffer = some (token, false)) ↔
      buffer.length ≠ ConnectTokenBytes ∨ buffer.take versionInfoBytes ≠ versionInfo.bytes ∨
        uint64At 29 buffer < uint64At 21 buffer ∨ addressListLength 1089 buffer = none := by
  by_cases size : buffer.length = ConnectTokenBytes
  case neg => exact iff_of_true ⟨old, by rw [read, if_pos size]⟩ (.inl size)
  constructor
  · rintro ⟨token, reads⟩
    exact .inr (read_rejected size reads)
  · intro bad
    obtain ⟨⟨token, accepted⟩, reads⟩ := read_isSome array buffer
    cases accepted with
    | false => exact ⟨token, reads⟩
    | true =>
      obtain ⟨⟨version, timestamps⟩, -, data, rest, -, -, layout⟩ := read_accepted size reads
      rcases bad with wrong | wrong | wrong | wrong
      · exact absurd size wrong
      · exact absurd version wrong
      · exact absurd timestamps (UInt64.not_le.mpr wrong)
      · rw [consumed, wrong] at layout
        cases layout

end ConnectToken

/-! ### Both codecs -/

/-- **The connect token codecs are exact.** For the private token in 1024 bytes:

* a well formed token is written, into 1024 - 16 bytes, and read back as it was;
* what `read` accepts is written again byte for byte as far as it was read, and zeros after that;
* `read` rejects precisely a count outside 1 to 32 and an address type other than 1 and 2.

For the public token in 2048 bytes the same holds, where `read` also rejects another length, other
version info, and a token that expires before it was created. Neither `read` panics. -/
theorem connect_token_codecs_exact :
    (∀ token : ConnectTokenPrivate, token.WellFormed →
      ∃ data, token.fields = some data ∧ data.length ≤ connectTokenPrivateBytes - MacBytes ∧
        token.write = some (.copyFrom connectTokenPrivateBytes data) ∧
        ConnectTokenPrivate.read (FixedBytes.copyFrom connectTokenPrivateBytes data).bytes =
          some (some token)) ∧
    (∀ (buffer : FixedBytes connectTokenPrivateBytes) (token : ConnectTokenPrivate),
      ConnectTokenPrivate.read buffer.bytes = some (some token) →
        ∃ size written, ConnectTokenPrivate.consumed buffer.bytes = some size ∧
          token.write = some written ∧ written.bytes =
            buffer.bytes.take size ++ List.replicate (connectTokenPrivateBytes - size) 0) ∧
    (∀ buffer : FixedBytes connectTokenPrivateBytes,
      ConnectTokenPrivate.read buffer.bytes ≠ none ∧
      (ConnectTokenPrivate.read buffer.bytes = some none ↔
        ¬ (0 < int32At 12 buffer.bytes ∧ int32At 12 buffer.bytes ≤ MaxServersPerConnect) ∨
          addressesLength (int32At 12 buffer.bytes).toNat (buffer.bytes.drop 16) = none)) ∧
    (∀ token : ConnectToken, token.WellFormed →
      ∃ written, token.write = some written ∧
        ConnectToken.read .empty written.bytes = some (token, true)) ∧
    (∀ (old : ConnectToken) (buffer : FixedBytes ConnectTokenBytes) (token : ConnectToken),
      ConnectToken.read old buffer.bytes = some (token, true) →
        ∃ size written, ConnectToken.consumed buffer.bytes = some size ∧
          token.write = some written ∧ written.bytes =
            buffer.bytes.take size ++ List.replicate (ConnectTokenBytes - size) 0) ∧
    (∀ (old : ConnectToken) (buffer : Bytes),
      old.serverAddresses.length = MaxServersPerConnect →
        ConnectToken.read old buffer ≠ none ∧
        ((∃ token, ConnectToken.read old buffer = some (token, false)) ↔
          buffer.length ≠ ConnectTokenBytes ∨
          buffer.take versionInfoBytes ≠ versionInfo.bytes ∨
          uint64At 29 buffer < uint64At 21 buffer ∨
          ¬ (0 < int32At 1089 buffer ∧ int32At 1089 buffer ≤ MaxServersPerConnect) ∨
          addressesLength (int32At 1089 buffer).toNat (buffer.drop 1093) = none)) := by
  refine ⟨fun _ wellFormed => wellFormed.read_write,
    fun _ _ reads => ConnectTokenPrivate.write_read reads, fun buffer => ⟨?_, ?_⟩,
    fun _ wellFormed => wellFormed.read_write, fun _ _ _ reads => ConnectToken.write_read reads,
    fun old buffer array => ⟨?_, ?_⟩⟩
  · obtain ⟨result, reads⟩ := ConnectTokenPrivate.read_isSome buffer
    rw [reads]
    exact Option.some_ne_none _
  · rw [ConnectTokenPrivate.read_eq_none_iff, addressListLength_eq_none]
  · obtain ⟨result, reads⟩ := ConnectToken.read_isSome array buffer
    rw [reads]
    exact Option.some_ne_none _
  · rw [ConnectToken.read_eq_false_iff array, addressListLength_eq_none]

/-- A private token with an address of each family, and the public token of the sample runs. -/
theorem connect_token_codecs_exact_mixed :
    let token : ConnectTokenPrivate := { Sample.first with
      serverAddresses := [Sample.serverAddress, ⟨AddressIPv6, .zero 4, .replicate 8 1, 40000⟩] }
    let publicToken := Sample.publicToken Sample.first 2000 [Sample.serverAddress]
    (∃ data, token.fields = some data ∧ data.length ≤ connectTokenPrivateBytes - MacBytes ∧
      token.write = some (.copyFrom connectTokenPrivateBytes data) ∧
      ConnectTokenPrivate.read (FixedBytes.copyFrom connectTokenPrivateBytes data).bytes =
        some (some token)) ∧
    ∃ written, publicToken.write = some written ∧
      ConnectToken.read .empty written.bytes = some (publicToken, true) := by
  refine ⟨connect_token_codecs_exact.1 _ ⟨by decide, by decide, ?_⟩,
    connect_token_codecs_exact.2.2.2.1 _ ⟨by decide, by decide, by decide, ?_, ?_, by decide⟩⟩
  · unfold Address.Over
    decide
  · unfold Address.Over
    decide
  · decide

end Netcode
