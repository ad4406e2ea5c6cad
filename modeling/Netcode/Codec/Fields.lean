/-
**The fields of the wire formats.**

The cursor reads of `buffer.go` are exact readers for the writes: numbers of two, four and eight
bytes, byte arrays, and the addresses of the connect tokens. An address is read over an old value of
which it keeps the fields of the other family (`Address.Over`), and its length depends on its family
(`wireSize`).

* `readAddresses_eq_some` — **a list of addresses is read back exactly**;
* `addressesLength` — the layout of such a list as its type bytes show it: it says how many bytes a
  list that was read takes (`addressesLength_of_read`), and that one was rejected for a type
  (`addressesLength_of_rejected`).
-/

import Netcode.Lib.Codec
import Netcode.Model.Token

namespace Netcode

open LittleEndian Codec

/-! ### Numbers and byte arrays -/

theorem readBytes_exact (n : Nat) : Exact FixedBytes.bytes (readBytes n) := by
  refine ⟨fun {buffer value rest} => ?_⟩
  constructor
  · intro reads
    unfold readBytes at reads
    split_ifs at reads
    cases reads
    exact (List.take_append_drop n buffer).symm
  · rintro rfl
    exact readBytes_append value rest

/-- **A number is read exactly**, whatever its width: `ofNat` and `toNat` are those of its type. -/
theorem number_exact {α : Type} (width : Nat) (ofNat : Nat → α) (toNat : α → Nat)
    (small : ∀ value, toNat value < 256 ^ width) (left : ∀ value, ofNat (toNat value) = value)
    (right : ∀ number < 256 ^ width, toNat (ofNat number) = number) :
    Exact (fun value => leBytes width (toNat value)) (fun buffer => do
      let (value, rest) ← readBytes width buffer
      return (ofNat (leNat value.bytes), rest)) := by
  refine (readBytes_exact width).map (fun value => ofNat (leNat value.bytes))
    (fun value => ⟨leBytes width (toNat value), leBytes_length _ _⟩) (fun value => ?_)
    (fun value => ?_)
  · have bound := leNat_lt value.bytes
    have bytes := leBytes_leNat value.bytes
    rw [value.length_eq] at bound bytes
    apply FixedBytes.ext
    show leBytes width (toNat (ofNat (leNat value.bytes))) = value.bytes
    rw [right _ bound, bytes]
  · rw [leNat_leBytes_of_lt (small value), left]

theorem readUint8_exact : Exact (fun value : UInt8 => [value]) readUint8 := by
  refine ⟨fun {buffer value rest} => ?_⟩
  cases buffer with
  | nil => simp [readUint8]
  | cons first others => simp [readUint8]

theorem readUint16_exact : Exact uint16Bytes readUint16 :=
  number_exact 2 UInt16.ofNat UInt16.toNat UInt16.toNat_lt (fun _ => UInt16.ofNat_toNat)
    fun _ small => UInt16.toNat_ofNat_of_lt small

theorem readUint32_exact : Exact uint32Bytes readUint32 :=
  number_exact 4 UInt32.ofNat UInt32.toNat UInt32.toNat_lt (fun _ => UInt32.ofNat_toNat)
    fun _ small => UInt32.toNat_ofNat_of_lt small

theorem readUint64_exact : Exact uint64Bytes readUint64 :=
  number_exact 8 UInt64.ofNat UInt64.toNat UInt64.toNat_lt (fun _ => UInt64.ofNat_toNat)
    fun _ small => UInt64.toNat_ofNat_of_lt small

/-- The groups of an IPv6 address. -/
theorem readGroups_exact (count : Nat) :
    Exact (fun groups : List.Vector UInt16 count => (groups.toList.map uint16Bytes).flatten)
      (readGroups count) := by
  induction count with
  | zero =>
    refine ⟨fun {buffer groups rest} => ?_⟩
    rw [groups.eq_nil]
    simp [readGroups]
  | succ count ih =>
    refine ⟨fun {buffer groups rest} => ?_⟩
    constructor
    · intro reads
      simp only [readGroups, readUint16_exact.bind_eq_some, ih.bind_eq_some] at reads
      obtain ⟨group, _, rfl, others, _, rfl, same⟩ := reads
      cases same
      simp
    · intro bytes
      obtain ⟨group, others, rfl⟩ := groups.exists_eq_cons
      rw [bytes]
      simp only [readGroups, List.Vector.toList_cons, List.map_cons, List.flatten_cons,
        List.append_assoc, readUint16_exact.read_append, Option.bind_eq_bind, Option.bind_some,
        ih.read_append]
      rfl

theorem readBytes_sized (n : Nat) : Sized n (readBytes n) := by
  refine ⟨fun {buffer} room => ?_⟩
  obtain ⟨value, reads, -⟩ := readBytes_isSome n buffer room
  exact ⟨value, _, reads, by rw [List.length_drop]; omega⟩

theorem readUint32_sized : Sized 4 readUint32 := by
  refine ⟨fun {buffer} room => ?_⟩
  obtain ⟨value, reads⟩ := readUint32_isSome buffer room
  exact ⟨value, _, reads, by rw [List.length_drop]; omega⟩

theorem readUint64_sized : Sized 8 readUint64 := by
  refine ⟨fun {buffer} room => ?_⟩
  obtain ⟨value, reads, -⟩ := readUint64_isSome buffer room
  exact ⟨value, _, reads, by rw [List.length_drop]; omega⟩

/-- The number of eight bytes at an offset of a buffer. -/
def uint64At (offset : Nat) (buffer : Bytes) : UInt64 :=
  UInt64.ofNat (leNat ((buffer.drop offset).take 8))

/-- The signed number of four bytes at an offset of a buffer. -/
def int32At (offset : Nat) (buffer : Bytes) : Int :=
  (UInt32.ofNat (leNat ((buffer.drop offset).take 4))).toInt32.toInt

theorem uint64At_append {offset : Nat} {front : Bytes} (size : front.length = offset)
    (value : UInt64) (rest : Bytes) :
    uint64At offset (front ++ (uint64Bytes value ++ rest)) = value := by
  rw [uint64At, List.drop_left' size, List.take_left' (uint64Bytes_length value), uint64Bytes,
    leNat_leBytes_of_lt value.toNat_lt, UInt64.ofNat_toNat]

theorem int32At_append {offset : Nat} {front : Bytes} (size : front.length = offset)
    (value : UInt32) (rest : Bytes) :
    int32At offset (front ++ (uint32Bytes value ++ rest)) = value.toInt32.toInt := by
  rw [int32At, List.drop_left' size, List.take_left' (uint32Bytes_length value), uint32Bytes,
    leNat_leBytes_of_lt value.toNat_lt, UInt32.ofNat_toNat]

/-! ### Addresses -/

namespace Address

/-- The bytes an address takes on the wire. -/
def wireSize (address : Address) : Nat := if address.type = AddressIPv4 then 7 else 19

/-- An address read over an old value: of a known family, with the old fields of the other one. -/
def Over (old address : Address) : Prop :=
  address.type = AddressIPv4 ∧ address.ipv6 = old.ipv6 ∨
    address.type = AddressIPv6 ∧ address.ipv4 = old.ipv4

end Address

theorem writeAddress_length {address : Address} {bytes : Bytes}
    (writes : writeAddress address = some bytes) : bytes.length = address.wireSize := by
  unfold writeAddress at writes
  unfold Address.wireSize
  split_ifs at writes with four six
  · cases writes
    simp [four, address.ipv4.length_eq]
  · cases writes
    have groups : ((address.ipv6.toList.map uint16Bytes).flatten).length = 16 := by
      have each : address.ipv6.toList.map (fun group => (uint16Bytes group).length) =
          List.replicate 8 2 := by
        rw [List.eq_replicate_iff]
        simp
      simp only [List.length_flatten, List.map_map, Function.comp_def, each]
      rfl
    simp only [List.cons_append, List.length_cons, List.length_append, groups, uint16Bytes_length]
    rw [if_neg four]

theorem writeAddress_eq_cons {address : Address} {bytes : Bytes}
    (writes : writeAddress address = some bytes) :
    ∃ tail, bytes = address.type :: tail ∧ tail.length + 1 = address.wireSize := by
  have size := writeAddress_length writes
  unfold writeAddress at writes
  split_ifs at writes with four six
  · cases writes
    exact ⟨_, by rw [four]; rfl, size⟩
  · cases writes
    exact ⟨_, by rw [six]; rfl, size⟩

/-- **An address is read back exactly**, over the old value of its fields. -/
theorem readAddress_eq_some {old address : Address} {buffer rest : Bytes} :
    readAddress old buffer = some (address, true, rest) ↔
      ∃ bytes, writeAddress address = some bytes ∧ buffer = bytes ++ rest ∧ old.Over address := by
  have families : AddressIPv6 ≠ AddressIPv4 := by decide
  constructor
  · intro reads
    simp only [readAddress, readUint8_exact.bind_eq_some] at reads
    obtain ⟨type, body, rfl, reads⟩ := reads
    split_ifs at reads with four six
    · simp only [(readBytes_exact 4).bind_eq_some, readUint16_exact.bind_eq_some] at reads
      obtain ⟨ipv4, _, rfl, port, _, rfl, same⟩ := reads
      cases same
      refine ⟨AddressIPv4 :: ipv4.bytes ++ uint16Bytes port, ?_, ?_, .inl ⟨four, rfl⟩⟩
      · simp [writeAddress, four]
      · simp [four]
    · simp only [(readGroups_exact 8).bind_eq_some, readUint16_exact.bind_eq_some] at reads
      obtain ⟨ipv6, _, rfl, port, _, rfl, same⟩ := reads
      cases same
      refine ⟨AddressIPv6 :: (ipv6.toList.map uint16Bytes).flatten ++ uint16Bytes port, ?_, ?_,
        .inr ⟨six, rfl⟩⟩
      · simp [writeAddress, six, families]
      · simp [six]
    · cases reads
  · rintro ⟨bytes, writes, rfl, covers⟩
    obtain ⟨type, ipv4, ipv6, port⟩ := address
    rcases covers with ⟨rfl, rfl⟩ | ⟨rfl, rfl⟩
    · simp only [writeAddress, if_true, Option.some_inj] at writes
      subst writes
      simp [readAddress, readUint8, (readBytes_exact 4).read_append, readUint16_exact.read_append]
    · simp only [writeAddress, families, if_false, if_true, Option.some_inj] at writes
      subst writes
      simp [readAddress, readUint8, families, (readGroups_exact 8).read_append,
        readUint16_exact.read_append]

/-! ### Lists of addresses -/

theorem writeAddresses_nil : writeAddresses [] = some [] := rfl

theorem writeAddresses_cons (address : Address) (addresses : List Address) :
    writeAddresses (address :: addresses) =
      (writeAddress address).bind fun first =>
        (writeAddresses addresses).map fun others => first ++ others := by
  unfold writeAddresses
  rw [List.mapM_cons]
  cases writeAddress address with
  | none => rfl
  | some first => cases addresses.mapM writeAddress <;> rfl

/-- An array of addresses whose first `count` entries were read over those of an old one. -/
def Overwrites : (count : Nat) → (olds addresses : List Address) → Prop
  | 0, olds, addresses => addresses = olds
  | _ + 1, [], _ | _ + 1, _ :: _, [] => False
  | count + 1, old :: olds, address :: addresses =>
    old.Over address ∧ Overwrites count olds addresses

theorem Overwrites.length {count : Nat} {olds addresses : List Address}
    (covers : Overwrites count olds addresses) :
    addresses.length = olds.length ∧ count ≤ olds.length := by
  induction count generalizing olds addresses with
  | zero =>
    rw [show addresses = olds from covers]
    exact ⟨rfl, Nat.zero_le _⟩
  | succ count ih =>
    match olds, addresses, covers with
    | old :: olds, address :: addresses, covers =>
      obtain ⟨same, few⟩ := ih covers.2
      exact ⟨congrArg (· + 1) same, Nat.succ_le_succ few⟩

/-- Reading one more address: all of them, or up to one of a bad type. -/
theorem readAddresses_cases {count : Nat} {old : Address} {olds addresses : List Address}
    {good : Bool} {buffer rest : Bytes}
    (reads : readAddresses (count + 1) (old :: olds) buffer = some (addresses, good, rest)) :
    (∃ address middle others, readAddress old buffer = some (address, true, middle) ∧
      readAddresses count olds middle = some (others, good, rest) ∧ addresses = address :: others) ∨
    ∃ address, readAddress old buffer = some (address, false, rest) ∧ good = false ∧
      addresses = address :: olds := by
  simp only [readAddresses, Option.bind_eq_bind, Option.bind_eq_some_iff, Prod.exists] at reads
  obtain ⟨address, isGood, middle, readFirst, reads⟩ := reads
  cases isGood with
  | true =>
    obtain ⟨⟨others, good', rest'⟩, readOthers, same⟩ := Option.bind_eq_some_iff.mp reads
    cases same
    exact .inl ⟨address, middle, others, readFirst, readOthers, rfl⟩
  | false =>
    cases reads
    exact .inr ⟨address, readFirst, rfl, rfl⟩

/-- **A list of addresses is read back exactly.** -/
theorem readAddresses_eq_some {count : Nat} {olds addresses : List Address} {buffer rest : Bytes} :
    readAddresses count olds buffer = some (addresses, true, rest) ↔
      ∃ bytes, writeAddresses (addresses.take count) = some bytes ∧ buffer = bytes ++ rest ∧
        Overwrites count olds addresses := by
  induction count generalizing olds addresses buffer with
  | zero =>
    simp only [readAddresses, List.take_zero, writeAddresses_nil, Option.some_inj, Prod.mk.injEq,
      true_and, Overwrites]
    constructor
    · rintro ⟨rfl, rfl⟩
      exact ⟨[], rfl, rfl, rfl⟩
    · rintro ⟨_, rfl, rfl, rfl⟩
      exact ⟨rfl, rfl⟩
  | succ count ih =>
    cases olds with
    | nil => simp [readAddresses, Overwrites]
    | cons old olds =>
      constructor
      · intro reads
        obtain ⟨address, middle, others, readFirst, readOthers, rfl⟩ | ⟨_, _, impossible, _⟩ :=
          readAddresses_cases reads
        · obtain ⟨first, writesFirst, rfl, covers⟩ := readAddress_eq_some.mp readFirst
          obtain ⟨bytes, writesOthers, rfl, others_over⟩ := ih.mp readOthers
          refine ⟨first ++ bytes, ?_, (List.append_assoc _ _ _).symm, covers, others_over⟩
          simp only [List.take_succ_cons, writeAddresses_cons, writesFirst, writesOthers,
            Option.bind_some, Option.map_some]
        · cases impossible
      · rintro ⟨bytes, writes, rfl, covers⟩
        cases addresses with
        | nil => exact absurd covers id
        | cons address addresses =>
          simp only [List.take_succ_cons, writeAddresses_cons, Option.bind_eq_some_iff,
            Option.map_eq_some_iff] at writes
          obtain ⟨first, writesFirst, others, writesOthers, rfl⟩ := writes
          have readFirst : readAddress old (first ++ (others ++ rest)) =
              some (address, true, others ++ rest) :=
            readAddress_eq_some.mpr ⟨first, writesFirst, rfl, covers.1⟩
          have readOthers : readAddresses count olds (others ++ rest) =
              some (addresses, true, rest) := ih.mpr ⟨others, writesOthers, rfl, covers.2⟩
          simp [readAddresses, readFirst, readOthers]

/-- Reading keeps the size of the array it reads over. -/
theorem readAddresses_length {count : Nat} {olds addresses : List Address} {good : Bool}
    {buffer rest : Bytes} (reads : readAddresses count olds buffer = some (addresses, good, rest)) :
    addresses.length = olds.length := by
  induction count generalizing olds addresses buffer with
  | zero =>
    cases reads
    rfl
  | succ count ih =>
    match olds with
    | [] => cases reads
    | old :: olds =>
      obtain ⟨address, middle, others, -, readOthers, rfl⟩ | ⟨address, -, -, rfl⟩ :=
        readAddresses_cases reads
      · rw [List.length_cons, ih readOthers, List.length_cons]
      · rfl

/-! ### Addresses over old ones -/

/-- What reading the bytes of an address over an old value gives. -/
def Address.onto (old address : Address) : Address :=
  if address.type = AddressIPv4 then { address with ipv6 := old.ipv6 }
  else { address with ipv4 := old.ipv4 }

section Onto

variable {old address : Address}
  (known : address.type = AddressIPv4 ∨ address.type = AddressIPv6)

include known

/-- It has the bytes of the address, the unused fields of the old value, and it is the same address. -/
theorem Address.onto_spec :
    writeAddress (old.onto address) = writeAddress address ∧ old.Over (old.onto address) ∧
      (old.onto address).Equal address = true := by
  have families : AddressIPv6 ≠ AddressIPv4 := by decide
  rcases known with four | six
  · rw [Address.onto, if_pos four]
    refine ⟨by simp [writeAddress, four], .inl ⟨four, rfl⟩, ?_⟩
    exact Address.equal_iff.mpr ⟨rfl, rfl, .inl ⟨four, rfl⟩⟩
  · rw [Address.onto, if_neg (by rw [six]; exact families)]
    refine ⟨by simp [writeAddress, six, families], .inr ⟨six, rfl⟩, ?_⟩
    exact Address.equal_iff.mpr ⟨rfl, rfl, .inr ⟨six, rfl⟩⟩

end Onto

/-- What reading the bytes of a list of addresses over an array gives. -/
def overlay : (olds addresses : List Address) → List Address
  | olds, [] => olds
  | [], _ :: _ => []
  | old :: olds, address :: addresses => old.onto address :: overlay olds addresses

/-- **Reading a list of addresses over an array**: the same bytes, and the same addresses. -/
theorem overlay_spec {olds addresses : List Address} (room : addresses.length ≤ olds.length)
    (known : ∀ address ∈ addresses, address.type = AddressIPv4 ∨ address.type = AddressIPv6) :
    Overwrites addresses.length olds (overlay olds addresses) ∧
      writeAddresses ((overlay olds addresses).take addresses.length) = writeAddresses addresses ∧
      List.Forall₂ (fun read address => Address.Equal read address = true)
        ((overlay olds addresses).take addresses.length) addresses := by
  induction addresses generalizing olds with
  | nil =>
    cases olds <;> exact ⟨rfl, rfl, .nil⟩
  | cons address addresses ih =>
    match olds with
    | [] => exact absurd room (by simp)
    | old :: olds =>
      obtain ⟨covers, writes, same⟩ := ih (Nat.le_of_succ_le_succ room)
        fun other mem => known other (.tail _ mem)
      obtain ⟨writesFirst, overFirst, sameFirst⟩ :=
        @Address.onto_spec old _ (known address (.head _))
      refine ⟨⟨overFirst, covers⟩, ?_, .cons sameFirst same⟩
      simp only [overlay, List.length_cons, List.take_succ_cons, writeAddresses_cons, writesFirst,
        writes]

/-! ### The layout of a list of addresses -/

/-- The number of bytes that `count` addresses at the front of a buffer take, by their type bytes:
7 for an IPv4 address and 19 for an IPv6 one. There is none if a type is neither. -/
def addressesLength : (count : Nat) → Bytes → Option Nat
  | 0, _ => some 0
  | _ + 1, [] => none
  | count + 1, type :: rest =>
    if type = AddressIPv4 then (addressesLength count (rest.drop 6)).map (7 + ·)
    else if type = AddressIPv6 then (addressesLength count (rest.drop 18)).map (19 + ·)
    else none

/-- Where an address was read, the layout goes on at the rest. -/
theorem addressesLength_succ {old address : Address} {buffer rest : Bytes}
    (reads : readAddress old buffer = some (address, true, rest)) (count : Nat) :
    addressesLength (count + 1) buffer =
      (addressesLength count rest).map (address.wireSize + ·) := by
  obtain ⟨bytes, writes, rfl, covers⟩ := readAddress_eq_some.mp reads
  obtain ⟨tail, rfl, size⟩ := writeAddress_eq_cons writes
  have families : AddressIPv6 ≠ AddressIPv4 := by decide
  rcases covers with ⟨four, -⟩ | ⟨six, -⟩
  · simp only [Address.wireSize, four, if_true] at size ⊢
    rw [List.cons_append, addressesLength, if_pos rfl, List.drop_left' (by omega)]
  · simp only [Address.wireSize, six, families, if_false] at size ⊢
    rw [List.cons_append, addressesLength, if_neg families, if_pos rfl, List.drop_left' (by omega)]

/-- Where the reader stops at a type, the layout does too. -/
theorem addressesLength_bad {old address : Address} {buffer rest : Bytes}
    (reads : readAddress old buffer = some (address, false, rest)) (count : Nat) :
    addressesLength (count + 1) buffer = none := by
  simp only [readAddress, readUint8_exact.bind_eq_some] at reads
  obtain ⟨type, body, rfl, reads⟩ := reads
  split_ifs at reads with four six
  · simp only [(readBytes_exact 4).bind_eq_some, readUint16_exact.bind_eq_some] at reads
    obtain ⟨ipv4, _, -, port, _, -, same⟩ := reads
    cases same
  · simp only [(readGroups_exact 8).bind_eq_some, readUint16_exact.bind_eq_some] at reads
    obtain ⟨ipv6, _, -, port, _, -, same⟩ := reads
    cases same
  · rw [List.singleton_append, addressesLength, if_neg four, if_neg six]

/-- **A list of addresses that was read** takes the bytes of its layout. -/
theorem addressesLength_of_read {count : Nat} {olds addresses : List Address} {buffer rest : Bytes}
    (reads : readAddresses count olds buffer = some (addresses, true, rest)) :
    ∃ bytes, writeAddresses (addresses.take count) = some bytes ∧ buffer = bytes ++ rest ∧
      addressesLength count buffer = some bytes.length := by
  induction count generalizing olds addresses buffer with
  | zero =>
    cases reads
    exact ⟨[], rfl, rfl, rfl⟩
  | succ count ih =>
    match olds with
    | [] => cases reads
    | old :: olds =>
      obtain ⟨address, middle, others, readFirst, readOthers, rfl⟩ | ⟨_, _, impossible, _⟩ :=
        readAddresses_cases reads
      · obtain ⟨first, writes, rfl, -⟩ := readAddress_eq_some.mp readFirst
        obtain ⟨bytes, writesOthers, rfl, layout⟩ := ih readOthers
        refine ⟨first ++ bytes, ?_, (List.append_assoc _ _ _).symm, ?_⟩
        · simp only [List.take_succ_cons, writeAddresses_cons, writes, writesOthers,
            Option.bind_some, Option.map_some]
        · rw [addressesLength_succ readFirst, layout, Option.map_some, List.length_append,
            writeAddress_length writes]
      · cases impossible

/-- **A list of addresses that was rejected** has a type the layout does not know. -/
theorem addressesLength_of_rejected {count : Nat} {olds addresses : List Address}
    {buffer rest : Bytes}
    (reads : readAddresses count olds buffer = some (addresses, false, rest)) :
    addressesLength count buffer = none := by
  induction count generalizing olds addresses buffer with
  | zero => cases reads
  | succ count ih =>
    match olds with
    | [] => cases reads
    | old :: olds =>
      obtain ⟨address, middle, others, readFirst, readOthers, -⟩ | ⟨_, readFirst, -, -⟩ :=
        readAddresses_cases reads
      · rw [addressesLength_succ readFirst, ih readOthers, Option.map_none]
      · exact addressesLength_bad readFirst count

/-- The length of an address list that stands after its count at an offset, if the count is between
1 and 32 and every type is known. -/
def addressListLength (offset : Nat) (buffer : Bytes) : Option Nat :=
  if 0 < int32At offset buffer ∧ int32At offset buffer ≤ MaxServersPerConnect then
    addressesLength (int32At offset buffer).toNat (buffer.drop (offset + 4))
  else none

theorem addressListLength_eq_none {offset : Nat} {buffer : Bytes} :
    addressListLength offset buffer = none ↔
      ¬ (0 < int32At offset buffer ∧ int32At offset buffer ≤ MaxServersPerConnect) ∨
        addressesLength (int32At offset buffer).toNat (buffer.drop (offset + 4)) = none := by
  unfold addressListLength
  split_ifs with range
  · simp [range]
  · simp [range]

theorem addressListLength_append {offset : Nat} {front : Bytes} (size : front.length = offset)
    (count : UInt32) (rest : Bytes) :
    addressListLength offset (front ++ (uint32Bytes count ++ rest)) =
      if 0 < count.toInt32.toInt ∧ count.toInt32.toInt ≤ MaxServersPerConnect then
        addressesLength count.toNat rest
      else none := by
  have front_count : (front ++ uint32Bytes count).length = offset + 4 := by
    rw [List.length_append, size, uint32Bytes_length]
  rw [addressListLength, int32At_append size, ← List.append_assoc, List.drop_left' front_count]
  split_ifs with range
  · rw [toInt_of_nonneg range.1.le, Int.toNat_natCast]
  · rfl

end Netcode
