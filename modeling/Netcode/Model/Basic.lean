/-
**Constants, byte arrays and addresses.**

The sizes of `netcode.go`, Go's fixed-size byte arrays (`FixedBytes n`, whose length is part of the
value), the cursor reads of `buffer.go`, and `address.go`'s `Address` with its `Equal`.

A Go run-time panic is `none` in `Go α`; a function that cannot panic is a plain function.
`Address.Equal` looks only at the fields of the address's own family, and an address of type
`AddressNone` (or of an unknown type) equals nothing, itself included: it is symmetric and
transitive (`Equal.symm`, `Equal.trans`), not reflexive.
-/

import Mathlib.Data.Vector.Basic
import Netcode.Lib.LittleEndian

namespace Netcode

open LittleEndian

/-! ### Sizes -/

def KeyBytes : Nat := 32
def MacBytes : Nat := 16
def UserDataBytes : Nat := 256
def MaxServersPerConnect : Nat := 32
def MaxClients : Nat := 256
def MaxPacketSize : Nat := 1200
def ConnectTokenBytes : Nat := 2048

def connectTokenNonceBytes : Nat := 24
def connectTokenPrivateBytes : Nat := 1024
def challengeTokenBytes : Nat := 300
def versionInfoBytes : Nat := 13
def maxPacketBytes : Nat := 1300
def maxPayloadBytes : Nat := 1200
def packetQueueSize : Nat := 256
def replayProtectionBufferSize : Nat := 256

def maxEncryptionMappings : Nat := MaxClients * 4
def maxConnectTokenEntries : Nat := MaxClients * 8

def numDisconnectPackets : Nat := 10

/-- A result that a Go run-time panic (`none`) may cut off. -/
abbrev Go (α : Type) := Option α

/-! ### Byte arrays -/

/-- A Go byte slice. -/
abbrev Bytes := List UInt8

/-- A Go array `[n]byte`. -/
@[ext] structure FixedBytes (n : Nat) where
  bytes : Bytes
  length_eq : bytes.length = n
  deriving DecidableEq

/-- The zero value of `[n]byte`. -/
def FixedBytes.zero (n : Nat) : FixedBytes n := ⟨List.replicate n 0, by simp⟩

abbrev Key := FixedBytes KeyBytes
abbrev Mac := FixedBytes MacBytes
abbrev UserData := FixedBytes UserDataBytes

/-- `copy(array[:], data)` into an array that held zeros: the bytes that fit, zero padded. -/
def FixedBytes.copyFrom (n : Nat) (data : Bytes) : FixedBytes n :=
  ⟨data.take n ++ List.replicate (n - data.length) 0, by
    simp only [List.length_append, List.length_take, List.length_replicate]
    omega⟩

theorem FixedBytes.copyFrom_bytes {n : Nat} {data : Bytes} (exact : data.length = n) :
    (FixedBytes.copyFrom n data).bytes = data := by
  subst exact
  simp [FixedBytes.copyFrom]

/-- "NETCODE 1.02" in ASCII with its null terminator. -/
def versionInfo : FixedBytes versionInfoBytes :=
  ⟨[78, 69, 84, 67, 79, 68, 69, 32, 49, 46, 48, 50, 0], rfl⟩

/-! ### The writer and the reader of `buffer.go` -/

def uint16Bytes (value : UInt16) : Bytes := leBytes 2 value.toNat
def uint32Bytes (value : UInt32) : Bytes := leBytes 4 value.toNat
def uint64Bytes (value : UInt64) : Bytes := leBytes 8 value.toNat

/-- Read one byte off the rest of the buffer; past the end the reader panics. -/
def readUint8 : Bytes → Go (UInt8 × Bytes)
  | [] => none
  | value :: rest => some (value, rest)

/-- Read `n` bytes off the rest of the buffer. -/
def readBytes (n : Nat) (buffer : Bytes) : Go (FixedBytes n × Bytes) :=
  if room : n ≤ buffer.length then
    some (⟨buffer.take n, by rw [List.length_take, Nat.min_eq_left room]⟩, buffer.drop n)
  else none

def readUint16 (buffer : Bytes) : Go (UInt16 × Bytes) := do
  let (value, rest) ← readBytes 2 buffer
  return (UInt16.ofNat (leNat value.bytes), rest)

def readUint32 (buffer : Bytes) : Go (UInt32 × Bytes) := do
  let (value, rest) ← readBytes 4 buffer
  return (UInt32.ofNat (leNat value.bytes), rest)

def readUint64 (buffer : Bytes) : Go (UInt64 × Bytes) := do
  let (value, rest) ← readBytes 8 buffer
  return (UInt64.ofNat (leNat value.bytes), rest)

@[simp] theorem uint16Bytes_length (value : UInt16) : (uint16Bytes value).length = 2 :=
  leBytes_length _ _

@[simp] theorem uint32Bytes_length (value : UInt32) : (uint32Bytes value).length = 4 :=
  leBytes_length _ _

@[simp] theorem uint64Bytes_length (value : UInt64) : (uint64Bytes value).length = 8 :=
  leBytes_length _ _

theorem toNat_succ {n : UInt64} (small : n.toNat + 1 < 2 ^ 64) : (n + 1).toNat = n.toNat + 1 := by
  rw [UInt64.toNat_add]
  exact Nat.mod_eq_of_lt small

theorem uint64Bytes_injective {first second : UInt64}
    (same : uint64Bytes first = uint64Bytes second) : first = second :=
  UInt64.toNat_inj.mp (leBytes_injective first.toNat_lt second.toNat_lt same)

/-- Reading an array off a buffer that starts with it. -/
theorem readBytes_append {n : Nat} (value : FixedBytes n) (rest : Bytes) :
    readBytes n (value.bytes ++ rest) = some (value, rest) := by
  obtain ⟨bytes, rfl⟩ := value
  simp [readBytes]

theorem readBytes_isSome (n : Nat) (buffer : Bytes) (room : n ≤ buffer.length) :
    ∃ value, readBytes n buffer = some (value, buffer.drop n) ∧ value.bytes = buffer.take n :=
  ⟨_, dif_pos room, rfl⟩

/-- Reading a number off a buffer that starts with it. -/
theorem readUint64_append (value : UInt64) (rest : Bytes) :
    readUint64 (uint64Bytes value ++ rest) = some (value, rest) := by
  have read := readBytes_append (⟨uint64Bytes value, uint64Bytes_length value⟩ : FixedBytes 8) rest
  simp only [readUint64, read, Option.bind_eq_bind, Option.bind_some]
  rw [uint64Bytes, leNat_leBytes_of_lt value.toNat_lt, UInt64.ofNat_toNat]
  rfl

theorem readUint32_append (value : UInt32) (rest : Bytes) :
    readUint32 (uint32Bytes value ++ rest) = some (value, rest) := by
  have read := readBytes_append (⟨uint32Bytes value, uint32Bytes_length value⟩ : FixedBytes 4) rest
  simp only [readUint32, read, Option.bind_eq_bind, Option.bind_some]
  rw [uint32Bytes, leNat_leBytes_of_lt value.toNat_lt, UInt32.ofNat_toNat]
  rfl

/-- A number is read off any buffer that is long enough, and its bytes are the ones read. -/
theorem readUint64_isSome (buffer : Bytes) (room : 8 ≤ buffer.length) :
    ∃ value, readUint64 buffer = some (value, buffer.drop 8) ∧
      uint64Bytes value = buffer.take 8 := by
  obtain ⟨data, read, bytes⟩ := readBytes_isSome _ _ room
  refine ⟨UInt64.ofNat (leNat data.bytes), by simp [readUint64, read], ?_⟩
  have small : leNat data.bytes < 2 ^ 64 := by
    have := leNat_lt data.bytes
    rwa [data.length_eq] at this
  have exact := leBytes_leNat data.bytes
  rw [data.length_eq] at exact
  rw [uint64Bytes, UInt64.toNat_ofNat', Nat.mod_eq_of_lt small, exact, bytes]

theorem readUint32_isSome (buffer : Bytes) (room : 4 ≤ buffer.length) :
    ∃ value, readUint32 buffer = some (value, buffer.drop 4) := by
  obtain ⟨data, read, -⟩ := readBytes_isSome _ _ room
  exact ⟨UInt32.ofNat (leNat data.bytes), by simp [readUint32, read]⟩

/-! ### Addresses -/

def AddressNone : UInt8 := 0
def AddressIPv4 : UInt8 := 1
def AddressIPv6 : UInt8 := 2

/-- A network address: its type, the fields of both families and the port. -/
structure Address where
  type : UInt8
  ipv4 : FixedBytes 4
  ipv6 : List.Vector UInt16 8
  port : UInt16
  deriving DecidableEq

/-- Go's `Address{}`. -/
def Address.none : Address := ⟨AddressNone, .zero 4, .replicate 8 0, 0⟩

/-- Same type, same port, and the same address in the fields of that type; never for
`AddressNone`. -/
def Address.Equal (address other : Address) : Bool :=
  if address.type ≠ other.type then false
  else if address.port ≠ other.port then false
  else if address.type = AddressIPv4 then address.ipv4 = other.ipv4
  else if address.type = AddressIPv6 then address.ipv6 = other.ipv6
  else false

namespace Address

theorem equal_iff {address other : Address} :
    address.Equal other = true ↔ address.type = other.type ∧ address.port = other.port ∧
      (address.type = AddressIPv4 ∧ address.ipv4 = other.ipv4 ∨
        address.type = AddressIPv6 ∧ address.ipv6 = other.ipv6) := by
  have families : AddressIPv4 ≠ AddressIPv6 := by decide
  unfold Equal
  split_ifs with type port four six
  all_goals simp_all

theorem Equal.symm {address other : Address} (equal : address.Equal other = true) :
    other.Equal address = true := by
  rw [equal_iff] at equal ⊢
  obtain ⟨type, port, family⟩ := equal
  rw [← type, ← port]
  exact ⟨rfl, rfl, family.imp (fun four => ⟨four.1, four.2.symm⟩) fun six => ⟨six.1, six.2.symm⟩⟩

theorem Equal.trans {first second third : Address} (left : first.Equal second = true)
    (right : second.Equal third = true) : first.Equal third = true := by
  rw [equal_iff] at left right ⊢
  obtain ⟨type, port, family⟩ := left
  obtain ⟨type', port', family'⟩ := right
  have families : AddressIPv4 ≠ AddressIPv6 := by decide
  refine ⟨type.trans type', port.trans port', ?_⟩
  rw [← type] at family'
  rcases family with ⟨four, same⟩ | ⟨six, same⟩ <;> rcases family' with ⟨four', same'⟩ | ⟨six', same'⟩
  · exact Or.inl ⟨four, same.trans same'⟩
  · exact absurd (four.symm.trans six') families
  · exact absurd (four'.symm.trans six) families
  · exact Or.inr ⟨six, same.trans same'⟩

/-- Equal addresses are equal to the same addresses. -/
theorem equal_congr {first second : Address} (equal : first.Equal second = true) (other : Address) :
    first.Equal other = second.Equal other := by
  rw [Bool.eq_iff_iff]
  exact ⟨fun same => Equal.trans (Equal.symm equal) same, fun same => Equal.trans equal same⟩

/-- Only addresses of a known family equal anything. -/
theorem Equal.type_ne_none {address other : Address} (equal : address.Equal other = true) :
    address.type ≠ AddressNone := by
  rw [equal_iff] at equal
  rcases equal.2.2 with ⟨four, _⟩ | ⟨six, _⟩
  · rw [four]; decide
  · rw [six]; decide

@[simp] theorem none_equal (other : Address) : Address.none.Equal other = false := by
  by_contra equal
  exact Equal.type_ne_none (by simpa using equal) rfl

@[simp] theorem equal_none (address : Address) : address.Equal Address.none = false := by
  by_contra equal
  exact Equal.type_ne_none (Equal.symm (by simpa using equal)) rfl

end Address

end Netcode
