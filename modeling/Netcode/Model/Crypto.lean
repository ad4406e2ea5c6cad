/-
**The AEAD primitives and the packet nonce.**

`crypto.go` calls the ChaCha20-Poly1305 and XChaCha20-Poly1305 of another package. They enter the
model as a `Platform`: two AEADs of which only the documented behaviour is known (the sealed text is
`MacBytes` longer, opening inverts sealing), together with the rounding of `float64` arithmetic, of
which only what IEEE 754 promises is known (it is monotone and keeps zero).

Every AEAD call that succeeds is kept as an `AeadCall` record. What an attacker cannot do (open
something that was never sealed) is not a property of the functions but of a run; it is stated
later, over the calls a run has made.
-/

import Netcode.Model.Basic
import Mathlib.Algebra.Order.Ring.Unbundled.Rat
import Mathlib.Order.Monotone.Defs

namespace Netcode

/-- An AEAD with a 16 byte MAC at the end of the sealed text. -/
structure Aead where
  encrypt : (key : Key) → (nonce additional message : Bytes) → Bytes
  decrypt : (key : Key) → (nonce additional message : Bytes) → Option Bytes
  encrypt_length : ∀ key nonce additional message,
    (encrypt key nonce additional message).length = message.length + MacBytes
  decrypt_length : ∀ key nonce additional message plain,
    decrypt key nonce additional message = some plain → plain.length + MacBytes = message.length
  decrypt_encrypt : ∀ key nonce additional message,
    decrypt key nonce additional (encrypt key nonce additional message) = some message

/-- What the code takes from outside: `chacha20poly1305.New`, `chacha20poly1305.NewX` and the
rounding of a `float64` result. -/
structure Platform where
  chacha20poly1305 : Aead
  xchacha20poly1305 : Aead
  float64 : ℚ → ℚ
  float64_mono : Monotone float64
  float64_zero : float64 0 = 0

/-- A number that a `float64` holds: rounding leaves it alone. -/
def Platform.IsFloat64 (env : Platform) (value : ℚ) : Prop := env.float64 value = value

/-- The end of a delay does not round to before its start. -/
theorem Platform.IsFloat64.le_add {env : Platform} {time delay : ℚ} (isFloat : env.IsFloat64 time)
    (nonneg : 0 ≤ delay) : time ≤ env.float64 (time + delay) := by
  have rounded := env.float64_mono (le_add_of_nonneg_right nonneg : time ≤ time + delay)
  rwa [isFloat] at rounded

/-- `1.0/packetSendRate`: the seconds between two packets. -/
def packetSendInterval : ℚ := 1 / 10

theorem Platform.interval_nonneg (env : Platform) : 0 ≤ env.float64 packetSendInterval := by
  rw [← env.float64_zero]
  exact env.float64_mono (by decide +kernel)

/-- A timeout as a number of seconds. -/
theorem seconds_nonneg {timeout : Int32} (given : 0 ≤ timeout) : (0 : ℚ) ≤ timeout.toInt :=
  Rat.intCast_nonneg.mpr (Int32.le_iff_toInt_le.mp given)

/-- One successful AEAD call: the same record for the seal and for the open of it. -/
structure AeadCall where
  key : Key
  nonce : Bytes
  additional : Bytes
  plaintext : Bytes
  ciphertext : Bytes
  deriving DecidableEq

section Primitives

variable (env : Platform)

def encryptAEAD (message additional nonce : Bytes) (key : Key) : AeadCall :=
  ⟨key, nonce, additional, message, env.chacha20poly1305.encrypt key nonce additional message⟩

def decryptAEAD (message additional nonce : Bytes) (key : Key) : Option AeadCall :=
  (env.chacha20poly1305.decrypt key nonce additional message).map fun plain =>
    ⟨key, nonce, additional, plain, message⟩

def encryptAEADBigNonce (message additional nonce : Bytes) (key : Key) : AeadCall :=
  ⟨key, nonce, additional, message, env.xchacha20poly1305.encrypt key nonce additional message⟩

def decryptAEADBigNonce (message additional nonce : Bytes) (key : Key) : Option AeadCall :=
  (env.xchacha20poly1305.decrypt key nonce additional message).map fun plain =>
    ⟨key, nonce, additional, plain, message⟩

end Primitives

section Calls

variable {env : Platform} {message additional nonce : Bytes} {key : Key} {call : AeadCall}

/-- **What a successful open was given**, and how much shorter its result is. -/
theorem decryptAEAD_eq_some (opened : decryptAEAD env message additional nonce key = some call) :
    call.key = key ∧ call.nonce = nonce ∧ call.additional = additional ∧
      call.ciphertext = message ∧ call.plaintext.length + MacBytes = message.length := by
  obtain ⟨plain, found, rfl⟩ := Option.map_eq_some_iff.mp opened
  exact ⟨rfl, rfl, rfl, rfl, env.chacha20poly1305.decrypt_length _ _ _ _ _ found⟩

theorem decryptAEADBigNonce_eq_some
    (opened : decryptAEADBigNonce env message additional nonce key = some call) :
    call.key = key ∧ call.nonce = nonce ∧ call.additional = additional ∧
      call.ciphertext = message ∧ call.plaintext.length + MacBytes = message.length := by
  obtain ⟨plain, found, rfl⟩ := Option.map_eq_some_iff.mp opened
  exact ⟨rfl, rfl, rfl, rfl, env.xchacha20poly1305.decrypt_length _ _ _ _ _ found⟩

@[simp] theorem encryptAEAD_ciphertext_length :
    (encryptAEAD env message additional nonce key).ciphertext.length
      = message.length + MacBytes :=
  env.chacha20poly1305.encrypt_length _ _ _ _

end Calls

/-! ### The packet nonce -/

/-- Four zero bytes and the sequence number. -/
def packetNonce (sequence : UInt64) : Bytes := uint32Bytes 0 ++ uint64Bytes sequence

/-- **One nonce per sequence number.** -/
theorem packetNonce_injective {first second : UInt64}
    (same : packetNonce first = packetNonce second) : first = second :=
  uint64Bytes_injective (List.append_cancel_left same)

end Netcode
