/-
**Little-endian bytes.**

`leBytes width value` writes the low `width` bytes of a number, least significant first; `leNat`
reads a byte string back as a number.

* `leNat_leBytes` — reading back what was written loses only the bytes above `width`;
* `leBytes_leNat` — writing back what was read restores the bytes;
* `leBytes_injective` — two numbers below `256 ^ width` with the same bytes are equal.
-/

import Mathlib.Data.Nat.ModEq
import Mathlib.Algebra.Order.Ring.Nat
import Mathlib.Tactic.Ring

namespace LittleEndian

/-- The low `width` bytes of `value`, least significant first. -/
def leBytes : Nat → Nat → List UInt8
  | 0, _ => []
  | width + 1, value => UInt8.ofNat (value % 256) :: leBytes width (value / 256)

/-- The number whose bytes, least significant first, are given. -/
def leNat : List UInt8 → Nat
  | [] => 0
  | byte :: rest => byte.toNat + 256 * leNat rest

@[simp] theorem leBytes_length (width value : Nat) : (leBytes width value).length = width := by
  induction width generalizing value with
  | zero => rfl
  | succ width ih => simp [leBytes, ih]

theorem leNat_lt (bytes : List UInt8) : leNat bytes < 256 ^ bytes.length := by
  induction bytes with
  | nil => simp [leNat]
  | cons byte rest ih =>
    have small : byte.toNat < 256 := byte.toNat_lt
    rw [leNat, List.length_cons, pow_succ]
    omega

/-- **Reading back what was written** keeps the low `width` bytes. -/
theorem leNat_leBytes (width value : Nat) : leNat (leBytes width value) = value % 256 ^ width := by
  induction width generalizing value with
  | zero => simp [leBytes, leNat, Nat.mod_one]
  | succ width ih =>
    have digit : (UInt8.ofNat (value % 256)).toNat = value % 256 := by
      rw [UInt8.toNat_ofNat']
      exact Nat.mod_mod _ _
    rw [leBytes, leNat, ih, digit, pow_succ, Nat.mul_comm (256 ^ width), Nat.mod_mul]

/-- **Writing back what was read** restores the bytes. -/
theorem leBytes_leNat (bytes : List UInt8) : leBytes bytes.length (leNat bytes) = bytes := by
  induction bytes with
  | nil => rfl
  | cons byte rest ih =>
    have small : byte.toNat < 256 := byte.toNat_lt
    have low : (byte.toNat + 256 * leNat rest) % 256 = byte.toNat := by omega
    have high : (byte.toNat + 256 * leNat rest) / 256 = leNat rest := by omega
    rw [List.length_cons, leBytes, leNat, low, high, ih, UInt8.ofNat_toNat]

theorem leNat_leBytes_of_lt {width value : Nat} (small : value < 256 ^ width) :
    leNat (leBytes width value) = value := by
  rw [leNat_leBytes, Nat.mod_eq_of_lt small]

/-- **Numbers that fit are determined by their bytes.** -/
theorem leBytes_injective {width first second : Nat} (small : first < 256 ^ width)
    (small' : second < 256 ^ width) (same : leBytes width first = leBytes width second) :
    first = second := by
  rw [← leNat_leBytes_of_lt small, same, leNat_leBytes_of_lt small']

end LittleEndian
