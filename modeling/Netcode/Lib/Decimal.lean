/-
**Numbers in decimal.**

`text n` is the decimal text of a number, as ASCII bytes, and `value` reads a text back, digit by
digit from the left. `text_eq` takes the last digit off a text; the other facts follow from it by
induction.

* `value_text` — **reading the text of a number gives the number**;
* `text_isDigit`, `text_length_le`, `text_ne_nil` — the text consists of digits, at least one and no
  more than the number has;
* `joined`, `numbersOf_joined` — numbers with a separator between them, and that they are read back.
-/

import Mathlib.Data.Nat.Basic
import Mathlib.Tactic.IntervalCases

namespace Decimal

/-- An ASCII digit. -/
def IsDigit (byte : UInt8) : Prop := 48 ≤ byte ∧ byte ≤ 57

instance (byte : UInt8) : Decidable (IsDigit byte) :=
  inferInstanceAs (Decidable (48 ≤ byte ∧ byte ≤ 57))

/-- What a text is worth, read on from `start`. -/
def valueFrom (start : Nat) (digits : List UInt8) : Nat :=
  digits.foldl (fun value digit => value * 10 + (digit - 48).toNat) start

def value (digits : List UInt8) : Nat := valueFrom 0 digits

def text (n : Nat) : List UInt8 := (Nat.toDigits 10 n).map Char.toUInt8

theorem le_valueFrom (start : Nat) (digits : List UInt8) : start ≤ valueFrom start digits := by
  induction digits generalizing start with
  | nil => exact Nat.le_refl _
  | cons digit rest ih =>
    have more := ih (start * 10 + (digit - 48).toNat)
    show start ≤ valueFrom (start * 10 + (digit - 48).toNat) rest
    omega

theorem valueFrom_append (start : Nat) (front back : List UInt8) :
    valueFrom start (front ++ back) = valueFrom (valueFrom start front) back :=
  List.foldl_append

/-- The byte of a digit. -/
theorem toUInt8_digitChar {digit : Nat} (small : digit < 10) :
    (Nat.digitChar digit).toUInt8 = 48 + UInt8.ofNat digit := by
  interval_cases digit <;> rfl

theorem isDigit_of_lt {digit : Nat} (small : digit < 10) : IsDigit (48 + UInt8.ofNat digit) := by
  interval_cases digit <;> decide

theorem toNat_of_lt {digit : Nat} (small : digit < 10) :
    (48 + UInt8.ofNat digit - 48).toNat = digit := by
  interval_cases digit <;> rfl

/-- **The last digit comes off the end.** -/
theorem text_eq (n : Nat) :
    text n = (if n < 10 then [] else text (n / 10)) ++ [48 + UInt8.ofNat (n % 10)] := by
  unfold text
  rw [Nat.toDigits_eq_if (by omega)]
  split_ifs with small
  · rw [Nat.mod_eq_of_lt small, List.map_singleton, toUInt8_digitChar small, List.nil_append]
  · rw [List.map_append, List.map_singleton, toUInt8_digitChar (Nat.mod_lt n (by omega))]

/-- **Reading the text of a number gives the number.** -/
theorem value_text (n : Nat) : value (text n) = n := by
  induction n using Nat.strong_induction_on with
  | _ n ih =>
    have last := toNat_of_lt (Nat.mod_lt n (show 0 < 10 by omega))
    rw [text_eq, value, valueFrom_append]
    show valueFrom 0 (if n < 10 then [] else text (n / 10)) * 10 + _ = n
    rw [last]
    split_ifs with small
    · show 0 * 10 + n % 10 = n
      omega
    · have front := ih (n / 10) (by omega)
      rw [value] at front
      rw [front]
      omega

theorem text_isDigit (n : Nat) : ∀ byte ∈ text n, IsDigit byte := by
  induction n using Nat.strong_induction_on with
  | _ n ih =>
    intro byte member
    rw [text_eq, List.mem_append, List.mem_singleton] at member
    rcases member with front | rfl
    · split_ifs at front with small
      · cases front
      · exact ih (n / 10) (by omega) byte front
    · exact isDigit_of_lt (Nat.mod_lt n (by omega))

theorem text_ne_nil (n : Nat) : text n ≠ [] := by
  rw [text_eq]
  exact List.append_ne_nil_of_right_ne_nil _ (List.cons_ne_nil _ _)

/-- A number below `10 ^ (count + 1)` has at most `count + 1` digits. -/
theorem text_length_le (count : Nat) : ∀ n < 10 ^ (count + 1), (text n).length ≤ count + 1 := by
  induction count with
  | zero =>
    intro n small
    rw [text_eq, if_pos (by omega)]
    exact Nat.le_refl _
  | succ count ih =>
    intro n small
    rw [text_eq, List.length_append]
    split_ifs with one
    · show 0 + 1 ≤ _
      omega
    · have front := ih (n / 10) (by rw [Nat.pow_succ] at small; omega)
      show (text (n / 10)).length + 1 ≤ _
      omega

/-! ### Numbers with a separator -/

def joined (separator : UInt8) (numbers : List Nat) : List UInt8 :=
  [separator].intercalate (numbers.map text)

def numbersOf (separator : UInt8) (digits : List UInt8) : List Nat :=
  (digits.splitOn separator).map value

/-- **Separated numbers are read back.** -/
theorem numbersOf_joined {separator : UInt8} (noDigit : ¬ IsDigit separator) {numbers : List Nat}
    (isSome : numbers ≠ []) : numbersOf separator (joined separator numbers) = numbers := by
  have apart : ∀ part ∈ numbers.map text, separator ∉ part := by
    intro part member inside
    obtain ⟨n, -, rfl⟩ := List.mem_map.mp member
    exact noDigit (text_isDigit n _ inside)
  have parts : numbers.map text ≠ [] := fun nothing => isSome (List.map_eq_nil_iff.mp nothing)
  rw [numbersOf, joined, List.splitOn_intercalate separator apart parts, List.map_map]
  exact List.map_id'' value_text numbers

theorem joined_cons_cons (separator : UInt8) (first second : Nat) (rest : List Nat) :
    joined separator (first :: second :: rest) =
      text first ++ separator :: joined separator (second :: rest) := by
  unfold joined
  rw [List.map_cons, List.map_cons, List.intercalate_cons_cons, List.append_assoc]
  rfl

theorem joined_singleton (separator : UInt8) (n : Nat) : joined separator [n] = text n :=
  List.intercalate_singleton

theorem mem_joined {separator byte : UInt8} : ∀ {numbers : List Nat},
    byte ∈ joined separator numbers → IsDigit byte ∨ byte = separator
  | [], member => by cases member
  | [n], member => by
    rw [joined_singleton] at member
    exact .inl (text_isDigit n byte member)
  | first :: second :: rest, member => by
    rw [joined_cons_cons, List.mem_append, List.mem_cons] at member
    rcases member with digit | isSeparator | later
    · exact .inl (text_isDigit first byte digit)
    · exact .inr isSeparator
    · exact mem_joined later

theorem joined_ne_nil (separator : UInt8) : ∀ {numbers : List Nat}, numbers ≠ [] →
    joined separator numbers ≠ []
  | [], isSome => absurd rfl isSome
  | [n], _ => by
    rw [joined_singleton]
    exact text_ne_nil n
  | first :: second :: rest, _ => by
    rw [joined_cons_cons]
    exact List.append_ne_nil_of_left_ne_nil (text_ne_nil first) _

/-- With at most `count` digits each, the text takes at most `count + 1` bytes per number. -/
theorem joined_length_le (separator : UInt8) {count : Nat} : ∀ {numbers : List Nat},
    (∀ n ∈ numbers, (text n).length ≤ count) →
      (joined separator numbers).length ≤ numbers.length * (count + 1)
  | [], _ => Nat.zero_le _
  | [n], few => by
    have one := few n List.mem_cons_self
    rw [joined_singleton, List.length_singleton]
    omega
  | first :: second :: rest, few => by
    have one := few first List.mem_cons_self
    have more := joined_length_le separator fun n member =>
      few n (List.mem_cons_of_mem first member)
    rw [joined_cons_cons, List.length_append, List.length_cons]
    show _ ≤ ((second :: rest).length + 1) * (count + 1)
    rw [Nat.succ_mul]
    omega

end Decimal
