/-
**A ring of cells.**

`window size start count cells` lists the `count` cells of a ring of `size` cells from `start` on,
wrapping around. Writing just past the window appends to it (`window_push`), moving the start past
its first cell drops that cell (`window_pop`), and a write outside the window does not show
(`window_congr`). Windows side by side are one (`window_append`), and a window of all cells lists each
of them once (`window_full`).
-/

import Mathlib.Logic.Function.Basic
import Mathlib.Data.List.Range
import Mathlib.Data.List.Perm.Subperm
import Mathlib.Data.List.Nodup
import Mathlib.Data.Nat.ModEq

namespace Ring

variable {α : Type}

/-- The cells `start, start + 1, …` of a ring of `size` cells, `count` of them. -/
def window (size start count : Nat) (cells : Nat → α) : List α :=
  (List.range count).map fun offset => cells ((start + offset) % size)

@[simp] theorem window_length (size start count : Nat) (cells : Nat → α) :
    (window size start count cells).length = count := by
  simp [window]

@[simp] theorem window_zero (size start : Nat) (cells : Nat → α) :
    window size start 0 cells = [] := rfl

/-- A window shows only its own cells. -/
theorem window_congr {size start count : Nat} {cells cells' : Nat → α}
    (same : ∀ offset < count, cells' ((start + offset) % size) = cells ((start + offset) % size)) :
    window size start count cells' = window size start count cells := by
  unfold window
  refine List.map_congr_left fun offset member => ?_
  exact same offset (List.mem_range.mp member)

/-- Two offsets of one turn of the ring lie on different cells. -/
theorem offset_ne {size first second : Nat} (start : Nat) (less : first < second)
    (turn : second < size) :
    (start + first) % size ≠ (start + second) % size := by
  intro same
  have cast : (start + first) ≡ (start + second) [MOD size] := same
  have equal : first ≡ second [MOD size] := Nat.ModEq.add_left_cancel' start cast
  have : first = second := Nat.ModEq.eq_of_lt_of_lt equal (less.trans turn) turn
  omega

/-- **A write just past the window appends to it.** -/
theorem window_push {size start count : Nat} (room : count < size) (cells : Nat → α) (value : α) :
    window size start (count + 1) (Function.update cells ((start + count) % size) value)
      = window size start count cells ++ [value] := by
  have inside : window size start count (Function.update cells ((start + count) % size) value)
      = window size start count cells := by
    refine window_congr fun offset less => ?_
    exact Function.update_of_ne (offset_ne start less room) _ _
  unfold window at inside ⊢
  rw [List.range_succ, List.map_append, inside]
  simp

/-- **Moving the start past the first cell drops it.** -/
theorem window_pop (size start count : Nat) (cells : Nat → α) :
    window size start (count + 1) cells
      = cells (start % size) :: window size ((start + 1) % size) count cells := by
  unfold window
  rw [List.range_succ_eq_map, List.map_cons, List.map_map, Nat.add_zero]
  congr 1
  refine List.map_congr_left fun offset _ => ?_
  simp only [Function.comp_apply]
  rw [Nat.mod_add_mod, Nat.add_assoc, Nat.add_comm 1 offset]

/-- A write at one cell does not show in the window behind it. -/
theorem window_behind {size count : Nat} (start : Nat) (turn : count < size) (cells : Nat → α)
    (value : α) :
    window size ((start + 1) % size) count (Function.update cells (start % size) value) =
      window size ((start + 1) % size) count cells := by
  refine window_congr fun offset less => ?_
  have elsewhere : (start + 0) % size ≠ (start + (offset + 1)) % size :=
    offset_ne start (Nat.succ_pos offset) (by omega)
  refine Function.update_of_ne ?_ _ _
  rw [Nat.mod_add_mod, Nat.add_assoc, Nat.add_comm 1 offset]
  exact elsewhere.symm

theorem window_append (size start count more : Nat) (cells : Nat → α) :
    window size start (count + more) cells =
      window size start count cells ++ window size ((start + count) % size) more cells := by
  unfold window
  rw [List.range_add, List.map_append, List.map_map]
  congr 1
  refine List.map_congr_left fun offset _ => ?_
  simp only [Function.comp_apply]
  rw [Nat.mod_add_mod, Nat.add_assoc]

/-- **A window of all cells lists each of them once.** -/
theorem window_full {size : Nat} (start : Nat) (cells : Nat → α) :
    (window size start size cells).Perm ((List.range size).map cells) := by
  have once : ((List.range size).map fun offset => (start + offset) % size).Nodup := by
    refine List.Nodup.map_on (fun first isFirst second isSecond same => ?_) List.nodup_range
    rw [List.mem_range] at isFirst isSecond
    rcases Nat.lt_trichotomy first second with less | equal | more
    · exact absurd same (offset_ne start less isSecond)
    · exact equal
    · exact absurd same.symm (offset_ne start more isFirst)
  have inside : ((List.range size).map fun offset => (start + offset) % size) ⊆ List.range size := by
    intro cell member
    obtain ⟨offset, isOffset, rfl⟩ := List.mem_map.mp member
    rw [List.mem_range] at isOffset ⊢
    exact Nat.mod_lt _ (by omega)
  have all : ((List.range size).map fun offset => (start + offset) % size).Perm (List.range size) :=
    (List.subperm_of_subset once inside).perm_of_length_le (by simp)
  have mapped := all.map cells
  rwa [List.map_map] at mapped

end Ring
