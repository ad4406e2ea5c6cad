/-
**Writing and reading through a cursor.**

A buffer of fixed size and a position in it. `put` writes all of its data or fails, `copy` writes
what fits and moves on by the length of the data in any case. `Writes action data` says that an
action writes just `data` wherever there is room for it; such actions compose (`Writes.seq`), so a
sequence of writes is described by the concatenation of its data.

`get` reads a number of cells or fails. `Sees cursor ahead` says what is in front of the cursor: a
read of it returns its first cells (`Sees.get`), and data written over it shows at once
(`Sees.overwrite`).
-/

import Mathlib.Data.List.Infix

/-- A buffer and the position of the next write or read. -/
structure Cursor (σ : Type) where
  buffer : List σ
  pos : Nat

namespace Cursor

variable {σ : Type}

/-- The cursor after data has replaced what was at its position. -/
def write (cursor : Cursor σ) (data : List σ) : Cursor σ :=
  ⟨cursor.buffer.take cursor.pos ++ data ++ cursor.buffer.drop (cursor.pos + data.length),
    cursor.pos + data.length⟩

/-- Write all the data, or fail if it does not fit. -/
def put (data : List σ) (cursor : Cursor σ) : Option (Cursor σ) :=
  if cursor.pos + data.length ≤ cursor.buffer.length then some (cursor.write data) else none

/-- Write as much of the data as fits; fail only if the position is past the buffer. -/
def copy (data : List σ) (cursor : Cursor σ) : Option (Cursor σ) :=
  if cursor.pos ≤ cursor.buffer.length then
    some ⟨(cursor.write (data.take (cursor.buffer.length - cursor.pos))).buffer,
      cursor.pos + data.length⟩
  else none

/-- **Two writes are one.** -/
theorem write_write (cursor : Cursor σ) {first second : List σ}
    (room : cursor.pos + (first ++ second).length ≤ cursor.buffer.length) :
    (cursor.write first).write second = cursor.write (first ++ second) := by
  rw [List.length_append] at room
  have front : (cursor.buffer.take cursor.pos ++ first).length = cursor.pos + first.length := by
    rw [List.length_append, List.length_take, Nat.min_eq_left (by omega)]
  simp only [write, List.length_append, mk.injEq]
  refine ⟨?_, by omega⟩
  rw [List.take_left' front, ← List.append_assoc (List.take _ _) first second,
    List.drop_append, front, List.drop_drop]
  rw [List.drop_eq_nil_of_le (by rw [front]; omega), List.nil_append]
  congr 2
  omega

/-- **The action writes just this data**, wherever there is room for it. -/
def Writes (action : Cursor σ → Option (Cursor σ)) (data : List σ) : Prop :=
  ∀ cursor, cursor.pos + data.length ≤ cursor.buffer.length →
    action cursor = some (cursor.write data)

namespace Writes

theorem put (data : List σ) : Writes (put data) data := fun _ room => if_pos room

theorem copy (data : List σ) : Writes (copy data) data := by
  intro cursor room
  rw [Cursor.copy, if_pos (by omega), List.take_of_length_le (by omega)]
  rfl

theorem nothing : Writes (some : Cursor σ → Option (Cursor σ)) [] := by
  intro cursor room
  simp [write]

/-- **Writing one after the other.** -/
theorem seq {first second : Cursor σ → Option (Cursor σ)} {data data' : List σ}
    (left : Writes first data) (right : Writes second data') :
    Writes (fun cursor => first cursor >>= second) (data ++ data') := by
  intro cursor room
  have room' := room
  rw [List.length_append] at room'
  dsimp only
  rw [left cursor (by omega), ← cursor.write_write room]
  refine right _ ?_
  simp only [write, List.length_append, List.length_take, List.length_drop]
  omega

end Writes

/-! ### Reading -/

/-- Read `count` cells, or fail if there are fewer. -/
def get (count : Nat) (cursor : Cursor σ) : Option (List σ × Cursor σ) :=
  if cursor.pos + count ≤ cursor.buffer.length then
    some ((cursor.buffer.drop cursor.pos).take count, ⟨cursor.buffer, cursor.pos + count⟩)
  else none

/-- **The cursor has these cells in front of it.** -/
structure Sees (cursor : Cursor σ) (ahead : List σ) : Prop where
  inside : cursor.pos ≤ cursor.buffer.length
  front : ahead <+: cursor.buffer.drop cursor.pos

namespace Sees

variable {cursor : Cursor σ} {ahead : List σ}

theorem start (buffer : List σ) : Sees ⟨buffer, 0⟩ buffer :=
  ⟨Nat.zero_le _, List.prefix_rfl⟩

theorem room (sees : cursor.Sees ahead) : cursor.pos + ahead.length ≤ cursor.buffer.length := by
  have fits := sees.front.length_le
  rw [List.length_drop] at fits
  have inside := sees.inside
  omega

/-- Some of the cells in front. -/
theorem shorten {more : List σ} (sees : cursor.Sees (ahead ++ more)) : cursor.Sees ahead :=
  ⟨sees.inside, (List.prefix_append ahead more).trans sees.front⟩

/-- Moving on past some of the cells. -/
theorem advance (sees : cursor.Sees ahead) {count : Nat} (fits : count ≤ ahead.length) :
    Sees ⟨cursor.buffer, cursor.pos + count⟩ (ahead.drop count) := by
  refine ⟨Nat.le_trans (Nat.add_le_add_left fits _) sees.room, ?_⟩
  rw [← List.drop_drop]
  exact sees.front.drop count

/-- **A read of what is in front.** -/
theorem get (sees : cursor.Sees ahead) {count : Nat} (fits : count ≤ ahead.length) :
    ∃ next, cursor.get count = some (ahead.take count, next) ∧ next.Sees (ahead.drop count) := by
  refine ⟨_, ?_, sees.advance fits⟩
  rw [Cursor.get, if_pos (Nat.le_trans (Nat.add_le_add_left fits _) sees.room)]
  obtain ⟨tail, whole⟩ := sees.front
  rw [← whole, List.take_append_of_le_length fits]

/-- **Data written over what is in front.** -/
theorem overwrite (sees : cursor.Sees ahead) (data : List σ) :
    Sees ⟨(cursor.write data).buffer, cursor.pos⟩ (data ++ ahead.drop data.length) := by
  have before : (cursor.buffer.take cursor.pos).length = cursor.pos :=
    List.length_take_of_le sees.inside
  refine ⟨?_, ?_⟩
  · simp only [write, List.length_append, before]
    omega
  · rw [write, List.append_assoc, List.drop_left' before, List.prefix_append_right_inj,
      ← List.drop_drop]
    exact sees.front.drop data.length

end Sees

end Cursor
