/-
**Exact readers.**

A reader takes a value off the front of a list, or fails. It is exact for a writer when it reads a
value off precisely the lists that start with what the writer writes for it. Reading then inverts
writing (`Exact.read_append`), and a computation that starts with such a read can be taken apart
(`Exact.bind_eq_some`). `Exact.map` gives the reader of a view of the values. A reader of a fixed
width (`Sized`) fails only past the end of its list.
-/

import Mathlib.Data.Option.Basic

namespace Codec

variable {σ α β γ : Type} {write : α → List σ} {read : List σ → Option (α × List σ)}

/-- **The reader takes off precisely what the writer puts on.** -/
structure Exact (write : α → List σ) (read : List σ → Option (α × List σ)) : Prop where
  eq_some : ∀ {buffer value rest}, read buffer = some (value, rest) ↔ buffer = write value ++ rest

namespace Exact

theorem read_append (exact : Exact write read) (value : α) (rest : List σ) :
    read (write value ++ rest) = some (value, rest) :=
  exact.eq_some.mpr rfl

/-- A computation that starts with a read succeeds precisely on a written value and a rest with which
it goes on. -/
theorem bind_eq_some (exact : Exact write read) {next : α × List σ → Option γ} {buffer : List σ}
    {result : γ} :
    (read buffer >>= next) = some result ↔
      ∃ value rest, buffer = write value ++ rest ∧ next (value, rest) = some result := by
  constructor
  · intro reads
    obtain ⟨⟨value, rest⟩, readValue, continues⟩ := Option.bind_eq_some_iff.mp reads
    exact ⟨value, rest, exact.eq_some.mp readValue, continues⟩
  · rintro ⟨value, rest, rfl, continues⟩
    rw [exact.read_append]
    exact continues

/-- A reader followed by a change of representation. -/
theorem map (exact : Exact write read) (view : α → β) (back : β → α)
    (left : ∀ value, back (view value) = value) (right : ∀ value, view (back value) = value) :
    Exact (fun value => write (back value))
      (fun buffer => read buffer >>= fun result => some (view result.1, result.2)) := by
  refine ⟨fun {buffer value rest} => ?_⟩
  rw [exact.bind_eq_some]
  constructor
  · rintro ⟨field, rest', isBuffer, same⟩
    cases same
    show buffer = write (back (view field)) ++ rest'
    rw [isBuffer, left]
  · intro isBuffer
    exact ⟨back value, rest, isBuffer, by rw [right]⟩

end Exact

/-- **A reader of a fixed width**: it succeeds wherever that much is left. -/
structure Sized (width : Nat) (read : List σ → Option (α × List σ)) : Prop where
  isSome : ∀ {buffer}, width ≤ buffer.length →
    ∃ value rest, read buffer = some (value, rest) ∧ rest.length + width = buffer.length

/-- A computation that starts with such a read succeeds if it goes on with what is left. -/
theorem Sized.bind {width : Nat} (sized : Sized width read) {next : α × List σ → Option γ}
    {buffer : List σ} (room : width ≤ buffer.length)
    (continues : ∀ value rest, rest.length + width = buffer.length →
      ∃ result, next (value, rest) = some result) :
    ∃ result, (read buffer >>= next) = some result := by
  obtain ⟨value, rest, reads, left⟩ := sized.isSome room
  rw [reads]
  exact continues value rest left

end Codec
