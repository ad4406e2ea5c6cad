/-
**Arrays with checked indices.**

An array of `size` cells is a function on the numbers. `get` and `set` are the accesses that fail
outside of it, and a loop over checked cells runs in `Option`: a search is `List.findM?`, a scan
`List.foldlM`. Where no turn fails, the loop returns what it returns without the checks
(`findM?_eq_some`, `foldlM_eq_some`).

`foldl_scan` is the loop that looks for two things at once: the last element that passes one test and
the first that passes another.
-/

import Mathlib.Logic.Function.Basic
import Mathlib.Data.List.Induction

namespace Bounded

variable {α β : Type}

/-- `cells[i]`. -/
def get (size : Nat) (cells : Nat → α) (i : Nat) : Option α :=
  if i < size then some (cells i) else none

/-- `cells[i] = value`. -/
def set (size : Nat) (cells : Nat → α) (i : Nat) (value : α) : Option (Nat → α) :=
  if i < size then some (Function.update cells i value) else none

theorem get_eq {size i : Nat} (inside : i < size) (cells : Nat → α) :
    get size cells i = some (cells i) := if_pos inside

theorem set_eq {size i : Nat} (inside : i < size) (cells : Nat → α) (value : α) :
    set size cells i value = some (Function.update cells i value) := if_pos inside

/-- **A search in which every test returns.** -/
theorem findM?_eq_some {test : α → Option Bool} {passes : α → Bool} {list : List α}
    (each : ∀ a ∈ list, test a = some (passes a)) :
    list.findM? test = some (list.find? passes) := by
  induction list with
  | nil => rfl
  | cons a rest ih =>
    have later := ih fun b member => each b (List.mem_cons_of_mem a member)
    rw [List.findM?, each a List.mem_cons_self, Option.bind_eq_bind, Option.bind_some, List.find?_cons]
    cases passes a with
    | true => rfl
    | false => exact later

/-- **A scan in which every turn returns.** -/
theorem foldlM_eq_some {turn : β → α → Option β} {next : β → α → β} {list : List α}
    (each : ∀ b, ∀ a ∈ list, turn b a = some (next b a)) (start : β) :
    list.foldlM turn start = some (list.foldl next start) := by
  induction list generalizing start with
  | nil => rfl
  | cons a rest ih =>
    rw [List.foldlM_cons, each start a List.mem_cons_self, Option.bind_eq_bind, Option.bind_some,
      List.foldl_cons]
    exact ih (fun b c member => each b c (List.mem_cons_of_mem a member)) (next start a)

/-- One turn of a scan for the last element that passes `last` and the first that passes `first`. -/
def scanTurn (last first : α → Bool) (found : Option α × Option α) (a : α) : Option α × Option α :=
  (if last a then some a else found.1, if found.2.isNone && first a then some a else found.2)

/-- **What such a scan finds.** -/
theorem foldl_scan (last first : α → Bool) (list : List α) :
    list.foldl (scanTurn last first) (none, none) = (list.reverse.find? last, list.find? first) := by
  induction list using List.reverseRecOn with
  | nil => rfl
  | append_singleton list a ih =>
    rw [List.foldl_append, ih, List.foldl_cons, List.foldl_nil, List.reverse_append,
      List.reverse_singleton, List.singleton_append, List.find?_cons, List.find?_append,
      List.find?_singleton, scanTurn]
    congr 1
    · cases last a <;> rfl
    · cases list.find? first <;> cases first a <;> rfl

end Bounded
