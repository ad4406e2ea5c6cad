/-
**The history of connect tokens.**

`token_entries.go`: 2048 entries, each free, pending or consumed, found by the MAC of the private
connect token. `connectTokenEntriesFindOrAdd` looks at every entry: a matching one admits only while
it is pending and only the address that created it; without a match the first entry that is free or
whose token has expired takes the new token.

* `findOrAdd_cases` — everything one call can do: refuse with the history unchanged, admit through
  an entry that is there, or admit by writing one entry;
* `findOrAdd_admits` — a history in which every MAC stands once (`MacsDistinct`) admits a token it
  does not know, if it has an entry to take, and one that is pending for the address.
-/

import Netcode.Model.Basic
import Mathlib.Data.Rat.Defs
import Mathlib.Logic.Function.Basic

namespace Netcode

inductive EntryState where
  | free
  | pending
  | consumed
  deriving DecidableEq

/-- A connect token the server has seen. -/
structure ConnectTokenEntry where
  state : EntryState
  time : ℚ
  expireTimestamp : UInt64
  mac : Mac
  address : Address

abbrev ConnectTokenEntries := Nat → ConnectTokenEntry

def connectTokenEntriesReset : ConnectTokenEntries :=
  fun _ => ⟨.free, -1000, 0, .zero _, Address.none⟩

/-- What the history answers: the index of the entry that admits the request,
`connectTokenEntryRefused` or `connectTokenHistoryFull`. -/
inductive Admission where
  | entry (index : Nat)
  | refused
  | historyFull
  deriving DecidableEq

/-- `matchingTokenIndex` after the loop: the last entry in use that holds the MAC. -/
def matchingTokenIndex (entries : ConnectTokenEntries) (mac : Mac) : Option Nat :=
  (List.range maxConnectTokenEntries).reverse.find? fun i =>
    (entries i).state ≠ .free && mac = (entries i).mac

/-- `freeTokenIndex` after the loop: the first entry that is free or whose token has expired. -/
def freeTokenIndex (entries : ConnectTokenEntries) (currentTimestamp : UInt64) : Option Nat :=
  (List.range maxConnectTokenEntries).find? fun i =>
    (entries i).state = .free || (entries i).expireTimestamp ≤ currentTimestamp

def connectTokenEntriesFindOrAdd (entries : ConnectTokenEntries) (address : Address) (mac : Mac)
    (expireTimestamp currentTimestamp : UInt64) (time : ℚ) : ConnectTokenEntries × Admission :=
  match matchingTokenIndex entries mac with
  | none =>
    match freeTokenIndex entries currentTimestamp with
    | none => (entries, .historyFull)
    | some index =>
      (Function.update entries index ⟨.pending, time, expireTimestamp, mac, address⟩, .entry index)
  | some index =>
    if (entries index).state = .pending ∧ (entries index).address.Equal address then
      (entries, .entry index)
    else (entries, .refused)

def connectTokenEntriesConsume (entries : ConnectTokenEntries) (index : Nat) :
    ConnectTokenEntries :=
  if index < maxConnectTokenEntries then
    Function.update entries index { entries index with state := .consumed }
  else entries

/-! ### What one call does -/

theorem connectTokenEntriesConsume_self (entries : ConnectTokenEntries) {index : Nat}
    (small : index < maxConnectTokenEntries) :
    connectTokenEntriesConsume entries index index = { entries index with state := .consumed } := by
  rw [connectTokenEntriesConsume, if_pos small, Function.update_self]

/-- Consuming an entry changes nothing but its state. -/
theorem connectTokenEntriesConsume_cases (entries : ConnectTokenEntries) (index k : Nat) :
    ∃ state, connectTokenEntriesConsume entries index k = { entries k with state := state } ∧
      (state = (entries k).state ∨ k = index ∧ state = .consumed) := by
  unfold connectTokenEntriesConsume
  split_ifs
  · by_cases here : k = index
    · subst here
      exact ⟨.consumed, Function.update_self _ _ _, .inr ⟨rfl, rfl⟩⟩
    · exact ⟨(entries k).state, Function.update_of_ne here _ _, .inl rfl⟩
  · exact ⟨(entries k).state, rfl, .inl rfl⟩

theorem matchingTokenIndex_eq_some {entries : ConnectTokenEntries} {mac : Mac} {index : Nat}
    (found : matchingTokenIndex entries mac = some index) :
    index < maxConnectTokenEntries ∧ (entries index).state ≠ .free ∧ (entries index).mac = mac := by
  have member := List.mem_of_find?_eq_some found
  have holds := List.find?_some found
  rw [List.mem_reverse, List.mem_range] at member
  simp only [Bool.and_eq_true, decide_eq_true_eq] at holds
  exact ⟨member, holds.1, holds.2.symm⟩

theorem matchingTokenIndex_eq_none {entries : ConnectTokenEntries} {mac : Mac} :
    matchingTokenIndex entries mac = none ↔
      ∀ i < maxConnectTokenEntries, (entries i).state ≠ .free → (entries i).mac ≠ mac := by
  simp only [matchingTokenIndex, List.find?_eq_none, List.mem_reverse, List.mem_range,
    Bool.and_eq_true, decide_eq_true_eq, not_and]
  constructor
  · exact fun absent i small used same => absent i small used same.symm
  · exact fun absent i small used same => absent i small used same.symm

theorem freeTokenIndex_eq_some {entries : ConnectTokenEntries} {currentTimestamp : UInt64}
    {index : Nat} (found : freeTokenIndex entries currentTimestamp = some index) :
    index < maxConnectTokenEntries ∧
      ((entries index).state = .free ∨ (entries index).expireTimestamp ≤ currentTimestamp) := by
  have member := List.mem_of_find?_eq_some found
  have holds := List.find?_some found
  rw [List.mem_range] at member
  simp only [Bool.or_eq_true, decide_eq_true_eq] at holds
  exact ⟨member, holds⟩

section FindOrAdd

variable {entries : ConnectTokenEntries} {address : Address} {mac : Mac}
  {expireTimestamp currentTimestamp : UInt64} {time : ℚ}

/-- **Everything one call can do.** -/
inductive FindsOrAdds (entries : ConnectTokenEntries) (address : Address) (mac : Mac)
    (expireTimestamp currentTimestamp : UInt64) (time : ℚ) :
    ConnectTokenEntries × Admission → Prop
  | refused : FindsOrAdds entries address mac expireTimestamp currentTimestamp time
      (entries, .refused)
  | historyFull : FindsOrAdds entries address mac expireTimestamp currentTimestamp time
      (entries, .historyFull)
  | admitted (index : Nat) (small : index < maxConnectTokenEntries)
      (pending : (entries index).state = .pending) (holds : (entries index).mac = mac)
      (creator : (entries index).address.Equal address = true) :
      FindsOrAdds entries address mac expireTimestamp currentTimestamp time
        (entries, .entry index)
  | added (index : Nat) (small : index < maxConnectTokenEntries)
      (absent : ∀ i < maxConnectTokenEntries, (entries i).state ≠ .free → (entries i).mac ≠ mac)
      (reusable : (entries index).state = .free ∨
        (entries index).expireTimestamp ≤ currentTimestamp) :
      FindsOrAdds entries address mac expireTimestamp currentTimestamp time
        (Function.update entries index ⟨.pending, time, expireTimestamp, mac, address⟩,
          .entry index)

theorem findOrAdd_cases :
    FindsOrAdds entries address mac expireTimestamp currentTimestamp time
      (connectTokenEntriesFindOrAdd entries address mac expireTimestamp currentTimestamp time) := by
  unfold connectTokenEntriesFindOrAdd
  cases found : matchingTokenIndex entries mac with
  | none =>
    cases room : freeTokenIndex entries currentTimestamp with
    | none => exact .historyFull
    | some index =>
      obtain ⟨small, reusable⟩ := freeTokenIndex_eq_some room
      exact .added index small (matchingTokenIndex_eq_none.mp found) reusable
  | some index =>
    obtain ⟨small, -, holds⟩ := matchingTokenIndex_eq_some found
    dsimp only
    split_ifs with admits
    · exact .admitted index small admits.1 holds admits.2
    · exact .refused

/-- The history admits a token from an address: it does not know the MAC and has an entry to take, or
it holds the MAC, pending for that address. -/
def HistoryAdmits (entries : ConnectTokenEntries) (address : Address) (mac : Mac)
    (currentTimestamp : UInt64) : Prop :=
  (∀ i < maxConnectTokenEntries, (entries i).state ≠ .free → (entries i).mac ≠ mac) ∧
      (∃ i < maxConnectTokenEntries,
        (entries i).state = .free ∨ (entries i).expireTimestamp ≤ currentTimestamp) ∨
    ∃ i < maxConnectTokenEntries, (entries i).state = .pending ∧ (entries i).mac = mac ∧
      (entries i).address.Equal address = true

/-- No two entries in use hold the same MAC. -/
def MacsDistinct (entries : ConnectTokenEntries) : Prop :=
  ∀ i < maxConnectTokenEntries, ∀ j < maxConnectTokenEntries, (entries i).state ≠ .free →
    (entries j).state ≠ .free → (entries i).mac = (entries j).mac → i = j

theorem macsDistinct_reset : MacsDistinct connectTokenEntriesReset :=
  fun _ _ _ _ used => absurd rfl used

theorem MacsDistinct.findOrAdd (distinct : MacsDistinct entries) :
    MacsDistinct (connectTokenEntriesFindOrAdd entries address mac expireTimestamp currentTimestamp
      time).1 := by
  have cases_ := @findOrAdd_cases entries address mac expireTimestamp currentTimestamp time
  generalize connectTokenEntriesFindOrAdd entries address mac expireTimestamp currentTimestamp time =
    result at cases_
  cases cases_ with
  | refused => exact distinct
  | historyFull => exact distinct
  | admitted => exact distinct
  | added index small absent reusable =>
    -- a MAC is written only where no other entry in use has it
    intro i smallI j smallJ usedI usedJ same
    dsimp only at usedI usedJ same
    by_cases isI : i = index <;> by_cases isJ : j = index
    · exact isI.trans isJ.symm
    · rw [isI, Function.update_self, Function.update_of_ne isJ] at same
      rw [Function.update_of_ne isJ] at usedJ
      exact absurd same.symm (absent j smallJ usedJ)
    · rw [isJ, Function.update_self, Function.update_of_ne isI] at same
      rw [Function.update_of_ne isI] at usedI
      exact absurd same (absent i smallI usedI)
    · rw [Function.update_of_ne isI] at usedI same
      rw [Function.update_of_ne isJ] at usedJ same
      exact distinct i smallI j smallJ usedI usedJ same

theorem MacsDistinct.consume (distinct : MacsDistinct entries) {index : Nat}
    (used : (entries index).state ≠ .free) :
    MacsDistinct (connectTokenEntriesConsume entries index) := by
  have same : ∀ k, (connectTokenEntriesConsume entries index k).mac = (entries k).mac ∧
      ((connectTokenEntriesConsume entries index k).state ≠ .free → (entries k).state ≠ .free) := by
    intro k
    obtain ⟨state, same, isState⟩ := connectTokenEntriesConsume_cases entries index k
    rw [same]
    refine ⟨rfl, fun usedK => ?_⟩
    rcases isState with old | ⟨here, -⟩
    · exact old ▸ usedK
    · exact here ▸ used
  intro i smallI j smallJ usedI usedJ equal
  rw [(same i).1, (same j).1] at equal
  exact distinct i smallI j smallJ ((same i).2 usedI) ((same j).2 usedJ) equal

/-- **The history admits what it should**: the answer is an entry. -/
theorem findOrAdd_admits (distinct : MacsDistinct entries)
    (admits : HistoryAdmits entries address mac currentTimestamp) :
    ∃ index, (connectTokenEntriesFindOrAdd entries address mac expireTimestamp currentTimestamp
      time).2 = .entry index := by
  unfold connectTokenEntriesFindOrAdd
  rcases admits with ⟨absent, i, small, takes⟩ | ⟨i, small, pending, holds, creator⟩
  · rw [matchingTokenIndex_eq_none.mpr absent]
    cases room : freeTokenIndex entries currentTimestamp with
    | some index => exact ⟨index, rfl⟩
    | none =>
      have none_ := List.find?_eq_none.mp room i (List.mem_range.mpr small)
      simp only [Bool.or_eq_true, decide_eq_true_eq] at none_
      exact absurd takes none_
  · have usedI : (entries i).state ≠ .free := by
      rw [pending]
      exact fun impossible => by cases impossible
    cases found : matchingTokenIndex entries mac with
    | none => exact absurd holds (matchingTokenIndex_eq_none.mp found i small usedI)
    | some index =>
      obtain ⟨smallIndex, used, sameMac⟩ := matchingTokenIndex_eq_some found
      obtain rfl := distinct index smallIndex i small used usedI (sameMac.trans holds.symm)
      dsimp only
      rw [if_pos ⟨pending, creator⟩]
      exact ⟨index, rfl⟩

end FindOrAdd

end Netcode
