/-
**The history of connect tokens over whole runs.**

`History.Step` is one call: `connectTokenEntriesFindOrAdd`, with readings of the clock that do not
go back, or `connectTokenEntriesConsume` of an index that was returned before. What the history is
for is a map from MACs to what is known of the token (`tokenMap`); the 2048 entries are where the map
is kept. A record of the map leaves it only when its token has expired and another one takes its
place (`MapStep`).

* `Kept`, `Steps.kept` — an entry whose token has not expired stays, over any number of calls;
* `Step.simulates` — every call is a step of the map;
* `token_history_refines_map` — **what the history answers and keeps, in every state it reaches.**
-/

import Mathlib.Logic.Relation
import Netcode.Model.TokenEntries

namespace Netcode

open Relation (ReflTransGen)

/-! ### The calls -/

/-- The history, with the latest reading of the clock it was given and the indices it returned. -/
structure History where
  entries : ConnectTokenEntries
  latest : UInt64
  returned : List Nat

namespace History

def reset : History := ⟨connectTokenEntriesReset, 0, []⟩

/-- What an answer adds to the indices that were returned. -/
def indices : Admission → List Nat
  | .entry index => [index]
  | _ => []

/-- **One call.** -/
inductive Step (h : History) : History → Prop
  | findOrAdd (address : Address) (mac : Mac) (expireTimestamp currentTimestamp : UInt64) (time : ℚ)
      (entries : ConnectTokenEntries) (answer : Admission)
      (answers : connectTokenEntriesFindOrAdd h.entries address mac expireTimestamp currentTimestamp
        time = (entries, answer))
      (forward : h.latest ≤ currentTimestamp) :
      Step h ⟨entries, currentTimestamp, indices answer ++ h.returned⟩
  | consume (index : Nat) (wasReturned : index ∈ h.returned) :
      Step h { h with entries := connectTokenEntriesConsume h.entries index }

/-- The histories that calls lead to. -/
def Reachable (h : History) : Prop := ReflTransGen Step reset h

end History

/-- An entry that is free or whose token has expired can take a new token. -/
def TakesNext (entries : ConnectTokenEntries) (currentTimestamp : UInt64) (i : Nat) : Prop :=
  (entries i).state = .free ∨ (entries i).expireTimestamp ≤ currentTimestamp

/-! ### The map -/

/-- **What is known of a MAC**: the entry in use that holds it. -/
def tokenMap (entries : ConnectTokenEntries) (mac : Mac) : Option ConnectTokenEntry :=
  (matchingTokenIndex entries mac).map entries

/-- **One step of the map**: a token it does not know is added, and an expired one may make room for
it; a known token is consumed. -/
inductive MapStep (now : UInt64) (map : Mac → Option ConnectTokenEntry) :
    (Mac → Option ConnectTokenEntry) → Prop
  | same : MapStep now map map
  | add (entry : ConnectTokenEntry) (unknown : map entry.mac = none)
      (pending : entry.state = .pending) : MapStep now map (Function.update map entry.mac (some entry))
  | replace (old entry : ConnectTokenEntry) (unknown : map entry.mac = none)
      (pending : entry.state = .pending) (known : map old.mac = some old)
      (expired : old.expireTimestamp ≤ now) :
      MapStep now map (Function.update (Function.update map old.mac none) entry.mac (some entry))
  | consume (entry : ConnectTokenEntry) (known : map entry.mac = some entry) :
      MapStep now map (Function.update map entry.mac (some { entry with state := .consumed }))

section Map

variable {entries : ConnectTokenEntries} {mac : Mac}

theorem tokenMap_eq_some (distinct : MacsDistinct entries) {entry : ConnectTokenEntry} :
    tokenMap entries mac = some entry ↔ ∃ i < maxConnectTokenEntries,
      (entries i).state ≠ .free ∧ (entries i).mac = mac ∧ entries i = entry := by
  constructor
  · intro known
    obtain ⟨i, found, isEntry⟩ := Option.map_eq_some_iff.mp known
    obtain ⟨small, used, holds⟩ := matchingTokenIndex_eq_some found
    exact ⟨i, small, used, holds, isEntry⟩
  · rintro ⟨i, small, used, holds, rfl⟩
    cases found : matchingTokenIndex entries mac with
    | none => exact absurd holds (matchingTokenIndex_eq_none.mp found i small used)
    | some j =>
      obtain ⟨smallJ, usedJ, holdsJ⟩ := matchingTokenIndex_eq_some found
      obtain rfl := distinct i small j smallJ used usedJ (holds.trans holdsJ.symm)
      rw [tokenMap, found]
      rfl

theorem tokenMap_eq_none : tokenMap entries mac = none ↔
    ∀ i < maxConnectTokenEntries, (entries i).state ≠ .free → (entries i).mac ≠ mac := by
  rw [tokenMap, Option.map_eq_none_iff, matchingTokenIndex_eq_none]

/-- Writing one entry: its MAC is found there, the MAC that was there is gone, and every other one is
where it was. -/
theorem tokenMap_update (distinct : MacsDistinct entries) {index : Nat} {entry : ConnectTokenEntry}
    (distinct' : MacsDistinct (Function.update entries index entry))
    (small : index < maxConnectTokenEntries) (used : entry.state ≠ .free) (mac : Mac) :
    tokenMap (Function.update entries index entry) mac =
      if mac = entry.mac then some entry
      else if (entries index).state ≠ .free ∧ mac = (entries index).mac then none
      else tokenMap entries mac := by
  split_ifs with isNew isOld
  · exact (tokenMap_eq_some distinct').mpr ⟨index, small, by rwa [Function.update_self],
      by rw [Function.update_self, isNew], Function.update_self _ _ _⟩
  · refine tokenMap_eq_none.mpr fun i smallI usedI holds => ?_
    by_cases here : i = index
    · rw [here, Function.update_self] at holds
      exact isNew holds.symm
    · rw [Function.update_of_ne here] at usedI holds
      exact here (distinct i smallI index small usedI isOld.1 (holds.trans isOld.2))
  · refine Option.ext fun record => ?_
    rw [tokenMap_eq_some distinct', tokenMap_eq_some distinct]
    constructor
    · rintro ⟨i, smallI, usedI, holds, isRecord⟩
      have elsewhere : i ≠ index := by
        rintro rfl
        rw [Function.update_self] at holds
        exact isNew holds.symm
      rw [Function.update_of_ne elsewhere] at usedI holds isRecord
      exact ⟨i, smallI, usedI, holds, isRecord⟩
    · rintro ⟨i, smallI, usedI, holds, isRecord⟩
      have elsewhere : i ≠ index := by
        rintro rfl
        exact isOld ⟨usedI, holds.symm⟩
      exact ⟨i, smallI, by rwa [Function.update_of_ne elsewhere],
        by rwa [Function.update_of_ne elsewhere], by rwa [Function.update_of_ne elsewhere]⟩

end Map

/-! ### One call -/

section FindOrAdd

variable {entries : ConnectTokenEntries} {address : Address} {mac : Mac}
  {expireTimestamp currentTimestamp : UInt64} {time : ℚ}

theorem freeTokenIndex_eq_none :
    freeTokenIndex entries currentTimestamp = none ↔
      ∀ i < maxConnectTokenEntries, ¬ TakesNext entries currentTimestamp i := by
  simp [freeTokenIndex, List.find?_eq_none, TakesNext]

theorem freeTokenIndex_first {index : Nat}
    (found : freeTokenIndex entries currentTimestamp = some index) :
    index < maxConnectTokenEntries ∧ TakesNext entries currentTimestamp index ∧
      ∀ j < index, ¬ TakesNext entries currentTimestamp j := by
  obtain ⟨small, takes⟩ := freeTokenIndex_eq_some found
  refine ⟨small, takes, fun j less => ?_⟩
  rw [freeTokenIndex, List.find?_range_eq_some] at found
  simpa [TakesNext] using found.2.2 j less

/-- **A MAC that an entry holds**: the entry admits the address that created it while it is pending,
and nothing changes. -/
theorem findOrAdd_held (distinct : MacsDistinct entries) {i : Nat} (small : i < maxConnectTokenEntries)
    (used : (entries i).state ≠ .free) (holds : (entries i).mac = mac) :
    connectTokenEntriesFindOrAdd entries address mac expireTimestamp currentTimestamp time =
      (entries, if (entries i).state = .pending ∧ (entries i).address.Equal address = true
        then .entry i else .refused) := by
  unfold connectTokenEntriesFindOrAdd
  cases found : matchingTokenIndex entries mac with
  | none => exact absurd holds (matchingTokenIndex_eq_none.mp found i small used)
  | some j =>
    obtain ⟨smallJ, usedJ, holdsJ⟩ := matchingTokenIndex_eq_some found
    obtain rfl := distinct i small j smallJ used usedJ (holds.trans holdsJ.symm)
    dsimp only
    split_ifs <;> rfl

/-- **A MAC that no entry holds**: it is stored in the first entry that can take it, or the history is
full of tokens that have not expired. -/
theorem findOrAdd_new
    (absent : ∀ i < maxConnectTokenEntries, (entries i).state ≠ .free → (entries i).mac ≠ mac) :
    (∀ i < maxConnectTokenEntries, ¬ TakesNext entries currentTimestamp i) ∧
        connectTokenEntriesFindOrAdd entries address mac expireTimestamp currentTimestamp time =
          (entries, .historyFull) ∨
      ∃ i < maxConnectTokenEntries, TakesNext entries currentTimestamp i ∧
        (∀ j < i, ¬ TakesNext entries currentTimestamp j) ∧
        connectTokenEntriesFindOrAdd entries address mac expireTimestamp currentTimestamp time =
          (Function.update entries i ⟨.pending, time, expireTimestamp, mac, address⟩, .entry i) := by
  unfold connectTokenEntriesFindOrAdd
  rw [matchingTokenIndex_eq_none.mpr absent]
  cases room : freeTokenIndex entries currentTimestamp with
  | none => exact .inl ⟨freeTokenIndex_eq_none.mp room, rfl⟩
  | some i =>
    obtain ⟨small, takes, first⟩ := freeTokenIndex_first room
    exact .inr ⟨i, small, takes, first, rfl⟩

end FindOrAdd

namespace History

variable {h h' : History}

/-! ### Every state -/

/-- The MACs are distinct, and the indices that were returned are in use. -/
structure Ok (h : History) : Prop where
  distinct : MacsDistinct h.entries
  inUse : ∀ i ∈ h.returned, i < maxConnectTokenEntries ∧ (h.entries i).state ≠ .free

theorem ok_reset : Ok reset := ⟨macsDistinct_reset, fun _ member => by cases member⟩

theorem Ok.step (ok : h.Ok) (step : Step h h') : h'.Ok := by
  cases step with
  | findOrAdd address mac expireTimestamp currentTimestamp time entries answer answers forward =>
    have distinct : MacsDistinct (connectTokenEntriesFindOrAdd h.entries address mac expireTimestamp
        currentTimestamp time).1 := ok.distinct.findOrAdd
    have outcome := @findOrAdd_cases h.entries address mac expireTimestamp currentTimestamp time
    rw [answers] at distinct outcome
    refine ⟨distinct, fun i member => ?_⟩
    dsimp only at member ⊢
    cases outcome with
    | refused | historyFull => exact ok.inUse i member
    | admitted index small pending =>
      rcases List.mem_cons.mp member with rfl | before
      · exact ⟨small, fun free => by cases pending.symm.trans free⟩
      · exact ok.inUse i before
    | added index small =>
      by_cases here : i = index
      · subst here
        rw [Function.update_self]
        exact ⟨small, fun impossible => by cases impossible⟩
      · rw [Function.update_of_ne here]
        exact ok.inUse i ((List.mem_cons.mp member).resolve_left here)
  | consume index wasReturned =>
    refine ⟨ok.distinct.consume (ok.inUse index wasReturned).2, fun i member => ?_⟩
    obtain ⟨state, same, isState⟩ := connectTokenEntriesConsume_cases h.entries index i
    obtain ⟨small, used⟩ := ok.inUse i member
    refine ⟨small, ?_⟩
    dsimp only
    rw [same]
    rcases isState with old | ⟨-, consumed⟩
    · exact old ▸ used
    · rw [consumed]
      exact fun impossible => by cases impossible

theorem Reachable.ok (reached : Reachable h) : h.Ok := by
  induction reached with
  | refl => exact ok_reset
  | tail _ last ih => exact ih.step last

/-! ### What stays -/

/-- The entry is the same, but it may have been consumed. -/
def Kept (entry entry' : ConnectTokenEntry) : Prop :=
  ∃ state, entry' = { entry with state := state } ∧
    (state = entry.state ∨ entry.state = .pending ∧ state = .consumed)

theorem Kept.refl (entry : ConnectTokenEntry) : Kept entry entry := ⟨entry.state, rfl, .inl rfl⟩

theorem Kept.trans {first second third : ConnectTokenEntry} (before : Kept first second)
    (after : Kept second third) : Kept first third := by
  obtain ⟨state, rfl, change⟩ := before
  obtain ⟨state', rfl, change'⟩ := after
  refine ⟨state', rfl, ?_⟩
  rcases change' with rfl | ⟨pending, consumed⟩
  · exact change
  · rcases change with rfl | ⟨-, already⟩
    · exact .inr ⟨pending, consumed⟩
    · rw [show state = .pending from pending] at already
      cases already

theorem Kept.used {entry entry' : ConnectTokenEntry} (kept : Kept entry entry')
    (used : entry.state ≠ .free) : entry'.state ≠ .free := by
  obtain ⟨state, rfl, rfl | ⟨-, rfl⟩⟩ := kept
  · exact used
  · exact fun impossible => by cases impossible

theorem Step.forward (step : Step h h') : h.latest ≤ h'.latest := by
  cases step with
  | findOrAdd address mac expireTimestamp currentTimestamp time entries answer answers forward =>
    exact forward
  | consume => exact UInt64.le_refl _

/-- **One call keeps an entry** whose token has not expired. -/
theorem Step.kept (step : Step h h') {k : Nat} (used : (h.entries k).state ≠ .free)
    (live : h'.latest < (h.entries k).expireTimestamp) : Kept (h.entries k) (h'.entries k) := by
  cases step with
  | findOrAdd address mac expireTimestamp currentTimestamp time entries answer answers forward =>
    have outcome := @findOrAdd_cases h.entries address mac expireTimestamp currentTimestamp time
    rw [answers] at outcome
    cases outcome with
    | refused | historyFull | admitted => exact .refl _
    | added index small absent takes =>
      have other : k ≠ index := by
        rintro rfl
        rcases takes with free | expired
        · exact used free
        · exact absurd live (UInt64.not_lt.mpr expired)
      dsimp only
      rw [Function.update_of_ne other]
      exact .refl _
  | consume index wasReturned =>
    dsimp only
    obtain ⟨state, same, isState⟩ := connectTokenEntriesConsume_cases h.entries index k
    refine ⟨state, same, ?_⟩
    rcases isState with old | ⟨-, consumed⟩
    · exact .inl old
    · cases before : (h.entries k).state with
      | free => exact absurd before used
      | pending => exact .inr ⟨rfl, consumed⟩
      | consumed => exact .inl consumed

/-- **Any number of calls.** -/
theorem Steps.kept (ok : h.Ok) (steps : ReflTransGen Step h h') {k : Nat}
    (used : (h.entries k).state ≠ .free) :
    h'.Ok ∧ (h'.latest < (h.entries k).expireTimestamp → Kept (h.entries k) (h'.entries k)) := by
  induction steps with
  | refl => exact ⟨ok, fun _ => .refl _⟩
  | @tail middle last _ step ih =>
    refine ⟨ih.1.step step, fun live => ?_⟩
    have before := ih.2 (UInt64.lt_of_le_of_lt step.forward live)
    have same : (middle.entries k).expireTimestamp = (h.entries k).expireTimestamp := by
      obtain ⟨state, isEntry, -⟩ := before
      rw [isEntry]
    exact before.trans (step.kept (before.used used) (same ▸ live))

/-! ### The map -/

/-- **Every call is a step of the map.** -/
theorem Step.simulates (ok : h.Ok) (step : Step h h') :
    MapStep h'.latest (tokenMap h.entries) (tokenMap h'.entries) := by
  have distinct' := (ok.step step).distinct
  cases step with
  | findOrAdd address mac expireTimestamp currentTimestamp time entries answer answers forward =>
    have outcome := @findOrAdd_cases h.entries address mac expireTimestamp currentTimestamp time
    rw [answers] at outcome
    dsimp only at distinct' ⊢
    cases outcome with
    | refused | historyFull | admitted => exact .same
    | added index small absent takes =>
      obtain ⟨entry, isEntry⟩ : ∃ entry : ConnectTokenEntry,
        entry = ⟨.pending, time, expireTimestamp, mac, address⟩ := ⟨_, rfl⟩
      rw [← isEntry] at distinct' ⊢
      have unknown : tokenMap h.entries entry.mac = none := by
        rw [isEntry]
        exact tokenMap_eq_none.mpr absent
      have pending : entry.state = .pending := by rw [isEntry]
      have found := tokenMap_update ok.distinct distinct' small
        (fun free => by cases pending.symm.trans free)
      by_cases free : (h.entries index).state = .free
      · have isUpdate : tokenMap (Function.update h.entries index entry) =
            Function.update (tokenMap h.entries) entry.mac (some entry) := by
          funext mac'
          rw [found, Function.update_apply]
          simp only [ne_eq, free, not_true_eq_false, false_and, if_false]
        rw [isUpdate]
        exact .add entry unknown pending
      · have isUpdate : tokenMap (Function.update h.entries index entry) =
            Function.update (Function.update (tokenMap h.entries) (h.entries index).mac none)
              entry.mac (some entry) := by
          funext mac'
          rw [found, Function.update_apply, Function.update_apply]
          simp only [ne_eq, free, not_false_eq_true, true_and]
        rw [isUpdate]
        exact .replace (h.entries index) entry unknown pending
          ((tokenMap_eq_some ok.distinct).mpr ⟨index, small, free, rfl, rfl⟩)
          (takes.resolve_left free)
  | consume index wasReturned =>
    obtain ⟨small, used⟩ := ok.inUse index wasReturned
    dsimp only at distinct' ⊢
    rw [connectTokenEntriesConsume, if_pos small] at distinct' ⊢
    have found := tokenMap_update ok.distinct distinct' small (fun impossible => by cases impossible)
    have isUpdate : tokenMap (Function.update h.entries index
          { h.entries index with state := .consumed }) =
        Function.update (tokenMap h.entries) (h.entries index).mac
          (some { h.entries index with state := .consumed }) := by
      funext mac'
      rw [found, Function.update_apply]
      by_cases here : mac' = (h.entries index).mac
      · rw [if_pos here, if_pos here]
      · rw [if_neg here, if_neg here, if_neg (fun old => here old.2)]
    rw [isUpdate]
    exact .consume (h.entries index)
      ((tokenMap_eq_some ok.distinct).mpr ⟨index, small, used, rfl, rfl⟩)

/-! ### The history -/

/-- **The history refines a map from MACs.** In every state it reaches:

* no two entries in use hold the same MAC;
* an entry whose token expires later than every reading so far is there, and the same, except that a
  pending one may have been consumed;
* a MAC that an entry holds is answered by that entry, if it is pending and the address is the one
  that created it, and is refused otherwise; nothing changes;
* a MAC that no entry holds finds the history full, and unchanged, exactly if all entries are in use
  for tokens that have not expired; otherwise it is stored in the first entry that is not;
* every call is a step of the map. -/
theorem token_history_refines_map (reached : Reachable h) :
    MacsDistinct h.entries ∧
    (∀ later, ReflTransGen Step h later → ∀ k, (h.entries k).state ≠ .free →
      later.latest < (h.entries k).expireTimestamp → Kept (h.entries k) (later.entries k)) ∧
    (∀ address mac expireTimestamp currentTimestamp time,
      (∀ i < maxConnectTokenEntries, (h.entries i).state ≠ .free → (h.entries i).mac = mac →
        connectTokenEntriesFindOrAdd h.entries address mac expireTimestamp currentTimestamp time =
          (h.entries, if (h.entries i).state = .pending ∧ (h.entries i).address.Equal address = true
            then .entry i else .refused)) ∧
      ((∀ i < maxConnectTokenEntries, (h.entries i).state ≠ .free → (h.entries i).mac ≠ mac) →
        ((∀ i < maxConnectTokenEntries, (h.entries i).state ≠ .free ∧
            currentTimestamp < (h.entries i).expireTimestamp) →
          connectTokenEntriesFindOrAdd h.entries address mac expireTimestamp currentTimestamp time =
            (h.entries, .historyFull)) ∧
        ((¬ ∀ i < maxConnectTokenEntries, (h.entries i).state ≠ .free ∧
            currentTimestamp < (h.entries i).expireTimestamp) →
          ∃ i < maxConnectTokenEntries, TakesNext h.entries currentTimestamp i ∧
            (∀ j < i, ¬ TakesNext h.entries currentTimestamp j) ∧
            connectTokenEntriesFindOrAdd h.entries address mac expireTimestamp currentTimestamp
              time = (Function.update h.entries i ⟨.pending, time, expireTimestamp, mac, address⟩,
                .entry i)))) ∧
    ∀ next, Step h next → MapStep next.latest (tokenMap h.entries) (tokenMap next.entries) := by
  have ok := reached.ok
  refine ⟨ok.distinct, fun later steps k used live => (Steps.kept ok steps used).2 live,
    fun address mac expireTimestamp currentTimestamp time => ⟨fun i small used holds =>
      findOrAdd_held ok.distinct small used holds, fun absent => ?_⟩,
    fun next step => step.simulates ok⟩
  have taken : ∀ i, ¬ TakesNext h.entries currentTimestamp i ↔
      (h.entries i).state ≠ .free ∧ currentTimestamp < (h.entries i).expireTimestamp := by
    intro i
    rw [TakesNext, not_or, UInt64.not_le]
  rcases findOrAdd_new absent with ⟨full, answers⟩ | ⟨i, small, takes, first, answers⟩
  · exact ⟨fun _ => answers, fun room => absurd (fun i small => (taken i).mp (full i small)) room⟩
  · exact ⟨fun full => absurd takes ((taken i).mpr (full i small)),
      fun _ => ⟨i, small, takes, first, answers⟩⟩

/-- The first token a history is given takes the first entry. -/
theorem findOrAdd_reset (address : Address) (mac : Mac) (expireTimestamp currentTimestamp : UInt64)
    (time : ℚ) :
    connectTokenEntriesFindOrAdd connectTokenEntriesReset address mac expireTimestamp
        currentTimestamp time =
      (Function.update connectTokenEntriesReset 0 ⟨.pending, time, expireTimestamp, mac, address⟩,
        .entry 0) := by
  have takes : ∀ i, TakesNext connectTokenEntriesReset currentTimestamp i := fun _ => .inl rfl
  have absent : ∀ i < maxConnectTokenEntries, (connectTokenEntriesReset i).state ≠ .free →
      (connectTokenEntriesReset i).mac ≠ mac := fun _ _ used => absurd rfl used
  rcases findOrAdd_new absent with ⟨full, -⟩ | ⟨i, -, -, first, answers⟩
  · exact absurd (takes 0) (full 0 (by decide))
  · obtain rfl : i = 0 := Nat.eq_zero_of_not_pos fun positive => first 0 positive (takes 0)
    exact answers

/-- A token is added and consumed: it is refused from then on, whatever the address and the time. -/
theorem token_history_refines_map_consumed :
    ∃ h, Reachable h ∧ (h.entries 0).state = .consumed ∧ ∀ address reading,
      connectTokenEntriesFindOrAdd h.entries address (.zero _) 1040 reading 0 =
        (h.entries, .refused) := by
  have created := findOrAdd_reset ⟨AddressIPv4, .zero 4, .replicate 8 0, 40000⟩ (.zero _) 1040 1000 0
  obtain ⟨h, run, consumed⟩ : ∃ h, Reachable h ∧ h.entries 0 =
      ⟨.consumed, 0, 1040, .zero _, ⟨AddressIPv4, .zero 4, .replicate 8 0, 40000⟩⟩ := by
    refine ⟨_, (ReflTransGen.single (.findOrAdd _ _ _ _ _ _ _ created (by decide))).tail
      (.consume 0 List.mem_cons_self), ?_⟩
    dsimp only
    rw [connectTokenEntriesConsume_self _ (by decide), Function.update_self]
  refine ⟨h, run, by rw [consumed], fun address reading => ?_⟩
  have answers := ((token_history_refines_map run).2.2.1 address (.zero _) 1040 reading 0).1 0
    (by decide) (by rw [consumed]; exact fun impossible => by cases impossible) (by rw [consumed])
  rw [answers, consumed]
  rfl

end History

end Netcode
