/-
**Mappings and their addresses.**

What the operations on the mapping table do, seen from two sides, at any times:

* `owner` — who owns a mapping: a new one is added where nobody owns one (`owner_add`), an
  installation makes the slot the owner (`owner_install`), a disconnection gives up one mapping
  (`owner_release`);
* `Keeps` — **the frame**: an operation for one address leaves every mapping of another address as
  it is, unless that has expired and has no client; so every other address finds what it found
  before (`Keeps.lookup`).

The frame rests on `Tidy`: the mappings in use fit their arrays, and nothing is left beyond them.
Otherwise a mapping added there would bring forgotten ones back into use.
-/

import Netcode.Server.Slots

namespace Netcode

/-! ### Who owns a mapping -/

namespace EncryptionManager

variable {env : Platform} {m m' : EncryptionManager} {address : Address} {time : ℚ} {e i : Nat}

theorem owner_of_none (free : (m.mapping e).clientIndex = none) : m.owner e = none := by
  simp [owner, free]

theorem owner_eq_some {known : Address} :
    m.owner e = some (i, known) ↔
      (m.mapping e).clientIndex = some i ∧ (m.mapping e).address = known := by
  simp [owner, Option.map_eq_some_iff]

/-- An access does not change who owns what. -/
@[simp] theorem owner_access (m : EncryptionManager) (e : Nat) (time : ℚ) :
    (m.access e time).owner = m.owner := by
  funext j
  obtain ⟨lastAccessTime, same⟩ := Server.access_mapping m e j time
  rw [owner, owner, same]

/-- A mapping is added where nobody owns one, if no owned mapping is for its address. -/
theorem owner_add {sendKey receiveKey : Key} {expireTime : ℚ} {timeout : Int32} {index : Nat}
    (apart : ∀ p k known, m.owner p = some (k, known) →
      known.type ≠ AddressNone ∧ known.Equal address = false)
    (added : m.addEncryptionMapping env address sendKey receiveKey time expireTime timeout index =
      some m') : m'.owner = m.owner := by
  obtain ⟨e, mapping, writes, -, client, place⟩ := addEncryptionMapping_cases added
  have free : (m.mapping e).clientIndex = none := by
    cases held : (m.mapping e).clientIndex with
    | none => rfl
    | some k =>
      obtain ⟨valid, other⟩ := apart e k _ (owner_eq_some.mpr ⟨held, rfl⟩)
      rcases place with ⟨found, -, -⟩ | ⟨-, room, -, -⟩
      · rw [(lookup_eq_some.mp found).2.1] at other
        cases other
      · rcases (reusable_eq_some room).2.1 with unused | ⟨-, none⟩
        · exact absurd unused valid
        · rw [held] at none
          cases none
  funext j
  by_cases here : j = e
  · subst here
    rw [owner_of_none free, owner_of_none]
    rw [writes, Function.update_self, client, free]
  · rw [owner, owner, writes, Function.update_of_ne here]

/-- `connectClient` makes a slot the owner. -/
theorem owner_install (m : EncryptionManager) (e i : Nat) (expireTime : ℚ) :
    ((m.setExpireTime e expireTime).setClientIndex e (some i)).owner =
      Function.update m.owner e (some (i, (m.mapping e).address)) := by
  funext j
  by_cases here : j = e
  · subst here
    simp [owner, setClientIndex, setExpireTime, set]
  · simp [owner, setClientIndex, setExpireTime, set, Function.update_of_ne here]

/-- **What `removeEncryptionMapping` does to each mapping**: nothing, or it clears one of the
address, or it drops an expired one without a client. -/
theorem removeEncryptionMapping_each (env : Platform) (m : EncryptionManager) (address : Address)
    (time : ℚ) (j : Nat) :
    (m.removeEncryptionMapping env address time).mapping j = m.mapping j ∨
      (m.mapping j).address.Equal address = true ∧
        (m.removeEncryptionMapping env address time).mapping j = (m.mapping j).cleared ∨
      (m.mapping j).expired env time = true ∧ (m.mapping j).clientIndex = none ∧
        (m.removeEncryptionMapping env address time).mapping j = (m.mapping j).dropped := by
  unfold removeEncryptionMapping
  cases found : (List.range m.numEncryptionMappings).find? fun i =>
      (m.mapping i).address.Equal address with
  | none => exact .inl rfl
  | some i =>
    have equal := List.find?_some found
    have cleared : ∀ k, k ≠ i → (m.set i (m.mapping i).cleared).mapping k = m.mapping k :=
      fun k other => Function.update_of_ne other _ _
    dsimp only
    split_ifs with last
    · obtain ⟨below, values⟩ := trim_cases env time i (m.set i (m.mapping i).cleared).mapping
      obtain ⟨value, dead⟩ := values j
      rw [value]
      split_ifs with trimmed
      · rw [cleared j (by omega)] at dead ⊢
        obtain ⟨expired, free⟩ := dead trimmed.1 trimmed.2
        exact .inr (.inr ⟨expired, free, rfl⟩)
      · by_cases here : j = i
        · subst here
          exact .inr (.inl ⟨equal, Function.update_self _ _ _⟩)
        · exact .inl (cleared j here)
    · by_cases here : j = i
      · subst here
        exact .inr (.inl ⟨equal, Function.update_self _ _ _⟩)
      · exact .inl (cleared j here)

/-- A disconnection gives up one mapping, if no other owned mapping is for its address. -/
theorem owner_release (env : Platform) (time : ℚ)
    (apart : ∀ p k known, p ≠ e → m.owner p = some (k, known) → known.Equal address = false) :
    ((m.setClientIndex e none).removeEncryptionMapping env address time).owner =
      Function.update m.owner e none := by
  funext j
  have each := removeEncryptionMapping_each env (m.setClientIndex e none) address time j
  generalize (m.setClientIndex e none).removeEncryptionMapping env address time = m' at each
  by_cases here : j = e
  · subst here
    have free : ((m.setClientIndex j none).mapping j).clientIndex = none := by
      simp [setClientIndex, set]
    rw [Function.update_self]
    refine owner_of_none ?_
    rcases each with same | ⟨-, same⟩ | ⟨-, -, same⟩
    · rw [same, free]
    · rw [same]
      exact free
    · rw [same]
      exact free
  · have kept : (m.setClientIndex e none).mapping j = m.mapping j := Function.update_of_ne here _ _
    rw [kept] at each
    rw [Function.update_of_ne here]
    rcases each with same | ⟨equal, same⟩ | ⟨-, free, same⟩
    · rw [owner, owner, same]
    · have free : (m.mapping j).clientIndex = none := by
        cases held : (m.mapping j).clientIndex with
        | none => rfl
        | some k =>
          rw [apart j k _ here (owner_eq_some.mpr ⟨held, rfl⟩)] at equal
          cases equal
      rw [owner_of_none free, owner_of_none]
      rw [same]
      exact free
    · rw [owner_of_none free, owner_of_none]
      rw [same]
      exact free

/-! ### The mappings of other addresses -/

/-- The mappings in use fit their arrays, and beyond them there is no address left. -/
structure Tidy (m : EncryptionManager) : Prop where
  fit : m.numEncryptionMappings ≤ maxEncryptionMappings
  beyond : ∀ e, m.numEncryptionMappings ≤ e → (m.mapping e).address.type = AddressNone

theorem Tidy.used (tidy : m.Tidy) (valid : (m.mapping e).address.type ≠ AddressNone) :
    e < m.numEncryptionMappings := by
  by_contra beyond
  exact valid (tidy.beyond e (Nat.not_lt.mp beyond))

theorem tidy_reset : reset.Tidy := ⟨Nat.zero_le _, fun _ _ => rfl⟩

/-- **An operation for one address keeps the mappings of the others**, but for expired ones without
a client, and gives no other address a new one. -/
structure Keeps (env : Platform) (source : Address) (time : ℚ) (m m' : EncryptionManager) : Prop where
  tidy : m.Tidy → m'.Tidy
  kept : ∀ e, (m.mapping e).address.type ≠ AddressNone →
    (m.mapping e).address.Equal source = false →
    (m.mapping e).expired env time = false ∨ (m.mapping e).clientIndex ≠ none →
    m'.mapping e = m.mapping e
  others : ∀ e address, (m'.mapping e).address.Equal address = true →
    address.Equal source = false → m'.mapping e = m.mapping e

theorem Keeps.refl (env : Platform) (source : Address) (time : ℚ) (m : EncryptionManager) :
    Keeps env source time m m :=
  ⟨fun tidy => tidy, fun _ _ _ _ => rfl, fun _ _ _ _ => rfl⟩

theorem Keeps.trans {m'' : EncryptionManager} {source : Address}
    (first : Keeps env source time m m') (second : Keeps env source time m' m'') :
    Keeps env source time m m'' := by
  refine ⟨fun tidy => second.tidy (first.tidy tidy), fun e valid apart live => ?_,
    fun e address equal apart => ?_⟩
  · have same := first.kept e valid apart live
    rw [← same] at valid apart live
    rw [second.kept e valid apart live, same]
  · have same := second.others e address equal apart
    rw [same] at equal
    rw [same, first.others e address equal apart]

/-- An operation for an equal address. -/
theorem Keeps.congr {source source' : Address} (same : source.Equal source' = true)
    (keeps : Keeps env source time m m') : Keeps env source' time m m' := by
  have transfer : ∀ other : Address, other.Equal source' = false → other.Equal source = false := by
    intro other apart
    by_contra equal
    rw [Address.Equal.trans (by simpa using equal) same] at apart
    cases apart
  exact ⟨keeps.tidy, fun e valid apart => keeps.kept e valid (transfer _ apart),
    fun e address equal apart => keeps.others e address equal (transfer _ apart)⟩

/-- Rewriting a mapping of the address. -/
theorem Keeps.rewrite (env : Platform) {source : Address} {mapping : EncryptionMapping} (time : ℚ)
    (isSource : (m.mapping e).address.Equal source = true)
    (same : mapping.address = (m.mapping e).address) :
    Keeps env source time m (m.set e mapping) := by
  have here : (m.set e mapping).mapping e = mapping := Function.update_self _ _ _
  have away : ∀ j, j ≠ e → (m.set e mapping).mapping j = m.mapping j :=
    fun j other => Function.update_of_ne other _ _
  refine ⟨fun tidy => ⟨tidy.fit, fun j beyond => ?_⟩, fun j _ apart _ => ?_,
    fun j address equal apart => ?_⟩
  · by_cases isE : j = e
    · subst isE
      rw [here, same]
      exact tidy.beyond j beyond
    · rw [away j isE]
      exact tidy.beyond j beyond
  · refine away j fun isE => ?_
    rw [isE, isSource] at apart
    cases apart
  · refine away j fun isE => ?_
    rw [isE, here, same] at equal
    rw [Address.Equal.trans (Address.Equal.symm equal) isSource] at apart
    cases apart

/-- Adding a mapping for the address. -/
theorem Keeps.add {source : Address} {sendKey receiveKey : Key} {expireTime : ℚ} {timeout : Int32}
    {index : Nat}
    (added : m.addEncryptionMapping env source sendKey receiveKey time expireTime timeout index =
      some m') : Keeps env source time m m' := by
  obtain ⟨e, mapping, writes, -, -, place⟩ := addEncryptionMapping_cases added
  rcases place with ⟨found, same, count⟩ | ⟨-, room, isSource, count⟩
  · have asSet : m' = m.set e mapping := by
      cases m'
      simp only [set] at writes count ⊢
      rw [writes, count]
    rw [asSet]
    exact .rewrite env time (lookup_eq_some.mp found).2.1 same
  · obtain ⟨inside, takes, earlier⟩ := reusable_eq_some room
    have here : m'.mapping e = mapping := by rw [writes, Function.update_self]
    have away : ∀ j, j ≠ e → m'.mapping j = m.mapping j := by
      intro j other
      rw [writes, Function.update_of_ne other]
    refine ⟨fun tidy => ⟨?_, fun j beyond => ?_⟩, fun j valid _ live => ?_,
      fun j address equal apart => ?_⟩
    · rw [count]
      exact max_le tidy.fit inside
    · -- the first mapping free to take is not beyond the first one that is not in use
      have bound : e ≤ m.numEncryptionMappings := by
        by_contra above
        exact (earlier _ (Nat.not_le.mp above)).1 (tidy.beyond _ (Nat.le_refl _))
      rw [away j (by omega)]
      exact tidy.beyond j (by omega)
    · refine away j fun isE => ?_
      subst isE
      rcases takes with none | ⟨expired, free⟩
      · exact valid none
      · rcases live with live | held
        · rw [expired] at live
          cases live
        · exact held free
    · refine away j fun isE => ?_
      rw [isE, here, isSource] at equal
      rw [Address.Equal.symm equal] at apart
      cases apart

/-- Removing a mapping of the address. -/
theorem Keeps.remove (env : Platform) (m : EncryptionManager) (source : Address) (time : ℚ) :
    Keeps env source time m (m.removeEncryptionMapping env source time) := by
  refine ⟨fun tidy => ?_, fun j valid apart live => ?_, fun j address equal _ => ?_⟩
  · unfold removeEncryptionMapping
    cases found : (List.range m.numEncryptionMappings).find? fun i =>
        (m.mapping i).address.Equal source with
    | none => exact tidy
    | some i =>
      have small : i < m.numEncryptionMappings := List.mem_range.mp (List.mem_of_find?_eq_some found)
      have here : (m.set i (m.mapping i).cleared).mapping i = (m.mapping i).cleared :=
        Function.update_self _ _ _
      have away : ∀ k, k ≠ i → (m.set i (m.mapping i).cleared).mapping k = m.mapping k :=
        fun k other => Function.update_of_ne other _ _
      dsimp only
      split_ifs with last
      · obtain ⟨below, values⟩ := trim_cases env time i (m.set i (m.mapping i).cleared).mapping
        refine ⟨below.trans (small.le.trans tidy.fit), fun j beyond => ?_⟩
        rw [(values j).1]
        have last : i + 1 = m.numEncryptionMappings := last
        split_ifs with trimmed
        · rfl
        · by_cases isI : j = i
          · rw [isI, here]
            rfl
          · rw [away j isI]
            exact tidy.beyond j (by omega)
      · refine ⟨tidy.fit, fun j beyond => ?_⟩
        have beyond : m.numEncryptionMappings ≤ j := beyond
        rw [away j (by omega)]
        exact tidy.beyond j beyond
  · rcases removeEncryptionMapping_each env m source time j with same | ⟨equal, -⟩ | ⟨expired, free, -⟩
    · exact same
    · rw [equal] at apart
      cases apart
    · rcases live with live | held
      · rw [expired] at live
        cases live
      · exact absurd free held
  · rcases removeEncryptionMapping_each env m source time j with same | ⟨-, same⟩ | ⟨-, -, same⟩
    · exact same
    · rw [same] at equal
      exact absurd rfl (Address.Equal.type_ne_none equal)
    · rw [same] at equal
      exact absurd rfl (Address.Equal.type_ne_none equal)

/-- **Every other address finds what it found before.** -/
theorem Keeps.lookup {source address : Address} (keeps : Keeps env source time m m')
    (tidy : m.Tidy) (apart : address.Equal source = false) :
    m'.lookup env address time = m.lookup env address time := by
  have foreign : ∀ known : Address, known.Equal address = true → known.Equal source = false := by
    intro known equal
    by_contra same
    rw [Address.Equal.trans (Address.Equal.symm equal) (by simpa using same)] at apart
    cases apart
  cases found : m.lookup env address time with
  | some e =>
    obtain ⟨-, equal, live, earlier⟩ := lookup_eq_some.mp found
    have valid := Address.Equal.type_ne_none equal
    have same := keeps.kept e valid (foreign _ equal) (.inl live)
    have used : e < m'.numEncryptionMappings := (keeps.tidy tidy).used (by rw [same]; exact valid)
    refine lookup_eq_some.mpr ⟨used, by rw [same]; exact equal, by rw [same]; exact live,
      fun p less equalP => ?_⟩
    have sameP := keeps.others p address equalP apart
    rw [sameP] at equalP ⊢
    exact earlier p less equalP
  | none =>
    refine lookup_eq_none.mpr fun p _ equal => ?_
    have same := keeps.others p address equal apart
    rw [same] at equal ⊢
    exact lookup_eq_none.mp found p (tidy.used (Address.Equal.type_ne_none equal)) equal

/-- What `findEncryptionMapping` returns. -/
theorem findEncryptionMapping_fst (env : Platform) (m : EncryptionManager) (address : Address)
    (time : ℚ) : (m.findEncryptionMapping env address time).1 = m.lookup env address time := by
  unfold findEncryptionMapping
  cases m.lookup env address time <;> rfl

end EncryptionManager

end Netcode
